import Charting.Layout.Headless
import Charting.Proofs.Options.Merging
import Charting.Proofs.Plot.Binding
import Charting.Proofs.Plot.ColumnRules

/-!
# Planning after the rules of the column plot

The flags that are written after drawing change the label of the columns and nothing else of the
plan. A label that was there before stays in its place, so that what was drawn can be drawn again.
-/

namespace Charting

/-! ## Scales -/

theorem Scale.constrain_congr {s : Scale} {t u : OptionTree}
    (h : ∀ key, key ≠ "label" → t.get? key = u.get? key) : s.constrain t = s.constrain u := by
  simp [Scale.constrain, h]

theorem Scale.constrain_eq_self {s : Scale} {t : OptionTree}
    (h : ∀ key, key ≠ "label" → t.get? key = none) : s.constrain t = s := by
  simp [Scale.constrain, h]

theorem ScaleSet.resolve_congr {fields : List ScaleField} {a b : Options}
    (h : ∀ f ∈ fields, ∀ s, f.constrain a s = f.constrain b s) :
    ScaleSet.resolve fields a = ScaleSet.resolve fields b := by
  rw [ScaleSet.resolve, ScaleSet.resolve]
  generalize ([] : ScaleSet) = scales
  induction fields generalizing scales with
  | nil => rfl
  | cons f rest ih =>
      simp only [List.foldl_cons, h f (List.mem_cons_self ..)]
      exact ih (fun f' hf => h f' (List.mem_cons_of_mem _ hf)) _

namespace Plot.Column

variable {v : Verdict} {options : Options}

theorem get?_xAxis_writeVerdict :
    (writeVerdict v options).get? "xAxis" =
      some (((options.get? "xAxis").getD (.obj [])).alter ["label"] (turn v.crowded)) := by
  rw [Options.get?_of_key rfl, Options.get?_of_key rfl, writeVerdict_root,
    OptionTree.get?_alter_of_ne (by decide), OptionTree.get?_alter_cons, if_pos rfl]

theorem get?_label_writeVerdict :
    (writeVerdict v options).get? "label" =
      some (move v.moved ((options.get? "label").getD (.obj []))) := by
  rw [Options.get?_of_key rfl, Options.get?_of_key rfl, writeVerdict_root,
    OptionTree.get?_alter_cons, if_pos rfl, OptionTree.get?_alter_of_ne (by decide)]
  rfl

theorem get?_writeVerdict {path : String}
    (outside : (OptionTree.segments path).head (OptionTree.segments_ne_nil path) ∉
      ["xAxis", "label"]) : (writeVerdict v options).get? path = options.get? path :=
  (writeVerdict_sameBut v options).get? outside

/-! ## The plan -/

/-- The labels of an axis have no part in its scale. -/
theorem constrain_writeVerdict {f : ScaleField} {s : Scale}
    (axis : f.axis = some "xAxis" ∨ f.axis = some "yAxis" ∨ f.axis = none) :
    f.constrain (writeVerdict v options) s = f.constrain options s := by
  rcases axis with x | y | none
  · rw [ScaleField.constrain, ScaleField.constrain, x, Option.bind_some, Option.bind_some,
      get?_xAxis_writeVerdict]
    cases options.get? "xAxis" with
    | none =>
        exact Scale.constrain_eq_self fun key hk => by
          rw [Option.getD_none, OptionTree.get?_alter_of_ne (Ne.symm hk)]
          rfl
    | some axis =>
        exact Scale.constrain_congr fun key hk => OptionTree.get?_alter_of_ne (Ne.symm hk)
  · rw [ScaleField.constrain, ScaleField.constrain, y, Option.bind_some, Option.bind_some,
      get?_writeVerdict (by decide)]
  · rw [ScaleField.constrain, ScaleField.constrain, none]
    rfl

theorem cartesian_writeVerdict (baseline : Scale) :
    ScaleSet.cartesian (writeVerdict v options) baseline =
      ScaleSet.cartesian options baseline := by
  simp (disch := decide) only [ScaleSet.cartesian, Options.requireString, Options.string?,
    get?_writeVerdict]
  cases (options.get? "xField").bind OptionTree.string? with
  | none => rfl
  | some xField =>
      cases (options.get? "yField").bind OptionTree.string? with
      | none => rfl
      | some yField =>
          refine congrArg Except.ok (ScaleSet.resolve_congr fun f hf s => ?_)
          apply constrain_writeVerdict
          simp only [List.mem_cons, Option.mem_toList, Option.map_eq_some_iff] at hf
          rcases hf with rfl | rfl | ⟨_, _, rfl⟩
          · exact .inl rfl
          · exact .inr (.inl rfl)
          · exact .inr (.inr rfl)

def geometryOf (options : Options) : Except Failure Geometry :=
  Geometry.ofChart .interval "main" "columnLabel" showsTags adjust options

def relabel (slot : LabelSlot) (geometry : Geometry) : Geometry := { geometry with label := slot }

theorem adjust_relabel (slot : LabelSlot) (geometry : Geometry) :
    adjust options (relabel slot geometry) = relabel slot (adjust options geometry) := by
  rw [adjust, adjust]
  cases (options.string? "type").filter shapes.contains <;> rfl

theorem adjust_writeVerdict (geometry : Geometry) :
    adjust (writeVerdict v options) geometry = adjust options geometry := by
  simp (disch := decide) only [adjust, Options.string?, get?_writeVerdict]

def slotOf (options : Options) : LabelSlot :=
  .ofOptions "columnLabel" ((options.string? "yField").getD "") options

theorem ofOptions_writeVerdict (kind : GeometryKind) (variant : String) :
    Geometry.ofOptions kind variant (writeVerdict v options) =
      Geometry.ofOptions kind variant options := by
  simp (disch := decide) only [Geometry.ofOptions, Options.string?, Options.present?,
    Options.number?, get?_writeVerdict]

theorem showsTags_writeVerdict : showsTags (writeVerdict v options) = showsTags options := by
  simp (disch := decide) only [showsTags, Options.bool?, get?_writeVerdict]

theorem requireString_writeVerdict {path : String}
    (outside : (OptionTree.segments path).head (OptionTree.segments_ne_nil path) ∉
      ["xAxis", "label"]) :
    (writeVerdict v options).requireString path = options.requireString path := by
  rw [Options.requireString, Options.requireString, Options.string?, Options.string?,
    get?_writeVerdict outside]

/-- Of the geometry, the label is all that changes. -/
theorem geometryOf_writeVerdict :
    geometryOf (writeVerdict v options) =
      (geometryOf options).map (relabel (slotOf (writeVerdict v options))) := by
  rw [geometryOf, geometryOf, Geometry.ofChart, Geometry.ofChart,
    requireString_writeVerdict (by decide), requireString_writeVerdict (by decide),
    ofOptions_writeVerdict]
  cases options.requireString "xField" with
  | error e => rfl
  | ok xField =>
      cases required : options.requireString "yField" with
      | error e => rfl
      | ok yField =>
          cases Geometry.ofOptions .interval "main" options with
          | error e => rfl
          | ok made =>
              have slot : slotOf (writeVerdict v options) =
                  .ofOptions "columnLabel" yField (writeVerdict v options) := by
                rw [slotOf, Options.requireString_eq_ok.mp
                  ((requireString_writeVerdict (by decide)).trans required)]
                rfl
              rw [slot]
              show Except.ok (adjust (writeVerdict v options) _) =
                Except.ok (relabel _ (adjust options _))
              rw [adjust_writeVerdict, ← adjust_relabel, showsTags_writeVerdict]
              rfl

/-! ## The label -/

theorem get?_move_of_ne {moved : Bool} {t : OptionTree} {key : String}
    (h : "adjustPosition" ≠ key) : (move moved t).get? key = t.get? key :=
  OptionTree.get?_alter_of_ne h

/-- The flag is one of the options that a label passes through. -/
theorem resolve_move (position : String) (moved : Bool) (t : OptionTree) :
    ∃ extra, LabelDescriptor.resolve position (move moved t) =
      (LabelDescriptor.resolve position t).map fun descriptor => { descriptor with extra } := by
  have merged {key : String} (h : "adjustPosition" ≠ key) :
      ((OptionTree.obj (LabelPosition.ofName position).options).mergeObject (move moved t)).get?
          key =
        ((OptionTree.obj (LabelPosition.ofName position).options).mergeObject t).get? key := by
    rw [OptionTree.mergeObject_obj, OptionTree.mergeObject_obj]
    exact OptionTree.get?_mergeFields_update h
  simp (disch := decide) only [LabelDescriptor.resolve, merged]
  split
  · exact ⟨_, rfl⟩
  · exact ⟨[], rfl⟩

/-- The label option once the flag is written: always an object, and so never null or false. -/
theorem slotOf_writeVerdict :
    slotOf (writeVerdict v options) =
      let label := move v.moved ((options.get? "label").getD (.obj []))
      match LabelDescriptor.resolve (((label.get? "position").bind OptionTree.string?).getD "")
        label with
      | none => .suppressed
      | some descriptor => .bound {
        component := "label"
        descriptor :=
          descriptor.withDefaults [(options.string? "yField").getD ""] "columnLabel" } := by
  have present : (writeVerdict v options).present? "label" =
      some (move v.moved ((options.get? "label").getD (.obj []))) := by
    rw [Options.present?, get?_label_writeVerdict]
    rfl
  have yField : (writeVerdict v options).string? "yField" = options.string? "yField" := by
    rw [Options.string?, Options.string?, get?_writeVerdict (by decide)]
  rw [slotOf, LabelSlot.ofOptions, present, yField]
  rfl

/-- Labels that are drawn before the flag is written are drawn alike after it. -/
theorem placeLabels_writeVerdict (elements : List Element) :
    Layout.placeLabels (slotOf options) elements = [] ∨
      Layout.placeLabels (slotOf (writeVerdict v options)) elements =
        Layout.placeLabels (slotOf options) elements := by
  rw [slotOf_writeVerdict, slotOf, LabelSlot.ofOptions, Options.present?]
  cases given : options.get? "label" with
  | none => exact .inl rfl
  | some label =>
      simp only [Option.bind_some, Option.getD_some, OptionTree.nonNull?]
      cases null : label.isNull with
      | true => exact .inl rfl
      | false =>
          cases off : label.bool? == some false with
          | true => simp [off, Layout.placeLabels]
          | false =>
              obtain ⟨extra, passed⟩ := resolve_move
                (((label.get? "position").bind OptionTree.string?).getD "") v.moved label
              simp only [off, Bool.false_eq_true, ↓reduceIte]
              rw [get?_move_of_ne (by decide), passed]
              cases LabelDescriptor.resolve
                (((label.get? "position").bind OptionTree.string?).getD "") label with
              | none => exact .inl rfl
              | some descriptor => exact .inr rfl

end Plot.Column

end Charting
