import Charting.Proofs.Label
import Charting.Proofs.Plot.Binding

/-!
# The label slot of a binding

What the label option says decides the slot: nothing leaves it unset, false or an invisible object
suppresses the label, and everything else binds one. A bound label has a field to show and a type,
whatever the caller left out.
-/

namespace Charting

/-- The position that a label asks for; empty if it asks for none. -/
def LabelDescriptor.positionOf (label : OptionTree) : String :=
  ((label.get? "position").bind OptionTree.string?).getD ""

/-- The fields that a label names, which are the strings of its list. -/
def LabelDescriptor.fieldsOf (label : OptionTree) : List String :=
  ((label.get? "fields").map LabelDescriptor.stringItems).getD []

/-- A component for some label options, with what the caller left out filled in. -/
structure LabelHandle.Fits (handle : LabelHandle) (labelType yField : String)
    (label : OptionTree) : Prop where
  component : handle.component = "label"
  resolved : ∃ d, LabelDescriptor.resolve (LabelDescriptor.positionOf label) label = some d ∧
    handle.descriptor =
      { d with fields := handle.descriptor.fields, labelType := handle.descriptor.labelType }
  fields : handle.descriptor.fields =
    if LabelDescriptor.fieldsOf label = [] then [yField] else LabelDescriptor.fieldsOf label
  fields_ne_nil : handle.descriptor.fields ≠ []
  labelType : handle.descriptor.labelType =
    some (((label.get? "labelType").bind OptionTree.string?).getD labelType)

namespace LabelSlot

variable {labelType yField : String} {options : Options} {label : OptionTree}

/-- The slot for label options that are not null. -/
def ofLabel (labelType yField : String) (label : OptionTree) : LabelSlot :=
  if label.bool? == some false then .suppressed
  else
    match LabelDescriptor.resolve (LabelDescriptor.positionOf label) label with
    | none => .suppressed
    | some descriptor =>
      .bound { component := "label", descriptor := descriptor.withDefaults [yField] labelType }

theorem ofLabel_ne_unset : ofLabel labelType yField label ≠ .unset := by
  rw [ofLabel]
  split
  · nofun
  · split <;> nofun

/-- A label is suppressed by a false in its place or in its own switch. -/
theorem ofLabel_eq_suppressed_iff (keyed : Entries.WellKeyed label.fields) :
    ofLabel labelType yField label = .suppressed ↔
      label = .bool false ∨
        ∃ own, label = .obj own ∧ Entries.get? own "visible" = some (.bool false) := by
  have hidden : LabelDescriptor.resolve (LabelDescriptor.positionOf label) label = none ↔
      ∃ own, label = .obj own ∧ Entries.get? own "visible" = some (.bool false) :=
    (LabelDescriptor.resolve_eq_none_iff keyed).trans OptionTree.bool?_get?_eq_some_iff
  rw [ofLabel]
  cases off : label.bool? == some false with
  | true =>
      rw [beq_iff_eq] at off
      cases label with
      | bool b =>
          cases off
          simp
      | _ => cases off
  | false =>
      have on : label ≠ .bool false := by
        rintro rfl
        cases off
      rw [if_neg (by decide), ← hidden]
      cases LabelDescriptor.resolve (LabelDescriptor.positionOf label) label <;> simp [on]

theorem ofLabel_fits (keyed : Entries.WellKeyed label.fields) {handle : LabelHandle}
    (bound : ofLabel labelType yField label = .bound handle) :
    handle.Fits labelType yField label := by
  rw [ofLabel] at bound
  split at bound
  · cases bound
  · split at bound
    · cases bound
    · rename_i d resolved
      cases bound
      have given := LabelDescriptor.resolve_eq_some keyed resolved
      have fields : d.fields = LabelDescriptor.fieldsOf label := by rw [given]; rfl
      have labelType : d.labelType = (label.get? "labelType").bind OptionTree.string? := by
        rw [given]
      refine ⟨rfl, ⟨d, resolved, rfl⟩, ?_, ?_, ?_⟩
      · rw [LabelDescriptor.withDefaults, fields]
        simp only [List.isEmpty_iff]
      · rw [LabelDescriptor.withDefaults]
        cases d.fields <;> simp
      · rw [LabelDescriptor.withDefaults, labelType]
        cases (label.get? "labelType").bind OptionTree.string? <;> rfl

theorem ofOptions_cases (labelType yField : String) (options : Options) :
    (options.get? "label" = none ∨ options.get? "label" = some .null) ∧
        ofOptions labelType yField options = .unset ∨
      ∃ label, options.get? "label" = some label ∧ label ≠ .null ∧
        ofOptions labelType yField options = ofLabel labelType yField label := by
  rw [ofOptions, Options.present?]
  cases options.get? "label" with
  | none => exact .inl ⟨.inl rfl, rfl⟩
  | some label =>
      cases label with
      | null => exact .inl ⟨.inr rfl, rfl⟩
      | _ => exact .inr ⟨_, rfl, by simp, rfl⟩

end LabelSlot

/-! ## Binding -/

namespace GeometryHooks

variable {σ : Type} {hooks : GeometryHooks σ} {kind : GeometryKind} {variant : String}
  {options : Options} {geometry : Geometry} {w w' : σ}

/-- The label is in its slot before the plot type adjusts the geometry. -/
theorem adjusts_of_bindKind
    (bound : (hooks.bindKind .standard kind variant options).run.run w = (.ok geometry, w')) :
    ∃ yField made w₁, options.string? "yField" = some yField ∧
      made.label = .ofOptions hooks.labelType yField options ∧
      (hooks.adjust options made).run.run w₁ = (.ok geometry, w') := by
  rcases asked : (hooks.overlayEnabled options).run w with ⟨overlaid, w₁⟩
  rw [run_bindKind_standard hooks kind variant asked] at bound
  cases chart : Geometry.ofChart kind variant hooks.labelType (fun _ => overlaid)
      (fun _ made => made) options with
  | error e =>
      rw [chart] at bound
      cases bound
  | ok made =>
      rw [chart] at bound
      obtain ⟨_, yField, _, -, hy, -, rfl⟩ := Geometry.ofChart_eq_ok.mp chart
      exact ⟨yField, _, w₁, hy, rfl, bound⟩

/--
The label slot of a chart whose plot type leaves labels alone. The options have no object with a key
twice.
-/
theorem label_of_bind
    (alone : ∀ options made geometry w w',
      (hooks.adjust options made).run.run w = (.ok geometry, w') → geometry.label = made.label)
    (keyed : options.root.WellKeyed)
    (bound : (hooks.bind .standard options).run.run w = (.ok geometry, w')) :
    (geometry.label = .unset ↔
      options.get? "label" = none ∨ options.get? "label" = some .null) ∧
    (geometry.label = .suppressed ↔
      options.get? "label" = some (.bool false) ∨
        ∃ own, options.get? "label" = some (.obj own) ∧
          Entries.get? own "visible" = some (.bool false)) ∧
    (geometry.label ≠ .unset → geometry.label ≠ .suppressed →
      ∃ label yField handle, options.get? "label" = some label ∧
        options.string? "yField" = some yField ∧ geometry.label = .bound handle ∧
        handle.Fits hooks.labelType yField label) := by
  rw [bind] at bound
  cases known : hooks.engineKind with
  | error e =>
      rw [known] at bound
      cases bound
  | ok kind =>
      rw [known] at bound
      have bound : (hooks.bindKind .standard kind hooks.variant options).run.run w =
          (.ok geometry, w') := bound
      obtain ⟨yField, made, w₁, hy, slot, adjusted⟩ := adjusts_of_bindKind bound
      rw [alone _ _ _ _ _ adjusted, slot]
      rcases LabelSlot.ofOptions_cases hooks.labelType yField options with
        ⟨absent, unset⟩ | ⟨label, given, present, shown⟩
      · rw [unset]
        rcases absent with none | null
        · simp [none]
        · simp [null]
      · have keyed : Entries.WellKeyed label.fields := (keyed.find? given).fields.keys
        rw [shown, given]
        refine ⟨?_, ?_, fun _ visible => ?_⟩
        · simp [present, LabelSlot.ofLabel_ne_unset]
        · simpa using LabelSlot.ofLabel_eq_suppressed_iff keyed
        · cases bound : LabelSlot.ofLabel hooks.labelType yField label with
          | unset => exact absurd bound LabelSlot.ofLabel_ne_unset
          | suppressed => exact absurd bound visible
          | bound handle =>
              exact ⟨label, yField, handle, rfl, hy, rfl, LabelSlot.ofLabel_fits keyed bound⟩

/-! ## A label without a field -/

/-- Round columns, counted as they are made. -/
def roundColumns : GeometryHooks Nat where
  name := "column"
  names := { engineNames := [("column", "interval")], semanticNames := [("interval", "column")] }
  variant := "main"
  labelType := "columnLabel"
  adjust _ made := do
    modify (· + 1)
    return { made with shape := some "round" }

/-- The only field that the label names is no text. -/
def numbered : Options where
  root := .obj [("xField", .str "x"), ("yField", .str "y"),
    ("label", .obj [("position", .str "middle"), ("fields", .arr [.num 1])])]

theorem label_of_bind_numbered :
    ∃ geometry handle, (roundColumns.bind .standard numbered).run.run 0 = (.ok geometry, 1) ∧
      geometry.label = .bound handle ∧ handle.descriptor.fields = ["y"] ∧
      handle.descriptor.labelType = some "columnLabel" := by
  have alone : ∀ options made geometry w w',
      (roundColumns.adjust options made).run.run w = (.ok geometry, w') →
        geometry.label = made.label := by
    intro options made geometry w w' adjusted
    cases adjusted
    rfl
  have keyed : numbered.root.WellKeyed := by
    simp [numbered, OptionTree.WellKeyed, OptionTree.WellKeyedFields, Entries.WellKeyed,
      Entries.keys]
  obtain ⟨geometry, bound⟩ : ∃ geometry,
      (roundColumns.bind .standard numbered).run.run 0 = (.ok geometry, 1) := ⟨_, rfl⟩
  obtain ⟨unset, suppressed, filled⟩ := label_of_bind alone keyed bound
  have label : numbered.get? "label" =
      some (.obj [("position", .str "middle"), ("fields", .arr [.num 1])]) := rfl
  have present : geometry.label ≠ .unset := fun h => by simpa [label] using unset.mp h
  have visible : geometry.label ≠ .suppressed := fun h => by
    simpa [label, Entries.get?] using suppressed.mp h
  obtain ⟨label', yField, handle, given, hy, shown, fits⟩ := filled present visible
  obtain rfl := Option.some.inj (label.symm.trans given)
  cases hy
  exact ⟨geometry, handle, bound, shown, fits.fields, fits.labelType⟩

end GeometryHooks

end Charting
