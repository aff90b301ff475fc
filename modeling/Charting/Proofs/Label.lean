import Charting.Label
import Charting.Proofs.Options.Paths
import Charting.Proofs.Options.Resolving

/-!
# What becomes of label options

Each of the label options goes to one place: the six that a descriptor knows into it, merged with
what the position starts from, and all the others, in their order, to what is passed through.
-/

namespace Charting

/-- Only an object has a switch under a key. -/
theorem OptionTree.bool?_get?_eq_some_iff {t : OptionTree} {key : String} {on : Bool} :
    (t.get? key).bind bool? = some on ↔
      ∃ own, t = .obj own ∧ Entries.get? own key = some (.bool on) := by
  constructor
  · intro h
    obtain ⟨value, found, flag⟩ := Option.bind_eq_some_iff.mp h
    rcases object?_eq_none_or t with bare | ⟨own, rfl⟩
    · rw [get?_eq_none_of_object?_eq_none bare] at found
      cases found
    · cases value with
      | bool b =>
          cases flag
          exact ⟨own, rfl, found⟩
      | _ => cases flag
  · rintro ⟨own, rfl, found⟩
    rw [get?, fields_obj, found]
    rfl

/-! ## The table of positions -/

namespace LabelPosition

def offset : LabelPosition → Float
  | .top | .bottom => 4
  | .middle | .other _ => 0

def style : LabelPosition → OptionMap
  | .top | .bottom => [("textBaseline", .str "bottom")]
  | .middle => [("textBaseline", .str "middle")]
  | .other _ => []

variable {p : LabelPosition} {key : String}

theorem get?_options_offset : Entries.get? p.options "offset" = some (.num p.offset) := by
  cases p <;> rfl

theorem get?_options_style :
    Entries.get? p.options "style" = some (.obj p.style) ∨
      Entries.get? p.options "style" = none ∧ p.style = [] := by
  cases p with
  | other name => exact .inr ⟨rfl, rfl⟩
  | _ => exact .inl rfl

theorem wellKeyed_options : Entries.WellKeyed p.options := by
  cases p <;> simp [options, Entries.WellKeyed, Entries.keys]

theorem keys_options_subset : Entries.keys p.options ⊆ ["offset", "style"] := by
  cases p <;> simp [options, Entries.keys]

theorem get?_options_eq_none (other : key ∉ ["offset", "style"]) :
    Entries.get? p.options key = none :=
  Entries.get?_eq_none_iff.mpr fun known => other (keys_options_subset known)

end LabelPosition

/-! ## One option after the merge -/

namespace LabelDescriptor

variable {position key : String} {overrides : OptionTree} {d : LabelDescriptor}

/-- The label options of a position with the caller's over them. -/
def merged (position : String) (overrides : OptionTree) : OptionTree :=
  (OptionTree.obj (LabelPosition.ofName position).options).mergeObject overrides

theorem get?_merged (keyed : Entries.WellKeyed overrides.fields) :
    (merged position overrides).get? key =
      (overrides.get? key).elim (Entries.get? (LabelPosition.ofName position).options key)
        fun value => some ((Entries.get? (LabelPosition.ofName position).options key).elim value
          fun existing => existing.merge value) := by
  rw [merged, OptionTree.mergeObject_obj, OptionTree.get?, OptionTree.fields_obj,
    OptionTree.get?_mergeFields keyed]
  rfl

/-- Under the keys that the table does not have, the caller's options are all there is. -/
theorem get?_merged_of_notMem (keyed : Entries.WellKeyed overrides.fields)
    (other : key ∉ ["offset", "style"]) :
    (merged position overrides).get? key = overrides.get? key := by
  rw [get?_merged keyed, LabelPosition.get?_options_eq_none other]
  cases overrides.get? key <;> rfl

theorem get?_merged_offset (keyed : Entries.WellKeyed overrides.fields) :
    (merged position overrides).get? "offset" =
      some ((overrides.get? "offset").getD (.num (LabelPosition.ofName position).offset)) := by
  rw [get?_merged keyed, LabelPosition.get?_options_offset]
  cases overrides.get? "offset" with
  | none => rfl
  | some value => exact congrArg some (OptionTree.leaf_merge rfl value)

theorem get?_merged_style (keyed : overrides.WellKeyed) :
    (((merged position overrides).get? "style").map OptionTree.fields).getD [] =
      match overrides.get? "style" with
      | none => (LabelPosition.ofName position).style
      | some (.obj own) => OptionTree.mergeFields (LabelPosition.ofName position).style own
      | some _ => [] := by
  rw [get?_merged keyed.fields.keys]
  cases given : overrides.get? "style" with
  | none =>
      rcases LabelPosition.get?_options_style (p := .ofName position) with known | ⟨new, none⟩
      · rw [known]
        rfl
      · rw [new, none]
        rfl
  | some value =>
      rcases OptionTree.object?_eq_none_or value with bare | ⟨own, rfl⟩
      · -- nothing is left of the table under a value that is no object
        have none : value.fields = [] := by rw [OptionTree.fields, bare, Option.getD_none]
        have replaced (existing : Option OptionTree) :
            existing.elim value (fun existing => existing.merge value) = value := by
          cases existing with
          | none => rfl
          | some existing => exact OptionTree.merge_of_object?_eq_none bare
        rw [Option.elim_some, replaced, Option.map_some, none, Option.getD_some]
        cases value with
        | obj own => cases bare
        | _ => rfl
      · have keyedOwn : Entries.WellKeyed own := (keyed.fields.child given).keys
        rcases LabelPosition.get?_options_style (p := .ofName position) with known | ⟨new, none⟩
        · rw [known]
          simp
        · rw [new, none]
          exact (OptionTree.nil_mergeFields keyedOwn).symm

/-- All that is passed through comes from the caller. -/
theorem extra_merged (keyed : Entries.WellKeyed overrides.fields) :
    ownKeys.foldl (fun rest key => Entries.erase key rest) (merged position overrides).fields =
      overrides.fields.filter fun option => decide (option.1 ∉ ownKeys) := by
  let table := (LabelPosition.ofName position).options
  have both : (merged position overrides).fields =
      OptionTree.mergeFields table overrides.fields := by
    rw [merged, OptionTree.mergeObject_obj, OptionTree.fields_obj]
  have owned : ∀ key ∈ Entries.keys table, key ∈ ownKeys := fun key known =>
    (show ["offset", "style"] ⊆ ownKeys by decide) (LabelPosition.keys_options_subset known)
  have nothing : table.filter (fun option => decide (option.1 ∉ ownKeys)) = [] :=
    List.filter_eq_nil_iff.mpr fun option among => by
      simpa using owned option.1 (List.mem_map.mpr ⟨option, among, rfl⟩)
  rw [both, (OptionTree.wellKeyed_mergeFields LabelPosition.wellKeyed_options).foldl_erase,
    OptionTree.filter_mergeFields (fun key => decide (key ∉ ownKeys)) keyed
      fun key _ known => by simpa using owned key known,
    nothing, List.nil_append]

/-! ## The descriptor -/

theorem resolve_eq_some (keyed : Entries.WellKeyed overrides.fields)
    (h : resolve position overrides = some d) :
    d = {
      offset := (((merged position overrides).get? "offset").bind OptionTree.number?).getD 0
      style := (((merged position overrides).get? "style").map OptionTree.fields).getD []
      fields := ((overrides.get? "fields").map stringItems).getD []
      labelType := (overrides.get? "labelType").bind OptionTree.string?
      position := ((overrides.get? "position").bind OptionTree.string?).or
        (if position.isEmpty then none else some position)
      extra := overrides.fields.filter fun option => decide (option.1 ∉ ownKeys) } := by
  rw [← extra_merged keyed, ← get?_merged_of_notMem keyed (by decide),
    ← get?_merged_of_notMem keyed (by decide), ← get?_merged_of_notMem keyed (by decide)]
  rw [resolve] at h
  split at h
  · exact (Option.some.inj h).symm
  · cases h

/-- A label is hidden when its own options say so. -/
theorem resolve_eq_none_iff (keyed : Entries.WellKeyed overrides.fields) :
    resolve position overrides = none ↔
      (overrides.get? "visible").bind OptionTree.bool? = some false := by
  have own : ((OptionTree.obj (LabelPosition.ofName position).options).mergeObject overrides).get?
      "visible" = overrides.get? "visible" := get?_merged_of_notMem keyed (by decide)
  simp only [resolve, own]
  cases (overrides.get? "visible").bind OptionTree.bool? with
  | none => simp
  | some visible => cases visible <;> simp

/-- Where a descriptor has each of the label options. -/
structure Keeps (position : String) (overrides : OptionTree) (d : LabelDescriptor) : Prop where
  visible : d.visible = true
  extra : d.extra = overrides.fields.filter fun option => decide (option.1 ∉ ownKeys)
  style : d.style = match overrides.get? "style" with
    | none => (LabelPosition.ofName position).style
    | some (.obj own) => OptionTree.mergeFields (LabelPosition.ofName position).style own
    | some _ => []
  offset : d.offset = match overrides.get? "offset" with
    | none => (LabelPosition.ofName position).offset
    | some (.num x) => x
    | some _ => 0
  fields : d.fields = match overrides.get? "fields" with
    | some (.arr items) => items.filterMap OptionTree.string?
    | _ => []
  labelType : d.labelType = match overrides.get? "labelType" with
    | some (.str name) => some name
    | _ => none
  position : d.position = match overrides.get? "position" with
    | some (.str name) => some name
    | _ => if position = "" then none else some position

/-- Label options either hide the label or all have their place in it. -/
theorem resolve_keeps (position : String) {overrides : OptionTree} (keyed : overrides.WellKeyed) :
    (resolve position overrides = none ↔
      ∃ own, overrides = .obj own ∧ Entries.get? own "visible" = some (.bool false)) ∧
    ∀ d, resolve position overrides = some d → d.Keeps position overrides := by
  have keyedFields := keyed.fields.keys
  refine ⟨(resolve_eq_none_iff keyedFields).trans OptionTree.bool?_get?_eq_some_iff,
    fun d resolved => ?_⟩
  obtain rfl := resolve_eq_some keyedFields resolved
  refine ⟨rfl, rfl, get?_merged_style keyed, ?_, ?_, ?_, ?_⟩
  · rw [get?_merged_offset keyedFields]
    cases overrides.get? "offset" with
    | none => rfl
    | some value => cases value <;> rfl
  · cases overrides.get? "fields" with
    | none => rfl
    | some value => cases value <;> rfl
  · cases overrides.get? "labelType" with
    | none => rfl
    | some value => cases value <;> rfl
  · have fallback : (if position.isEmpty then none else some position) =
        if position = "" then none else some position := by
      simp only [String.isEmpty_iff]
    rw [fallback]
    cases overrides.get? "position" with
    | none => rfl
    | some value => cases value <;> rfl

/-- Options of every sort, some of them of a kind that is not asked for. -/
def assorted : OptionTree :=
  .obj [("formatter", .fn ⟨0⟩), ("visible", .str "always"), ("style", .obj [("fontSize", .num 10)]),
    ("adjustColor", .bool true), ("fields", .arr [.str "x", .num 1, .str "y"]),
    ("offset", .str "far"), ("position", .str "middle")]

theorem resolve_keeps_assorted :
    ∃ d, resolve "top" assorted = some d ∧ d.Keeps "top" assorted ∧
      Entries.keys d.extra = ["formatter", "adjustColor"] ∧
      Entries.keys d.style = ["textBaseline", "fontSize"] ∧ d.fields = ["x", "y"] ∧
      d.position = some "middle" := by
  have keyed : assorted.WellKeyed := by
    simp [assorted, OptionTree.WellKeyed, OptionTree.WellKeyedFields, Entries.WellKeyed,
      Entries.keys]
  obtain ⟨-, keeps⟩ := resolve_keeps "top" keyed
  exact ⟨_, rfl, keeps _ rfl, rfl, rfl, rfl, rfl⟩

end LabelDescriptor

end Charting
