import Charting.Proofs.ConversionTag
import Charting.Proofs.Settings

/-!
# Typed settings of a tag

Typed settings of a tag are written under keys, some of them inside an object of their own, and are
read back by paths over the defaults. Nothing is lost on the way: a setting that was made is read as
it was made, and one that was not made leaves its default.
-/

namespace Charting

/-! ## Settings in an object of their own -/

namespace OptionTree

variable {below fields own : OptionMap} {overrides : OptionTree} {outer inner : String}

/-- Inside an object that the caller may leave out, the caller's fields lie over those below. -/
theorem find?_mergeObject_inner (keyed : Entries.WellKeyed overrides.fields)
    (known : Entries.get? below outer = some (.obj fields))
    (given : (overrides.get? outer).getD (.obj []) = .obj own) :
    ((OptionTree.obj below).mergeObject overrides).find? [outer, inner] =
      Entries.get? (mergeFields fields own) inner := by
  have merged : ((OptionTree.obj below).mergeObject overrides).get? outer =
      some (.obj (mergeFields fields own)) := by
    rw [mergeObject_obj, get?, fields_obj, get?_mergeFields keyed, known]
    rw [get?] at given
    cases found : Entries.get? overrides.fields outer with
    | none =>
        rw [found] at given
        cases given
        rw [mergeFields_nil]
        rfl
    | some value =>
        rw [found] at given
        obtain rfl : value = .obj own := given
        rw [Option.elim_some, Option.elim_some, obj_merge_obj]
  rw [find?, merged, Option.bind_some, find?, get?, fields_obj]
  cases Entries.get? (mergeFields fields own) inner <;> rfl

/-- A leaf inside an object is the fallback for what is read there. -/
theorem getD_mergeObject_inner {α : Type} {read : OptionTree → Option α} {leaf : OptionTree}
    {fallback : α} {path : String} (parts : segments path = [outer, inner])
    (keyed : Entries.WellKeyed overrides.fields)
    (known : Entries.get? below outer = some (.obj fields))
    (given : (overrides.get? outer).getD (.obj []) = .obj own) (ownKeyed : Entries.WellKeyed own)
    (leafKnown : Entries.get? fields inner = some leaf) (bare : leaf.object? = none)
    (reads : read leaf = some fallback) :
    ((((OptionTree.obj below).mergeObject overrides).pointer? path).bind read).getD fallback =
      ((Entries.get? own inner).bind read).getD fallback := by
  rw [pointer?, parts, find?_mergeObject_inner keyed known given]
  exact getD_mergeFields ownKeyed leafKnown bare reads

theorem fields_mergeObject_inner {inside : OptionMap} {path : String}
    (parts : segments path = [outer, inner]) (keyed : Entries.WellKeyed overrides.fields)
    (known : Entries.get? below outer = some (.obj fields))
    (given : (overrides.get? outer).getD (.obj []) = .obj own)
    (silent : inner ∉ Entries.keys own) (kept : Entries.get? fields inner = some (.obj inside)) :
    ((((OptionTree.obj below).mergeObject overrides).pointer? path).map
      OptionTree.fields).getD [] = inside := by
  rw [pointer?, parts, find?_mergeObject_inner keyed known given,
    get?_mergeFields_of_notMem silent, kept]
  rfl

end OptionTree

/-- The caller decides the parts of a tag by what the objects for them say. -/
theorem TagSpec.resolve_inner (field : String) (transpose animation : Bool)
    {overrides : OptionTree} {arrow value : OptionMap}
    (keyed : Entries.WellKeyed overrides.fields) (arrowKeyed : Entries.WellKeyed arrow)
    (valueKeyed : Entries.WellKeyed value)
    (arrowGiven : (overrides.get? "arrow").getD (.obj []) = .obj arrow)
    (valueGiven : (overrides.get? "value").getD (.obj []) = .obj value) :
    let spec := resolve field transpose animation overrides
    spec.arrowVisible = ((Entries.get? arrow "visible").bind OptionTree.bool?).getD true ∧
      spec.arrowHeadSize = ((Entries.get? arrow "headSize").bind OptionTree.number?).getD 12 ∧
      ("style" ∉ Entries.keys arrow →
        spec.arrowStyle = [("fill", .str "rgba(0, 0, 0, 0.05)")]) ∧
      spec.valueVisible = ((Entries.get? value "visible").bind OptionTree.bool?).getD true ∧
      ("style" ∉ Entries.keys value → spec.valueStyle =
        [("fontSize", .num 12), ("fill", .str "rgba(0, 0, 0, 0.85)")]) ∧
      spec.formatter = (Entries.get? value "formatter").bind OptionTree.callback? := by
  let below : OptionMap := (defaults.merge (.obj [("field", .str field),
    ("transpose", .bool transpose), ("animation", .bool animation)])).fields
  refine ⟨?_, ?_, fun silent => ?_, ?_, fun silent => ?_, ?_⟩
  · exact OptionTree.getD_mergeObject_inner rfl keyed rfl arrowGiven arrowKeyed rfl rfl rfl
  · exact OptionTree.getD_mergeObject_inner rfl keyed rfl arrowGiven arrowKeyed rfl rfl rfl
  · exact OptionTree.fields_mergeObject_inner rfl keyed rfl arrowGiven silent rfl
  · exact OptionTree.getD_mergeObject_inner rfl keyed rfl valueGiven valueKeyed rfl rfl rfl
  · exact OptionTree.fields_mergeObject_inner rfl keyed rfl valueGiven silent rfl
  · have formatter : ((OptionTree.obj below).mergeObject overrides).find? ["value", "formatter"] =
        Entries.get? value "formatter" := by
      rw [OptionTree.find?_mergeObject_inner keyed rfl valueGiven,
        OptionTree.get?_mergeFields valueKeyed]
      cases Entries.get? value "formatter" <;> rfl
    exact congrArg (fun found => found.bind OptionTree.callback?) formatter

/-! ## What typed settings are written as -/

namespace TagSettings

variable (s : TagSettings)

/-- The settings under keys of their own, the arrow's among them. -/
def table (s : TagSettings) : Entries (Option OptionTree) :=
  [("visible", s.visible.map .bool), ("size", s.size.map .num), ("spacing", s.spacing.map .num),
    ("offset", s.offset.map .num),
    ("arrow", s.arrowVisible.map fun b => .obj [("visible", .bool b)])]

/-- The settings of the text, which share an object. -/
def valueTable (s : TagSettings) : Entries (Option OptionTree) :=
  [("visible", s.valueVisible.map .bool), ("formatter", s.formatter.map .fn)]

def value (s : TagSettings) : OptionMap := Entries.lay s.valueTable []

def arrow (s : TagSettings) : OptionMap :=
  Entries.insertSome "visible" (s.arrowVisible.map .bool) []

theorem toOptions_eq :
    s.toOptions = Entries.insertObject "value" s.value (Entries.lay s.table []) := rfl

theorem wellKeyed_toOptions : Entries.WellKeyed s.toOptions :=
  (Entries.wellKeyed_nil.lay s.table).insertObject _ _

theorem wellKeyed_arrow : Entries.WellKeyed s.arrow :=
  Entries.wellKeyed_nil.insertSome _ _

theorem wellKeyed_value : Entries.WellKeyed s.value := Entries.wellKeyed_nil.lay _

theorem get?_table (key : String) :
    Entries.get? (Entries.lay s.table []) key = (Entries.get? s.table key).join := by
  have keyed : Entries.WellKeyed s.table := by simp [Entries.WellKeyed, Entries.keys, table]
  rw [Entries.get?_lay keyed, Entries.get?_nil, Option.or_none]

theorem get?_value (key : String) :
    Entries.get? s.value key = (Entries.get? s.valueTable key).join := by
  have keyed : Entries.WellKeyed s.valueTable := by
    simp [Entries.WellKeyed, Entries.keys, valueTable]
  rw [value, Entries.get?_lay keyed, Entries.get?_nil, Option.or_none]

theorem get?_arrow (key : String) :
    Entries.get? s.arrow key = if "visible" = key then s.arrowVisible.map .bool else none := by
  rw [arrow, Entries.get?_insertSome, Entries.get?_nil, Option.or_none]

theorem get?_toOptions {key : String} (other : "value" ≠ key) :
    (OptionTree.obj s.toOptions).get? key = (Entries.get? s.table key).join := by
  rw [← s.get?_table, OptionTree.get?, OptionTree.fields_obj, toOptions_eq,
    Entries.get?_insertObject_of_ne other]

theorem getD_toOptions {α : Type} {setting : Option α} {wrap : α → OptionTree}
    {read : OptionTree → Option α} {key : String} {fallback : α} (other : "value" ≠ key)
    (written : (Entries.get? s.table key).join = setting.map wrap)
    (reads : ∀ a, read (wrap a) = some a) :
    (((OptionTree.obj s.toOptions).get? key).bind read).getD fallback = setting.getD fallback := by
  rw [s.get?_toOptions other, OptionTree.read_written written reads]

theorem getD_toOptions_of_absent {α : Type} {read : OptionTree → Option α} {key : String}
    {fallback : α} (other : "value" ≠ key) (absent : (Entries.get? s.table key).join = none) :
    (((OptionTree.obj s.toOptions).get? key).bind read).getD fallback = fallback := by
  rw [s.get?_toOptions other, absent]
  rfl

theorem value_toOptions :
    ((OptionTree.obj s.toOptions).get? "value").getD (.obj []) = .obj s.value :=
  Entries.get?_insertObject_self (s.get?_table "value") s.value

theorem arrow_toOptions :
    ((OptionTree.obj s.toOptions).get? "arrow").getD (.obj []) = .obj s.arrow := by
  have written : (Entries.get? s.table "arrow").join =
      s.arrowVisible.map fun b => .obj [("visible", .bool b)] := rfl
  rw [s.get?_toOptions (by decide), written, arrow]
  cases s.arrowVisible <;> rfl

end TagSettings

attribute [ext] TagSpec

/--
Typed settings of a tag, written as options and read again: each is what it was set to, or else its
default, and all that has no typed setting is as given or has its default.
-/
theorem TagSpec.resolve_toOptions (s : TagSettings) (field : String)
    (transpose animation : Bool) :
    resolve field transpose animation (.obj s.toOptions) =
      { visible := s.visible.getD true
        field
        transpose
        animation
        size := s.size.getD 32
        spacing := s.spacing.getD 8
        offset := s.offset.getD 0
        arrowVisible := s.arrowVisible.getD true
        arrowHeadSize := 12
        arrowStyle := [("fill", .str "rgba(0, 0, 0, 0.05)")]
        valueVisible := s.valueVisible.getD true
        valueStyle := [("fontSize", .num 12), ("fill", .str "rgba(0, 0, 0, 0.85)")]
        formatter := s.formatter } := by
  have keyed : Entries.WellKeyed (OptionTree.obj s.toOptions).fields := s.wellKeyed_toOptions
  obtain ⟨visible, fieldName, direction, animates, size, spacing, offset⟩ :=
    resolve_own field transpose animation keyed
  obtain ⟨arrowVisible, arrowHeadSize, arrowStyle, valueVisible, valueStyle, formatter⟩ :=
    resolve_inner field transpose animation keyed s.wellKeyed_arrow s.wellKeyed_value
      s.arrow_toOptions s.value_toOptions
  apply TagSpec.ext
  case visible => exact visible.trans (s.getD_toOptions (by decide) rfl fun _ => rfl)
  case field => exact fieldName.trans (s.getD_toOptions_of_absent (by decide) rfl)
  case transpose => exact direction.trans (s.getD_toOptions_of_absent (by decide) rfl)
  case animation => exact animates.trans (s.getD_toOptions_of_absent (by decide) rfl)
  case size => exact size.trans (s.getD_toOptions (by decide) rfl fun _ => rfl)
  case spacing => exact spacing.trans (s.getD_toOptions (by decide) rfl fun _ => rfl)
  case offset => exact offset.trans (s.getD_toOptions (by decide) rfl fun _ => rfl)
  case arrowVisible =>
    have written : Entries.get? s.arrow "visible" = s.arrowVisible.map .bool :=
      (s.get?_arrow "visible").trans (if_pos rfl)
    rw [arrowVisible, OptionTree.read_written written fun _ => rfl]
  case arrowHeadSize =>
    rw [arrowHeadSize, s.get?_arrow, if_neg (by decide)]
    rfl
  case arrowStyle => exact arrowStyle (Entries.get?_eq_none_iff.mp (s.get?_arrow "style"))
  case valueVisible =>
    have written : Entries.get? s.value "visible" = s.valueVisible.map .bool := s.get?_value _
    rw [valueVisible, OptionTree.read_written written fun _ => rfl]
  case valueStyle => exact valueStyle (Entries.get?_eq_none_iff.mp (s.get?_value "style"))
  case formatter =>
    have written : Entries.get? s.value "formatter" = s.formatter.map .fn := s.get?_value _
    rw [formatter, OptionTree.read_written written fun _ => rfl]

end Charting
