import Charting.Options.Defaults
import Charting.Options.Exchange
import Charting.Options.Merge
import Charting.Options.Path

/-!
# Settings of a conversion tag

A conversion tag shows how much of one element's value is left in the next. Its settings are the
tag's own defaults, then what the plot says, then what the caller says under `conversionTag`.
-/

namespace Charting

/-- The settings of a conversion tag. -/
structure TagSpec (α : Type := Float) where
  visible : Bool
  /-- The field whose values are compared. -/
  field : String
  /-- The elements follow each other along x, so that the tags stand in the gaps between columns. -/
  transpose : Bool
  animation : Bool
  size : α
  spacing : α
  offset : α
  arrowVisible : Bool
  arrowHeadSize : α
  arrowStyle : OptionMap
  valueVisible : Bool
  valueStyle : OptionMap
  formatter : Option Callback

namespace TagSpec

/-- The settings before anyone says anything. -/
def defaults : OptionTree :=
  .shown true [
    ("size", .num 32),
    ("spacing", .num 8),
    ("offset", .num 0),
    ("arrow", .shown true [
      ("headSize", .num 12),
      ("style", .obj [("fill", .str "rgba(0, 0, 0, 0.05)")])]),
    ("value", .shown true [
      ("style", .obj [("fontSize", .num 12), ("fill", .str "rgba(0, 0, 0, 0.85)")])])]

/--
The settings for a field. One of the wrong kind counts as not given, and a caller's value that is
no object changes nothing.
-/
def resolve (field : String) (transpose animation : Bool) (overrides : OptionTree) : TagSpec :=
  let plot : OptionTree :=
    .obj [("field", .str field), ("transpose", .bool transpose), ("animation", .bool animation)]
  let merged := (defaults.merge plot).mergeObject overrides
  let flag (path : String) (default : Bool) :=
    ((merged.pointer? path).bind OptionTree.bool?).getD default
  let number (path : String) (default : Float) :=
    ((merged.pointer? path).bind OptionTree.number?).getD default
  let style (path : String) := ((merged.pointer? path).map OptionTree.fields).getD []
  { visible := flag "visible" true
    field := ((merged.pointer? "field").bind OptionTree.string?).getD field
    transpose := flag "transpose" transpose
    animation := flag "animation" animation
    size := number "size" 32
    spacing := number "spacing" 8
    offset := number "offset" 0
    arrowVisible := flag "arrow.visible" true
    arrowHeadSize := number "arrow.headSize" 12
    arrowStyle := style "arrow.style"
    valueVisible := flag "value.visible" true
    valueStyle := style "value.style"
    formatter := (merged.pointer? "value.formatter").bind OptionTree.callback? }

def toJson (s : TagSpec) : Json :=
  .obj [
    ("visible", .bool s.visible),
    ("field", .str s.field),
    ("transpose", .bool s.transpose),
    ("animation", .bool s.animation),
    ("size", .ofFloat s.size),
    ("spacing", .ofFloat s.spacing),
    ("offset", .ofFloat s.offset),
    ("arrowVisible", .bool s.arrowVisible),
    ("arrowHeadSize", .ofFloat s.arrowHeadSize),
    ("arrowStyle", s.arrowStyle.toJson),
    ("valueVisible", .bool s.valueVisible),
    ("valueStyle", s.valueStyle.toJson)]

end TagSpec

end Charting
