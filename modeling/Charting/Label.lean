import Charting.Options.Exchange
import Charting.Options.Merge

/-!
# Labels of elements

Where a label stands decides what it starts from; the caller's label options are merged over that
and sorted into a descriptor. Options the descriptor has no place for are passed through.
-/

namespace Charting

inductive LabelPosition where
  | top
  | middle
  | bottom
  | other (name : String)
deriving DecidableEq, Repr

namespace LabelPosition

def ofName : String → LabelPosition
  | "top" => .top
  | "middle" => .middle
  | "bottom" => .bottom
  | name => .other name

def name : LabelPosition → String
  | .top => "top"
  | .middle => "middle"
  | .bottom => "bottom"
  | .other name => name

/-- The label options of a position before the caller's. -/
def options : LabelPosition → OptionMap
  | .middle => [("offset", .num 0), ("style", .obj [("textBaseline", .str "middle")])]
  | .other _ => [("offset", .num 0)]
  | _ => [("offset", .num 4), ("style", .obj [("textBaseline", .str "bottom")])]

end LabelPosition

structure LabelDescriptor where
  visible : Bool := true
  offset : Float := 0
  style : OptionMap := []
  fields : List String := []
  labelType : Option String := none
  position : Option String := none
  /-- The caller's other label options, in their order. -/
  extra : OptionMap := []
deriving Inhabited

namespace LabelDescriptor

/-- The keys of the label options that have a place of their own in a descriptor. -/
def ownKeys : List String := ["visible", "offset", "style", "fields", "labelType", "position"]

def stringItems (value : OptionTree) : List String :=
  (value.array?.getD []).filterMap OptionTree.string?

/--
The label for a position and the caller's label options; none if they hide it. Options that are no
object change nothing, and one of the wrong kind counts as empty.
-/
def resolve (position : String) (overrides : OptionTree) : Option LabelDescriptor :=
  let merged := (OptionTree.obj (LabelPosition.ofName position).options).mergeObject overrides
  let given (key : String) := merged.get? key
  if ((given "visible").bind OptionTree.bool?).getD true then
    some {
      offset := ((given "offset").bind OptionTree.number?).getD 0
      style := ((given "style").map OptionTree.fields).getD []
      fields := ((given "fields").map stringItems).getD []
      labelType := (given "labelType").bind OptionTree.string?
      position := ((given "position").bind OptionTree.string?).or
        (if position.isEmpty then none else some position)
      extra := ownKeys.foldl (fun rest key => Entries.erase key rest) merged.fields }
  else none

/-- Fills in the fields and the type where the caller gave none. -/
def withDefaults (d : LabelDescriptor) (fields : List String) (labelType : String) :
    LabelDescriptor :=
  { d with
    fields := if d.fields.isEmpty then fields else d.fields
    labelType := d.labelType.or (some labelType) }

def toJson (d : LabelDescriptor) : Json :=
  .obj [
    ("visible", .bool d.visible),
    ("offset", .ofFloat d.offset),
    ("style", d.style.toJson),
    ("fields", .arr (d.fields.map .str)),
    ("labelType", .ofOption .str d.labelType),
    ("position", .ofOption .str d.position),
    ("extra", d.extra.toJson)]

end LabelDescriptor

/-- A label component made by a factory. -/
structure LabelHandle where
  component : String
  descriptor : LabelDescriptor
deriving Inhabited

def LabelHandle.toJson (h : LabelHandle) : Json :=
  .obj [("component", .str h.component), ("descriptor", h.descriptor.toJson)]

end Charting
