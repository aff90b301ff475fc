import Charting.Label

/-!
# Geometries

What the engine draws for each row: the primitive, the fields that place it, its looks and its
label.
-/

namespace Charting

/-- A primitive of the engine. -/
inductive GeometryKind where
  | interval
  | point
deriving DecidableEq, Repr

namespace GeometryKind

def name : GeometryKind → String
  | .interval => "interval"
  | .point => "point"

def ofName? : String → Option GeometryKind
  | "interval" => some .interval
  | "point" => some .point
  | _ => none

end GeometryKind

/-- Whether a geometry has a label. -/
inductive LabelSlot where
  /-- Nothing was said about a label. -/
  | unset
  | suppressed
  | bound (label : LabelHandle)
deriving Inhabited

namespace LabelSlot

def isSuppressed : LabelSlot → Bool
  | .suppressed => true
  | _ => false

def handle? : LabelSlot → Option LabelHandle
  | .bound label => some label
  | _ => none

def toJson : LabelSlot → Json
  | .unset => .null
  | .suppressed => .bool false
  | .bound label => label.toJson

end LabelSlot

/-- A geometry bound to fields. -/
structure Geometry where
  kind : GeometryKind
  variant : String
  positionFields : List String := []
  colorField : Option String := none
  color : Option OptionTree := none
  size : Option OptionTree := none
  shape : Option String := none
  style : Option OptionTree := none
  minWidth : Option Float := none
  maxWidth : Option Float := none
  /-- The part of its band that the geometry takes, when an overlay needs the rest. -/
  widthRatio : Option Float := none
  label : LabelSlot := .unset
  /-- Nothing said leaves animation to the engine, which animates. -/
  animate : Option Bool := none
  /-- What a plot type adds of its own. -/
  adjustments : OptionMap := []

namespace Geometry

/-- The geometry moves unless that is switched off. -/
def isAnimated (g : Geometry) : Bool := g.animate.getD true

def toJson (g : Geometry) : Json :=
  .ofMembers [
    ("kind", some (.str g.kind.name)),
    ("variant", some (.str g.variant)),
    ("positionFields", some (.arr (g.positionFields.map .str))),
    ("colorField", g.colorField.map .str),
    ("color", g.color.map OptionTree.toJson),
    ("size", g.size.map OptionTree.toJson),
    ("shape", g.shape.map .str),
    ("style", g.style.map OptionTree.toJson),
    ("minWidth", g.minWidth.map .ofFloat),
    ("maxWidth", g.maxWidth.map .ofFloat),
    ("widthRatio", g.widthRatio.map .ofFloat),
    ("label", some g.label.toJson),
    ("animate", g.animate.map .bool),
    ("adjustments", if g.adjustments.isEmpty then none else some g.adjustments.toJson)]

end Geometry

end Charting
