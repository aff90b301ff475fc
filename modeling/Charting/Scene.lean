import Charting.Geometry
import Charting.Number.Quantity
import Charting.Scale

/-!
# Plans and scenes

A plan is everything a renderer needs for one drawing. A scene is what it reports back: where each
row was drawn, and with which label.
-/

namespace Charting

/-- A box on the canvas; y grows downwards. -/
structure Box (α : Type := Float) where
  minX : α
  minY : α
  maxX : α
  maxY : α
deriving DecidableEq, Repr, Inhabited

namespace Box

variable {α : Type} [Add α] [Sub α] [Div α] [Quantity α]

def width (b : Box α) : α := b.maxX - b.minX

def height (b : Box α) : α := b.maxY - b.minY

def centerX (b : Box α) : α := Quantity.half (b.minX + b.maxX)

def centerY (b : Box α) : α := Quantity.half (b.minY + b.maxY)

def isFinite (b : Box α) : Bool :=
  Quantity.isFinite b.minX && Quantity.isFinite b.minY && Quantity.isFinite b.maxX &&
    Quantity.isFinite b.maxY

def toJson (b : Box) : Json :=
  .obj [("min_x", .ofFloat b.minX), ("min_y", .ofFloat b.minY),
    ("max_x", .ofFloat b.maxX), ("max_y", .ofFloat b.maxY)]

end Box

/-- The shape of the coordinate system. -/
inductive CoordinateKind where
  | rect
  | polar
deriving DecidableEq, Repr

def CoordinateKind.name : CoordinateKind → String
  | .rect => "rect"
  | .polar => "polar"

structure Coordinate where
  kind : CoordinateKind := .rect
  transposed : Bool := false
deriving DecidableEq, Repr, Inhabited

def Coordinate.toJson (c : Coordinate) : Json :=
  .obj [("kind", .str c.kind.name), ("transposed", .bool c.transposed)]

def Viewport.toJson (v : Viewport) : Json :=
  .obj [("width", .ofNat v.width.toNat), ("height", .ofNat v.height.toNat)]

/-- Everything a renderer needs for one drawing. -/
structure Plan where
  viewport : Viewport
  options : Options
  scales : ScaleSet
  coordinate : Coordinate
  geometry : Geometry
  data : List Datum

/-- One drawn element and the row it stands for. -/
structure Element (α : Type := Float) where
  index : Nat
  datum : Datum
  box : Box α

structure PlacedLabel where
  elementIndex : Nat
  text : String
  x : Float
  y : Float

/-- What a renderer reports of one drawing. -/
structure Scene where
  viewport : Viewport
  elements : List Element := []
  labels : List PlacedLabel := []

def Element.toJson (e : Element) : Json :=
  .obj [("index", .ofNat e.index), ("datum", .obj e.datum), ("bbox", e.box.toJson)]

def PlacedLabel.toJson (l : PlacedLabel) : Json :=
  .obj [("element_index", .ofNat l.elementIndex), ("text", .str l.text), ("x", .ofFloat l.x),
    ("y", .ofFloat l.y)]

def PlacedLabel.isFinite (l : PlacedLabel) : Bool := l.x.isFinite && l.y.isFinite

namespace Scene

def isEmpty (scene : Scene) : Bool := scene.elements.isEmpty && scene.labels.isEmpty

/-- The size must be positive, and every element and then every label must have a place. -/
def validate (scene : Scene) : Except Failure Unit :=
  if !scene.viewport.isValid then .error (.invalidViewport scene.viewport)
  else match scene.elements.find? fun e => !e.box.isFinite with
    | some e =>
      .error (.collaborator ("element " ++ toString e.index ++ " has non-finite bounds"))
    | none => match scene.labels.find? fun l => !l.isFinite with
      | some l =>
        .error (.collaborator
          ("label of element " ++ toString l.elementIndex ++ " has non-finite position"))
      | none => .ok ()

def toJson (scene : Scene) : Json :=
  .obj [("viewport", scene.viewport.toJson),
    ("elements", .arr (scene.elements.map Element.toJson)),
    ("labels", .arr (scene.labels.map PlacedLabel.toJson))]

end Scene

end Charting
