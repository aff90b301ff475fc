import Charting.Layout.Bars
import Charting.Layout.Points

/-!
# Drawing without a canvas

A renderer that only computes where everything would be, and counts its work. A scene with a
position that is no number is refused. Everything up to the elements is computed in any arithmetic,
given how it reads the numbers of a plan; the renderer takes them as they are.
-/

namespace Charting.Layout

section Elements

variable {α : Type} [Add α] [Sub α] [Mul α] [Div α] [LT α] [DecidableLT α] [BEq α] [Quantity α]

/-- The range of a field in the data, with the limits of its scale. -/
def fieldRange (read : Float → α) (plan : Plan) (field : String) : α × α :=
  let scale := Entries.get? plan.scales field
  domain ((scale.bind Scale.min).map read) ((scale.bind Scale.max).map read)
    (plan.data.filterMap fun datum => (datum.number? field).map read)

/-- What the geometry says of the width of its bars. -/
def barWidth (read : Float → α) (g : Geometry) : BarWidth α where
  ratio := g.widthRatio.map read
  least := g.minWidth.map read
  most := g.maxWidth.map read

def intervalBoxes (read : Float → α) (plan : Plan) (yField : String) : List (Box α) :=
  bars plan.viewport (barWidth read plan.geometry) (fieldRange read plan yField)
    (plan.data.map fun datum => (datum.number? yField).map read)

/-- The x values are categories: by their scale, or because one of them is no number. -/
def hasDiscreteX (plan : Plan) (xField : String) : Bool :=
  (((Entries.get? plan.scales xField).bind Scale.kind).any ScaleKind.isDiscrete) ||
    plan.data.any fun datum => (datum.number? xField).isNone

def pointRadius (read : Float → α) (g : Geometry) : α :=
  ((g.size.bind OptionTree.number?).map read).getD (Quantity.ofNat 4)

def pointBoxes (read : Float → α) (plan : Plan) (xField yField : String) : List (Box α) :=
  points plan.viewport (pointRadius read plan.geometry) (hasDiscreteX plan xField)
    (fieldRange read plan xField) (fieldRange read plan yField)
    (plan.data.map fun datum => ((datum.number? xField).map read, (datum.number? yField).map read))

/-- The boxes of a plan, one per row; a geometry without two position fields draws nothing. -/
def boxes (read : Float → α) (plan : Plan) : List (Box α) :=
  match plan.geometry.positionFields with
  | xField :: yField :: _ =>
    match plan.geometry.kind with
    | .interval => intervalBoxes read plan yField
    | .point => pointBoxes read plan xField yField
  | _ => []

/-- The elements of a plan: each row in its box, numbered from zero. -/
def elements (read : Float → α) (plan : Plan) : List (Element α) :=
  (plan.data.zip (boxes read plan)).mapIdx fun index (datum, box) => { index, datum, box }

end Elements

/-- The label of an element, whose text is the first label field; none if the row lacks it. -/
def placeLabel? (label : LabelDescriptor) (element : Element) : Option PlacedLabel := do
  let value ← label.fields.head?.bind (Entries.get? element.datum)
  let box := element.box
  return {
    elementIndex := element.index
    text := value.display
    x := box.centerX
    y := match LabelPosition.ofName (label.position.getD "top") with
      | .middle => box.centerY
      | .bottom => box.maxY - label.offset
      | _ => box.minY - label.offset }

def placeLabels (slot : LabelSlot) (elements : List Element) : List PlacedLabel :=
  match slot with
  | .bound handle => elements.filterMap (placeLabel? handle.descriptor)
  | _ => []

/-- The scene of a plan, before it is checked. -/
def scene (plan : Plan) : Scene :=
  let drawn := elements id plan
  { viewport := plan.viewport
    elements := drawn
    labels := placeLabels plan.geometry.label drawn }

def draw (plan : Plan) : Except Failure Scene := do
  (scene plan).validate
  return scene plan

/-- The work done so far: how many drawings, and how much was in the last one. -/
structure Headless where
  renders : Nat := 0
  lastElements : Nat := 0
  lastLabels : Nat := 0
deriving DecidableEq, Repr, Inhabited

def Headless.record (h : Headless) (scene : Scene) : Headless :=
  { renders := h.renders + 1
    lastElements := scene.elements.length
    lastLabels := scene.labels.length }

/-- Draws a plan and counts it; a refused drawing is not counted. -/
def Headless.render (plan : Plan) : Attempt Headless Scene := do
  let scene ← draw plan
  modify fun h => h.record scene
  return scene

end Charting.Layout
