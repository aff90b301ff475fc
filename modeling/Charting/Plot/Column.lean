import Charting.Layout.Domain
import Charting.Options.Defaults
import Charting.PlotType

/-!
# Column plots

One column per row, with conversion tags between the columns if asked for. Its rules fit the ticks
of the y axis to the height, and the labels to the room that the columns leave.
-/

namespace Charting.Plot.Column

def defaults : OptionTree :=
  .obj [
    ("xAxis", .shown true [("tickLine", .shown false), ("title", .shown true)]),
    ("yAxis", .obj [("title", .shown true), ("label", .shown true), ("grid", .shown true)]),
    ("tooltip", .shown true [
      ("shared", .bool true),
      ("crosshairs", .obj [("type", .str "rect")])]),
    ("label", .shown false [("position", .str "top"), ("adjustColor", .bool true)]),
    ("legend", .shown true [("position", .str "top-left")]),
    ("conversionTag", .shown false)]

def names : NameMap where
  engineNames := [("column", "interval")]
  semanticNames := [("interval", "column")]

/-- The handlers that the caller may give. -/
def events : List EventRow := [
  { handlerKey := "onColumnClick", engineEvent := "interval:click" },
  { handlerKey := "onColumnDblclick", engineEvent := "interval:dblclick" },
  { handlerKey := "onColumnMousemove", engineEvent := "interval:mousemove" },
  { handlerKey := "onColumnMouseenter", engineEvent := "interval:mouseenter" },
  { handlerKey := "onColumnMouseleave", engineEvent := "interval:mouseleave" },
  { handlerKey := "onColumnMousedown", engineEvent := "interval:mousedown" },
  { handlerKey := "onColumnMouseup", engineEvent := "interval:mouseup" },
  { handlerKey := "onColumnContextmenu", engineEvent := "interval:contextmenu" },
  { handlerKey := "onPlotClick", engineEvent := "plot:click" },
  { handlerKey := "onPlotDblclick", engineEvent := "plot:dblclick" },
  { handlerKey := "onPlotMousemove", engineEvent := "plot:mousemove" },
  { handlerKey := "onPlotMouseenter", engineEvent := "plot:mouseenter" },
  { handlerKey := "onPlotMouseleave", engineEvent := "plot:mouseleave" },
  { handlerKey := "onPlotContextmenu", engineEvent := "plot:contextmenu" },
  { handlerKey := "onLabelClick", engineEvent := "label:click" },
  { handlerKey := "onLabelMousemove", engineEvent := "label:mousemove" },
  { handlerKey := "onLegendClick", engineEvent := "legend:click" },
  { handlerKey := "onAxisLabelClick", engineEvent := "axis-label:click" }]

/-! ## Responsive rules -/

/-- The number of ticks for a height: one every forty pixels, but at least two and at most eight. -/
def tickCount (height : UInt32) : UInt32 := max 2 (min 8 (height / 40))

def fitTicks (context : RuleContext) (options : Options) : Options :=
  options.set "yAxis.tickCount" (.num (tickCount context.viewport.height).toFloat)

/-- The rough width of a text: seven pixels a character. -/
def textWidth (text : String) : Float := Float.ofNat text.length * 7

/-- The width of the widest value of a field, as it is shown. -/
def widestText (data : List Datum) (field : String) : Float :=
  ((data.filterMap fun datum => Entries.get? datum field).map fun v => textWidth v.display).foldl
    Quantity.greatest 0

/-- The distance between the first two columns; a single one has the whole width. -/
def bandWidth (scene : Scene) : Float :=
  match scene.elements with
  | first :: second :: _ => (second.box.centerX - first.box.centerX).abs
  | _ => scene.viewport.width.toFloat

/-- Turns or hides the labels of the x axis when the widest one is wider than its band. -/
def fitAxisLabels (context : RuleContext) (options : Options) : Except Failure Options :=
  match context.scene with
  | none => .ok options
  | some scene => do
    let xField ← options.requireString "xField"
    let crowded : Bool := bandWidth scene < widestText context.data xField
    return (options.set "xAxis.label.autoRotate" (.bool crowded)).set
      "xAxis.label.autoHide" (.bool crowded)

/-- Every label is as narrow as the narrowest column. -/
def labelsFit (scene : Scene) (data : List Datum) (field : String) : Bool :=
  match Layout.smallest? (scene.elements.map fun e => e.box.width) with
  | some width => width.isFinite && decide (widestText data field ≤ width)
  | none => false

/-- Lets the engine move the labels unless they fit their columns. -/
def fitLabels (context : RuleContext) (options : Options) : Except Failure Options :=
  match context.scene with
  | none => .ok options
  | some scene => do
    let yField ← options.requireString "yField"
    return options.set "label.adjustPosition" (.bool !labelsFit scene context.data yField)

def rules (σ : Type) : RuleSet σ where
  all := [
    { name := "yAxisTickCount", stage := .preRender
      method := fun context => OptionsM.ofFunction fun options => .ok (fitTicks context options) },
    { name := "xAxisLabelDensity", stage := .afterRender
      method := fun context => OptionsM.ofFunction (fitAxisLabels context) },
    { name := "columnLabelFit", stage := .afterRender
      method := fun context => OptionsM.ofFunction (fitLabels context) }]

/-! ## Hooks -/

def showsTags (options : Options) : Bool := options.bool? "conversionTag.visible" == some true

def shapes : List String := ["rect", "triangle", "round"]

/-- Takes the shape from the options, if it is one of a column. -/
def adjust (options : Options) (geometry : Geometry) : Geometry :=
  match (options.string? "type").filter shapes.contains with
  | some shape => { geometry with shape := some shape }
  | none => geometry

/-- The settings of the conversion tags; none if they are off or there is no y field. -/
def tagSpec? (options : Options) : Option TagSpec :=
  if showsTags options then
    (options.string? "yField").map fun field =>
      TagSpec.resolve field true (options.bool? "animation" != some false)
        ((options.get? "conversionTag").getD .null)
  else none

/-- The column plot, with the way in which the caller's functions are invoked. -/
def plot {σ : Type} (invoke : Invoke σ) : PlotType σ where
  name := "column"
  names := names
  variant := "main"
  labelType := "columnLabel"
  defaults := defaults
  eventTable := pure events
  rules := rules σ
  overlayEnabled := fun options => pure (showsTags options)
  adjust := fun options geometry => pure (adjust options geometry)
  scale := fun options => Attempt.ofExcept (ScaleSet.cartesian options (.ofKind .cat))
  attachOverlay := fun scene options =>
    match tagSpec? options with
    | some spec => ConversionTag.attach invoke scene.elements spec
    | none => pure none

end Charting.Plot.Column
