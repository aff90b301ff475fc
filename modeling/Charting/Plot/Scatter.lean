import Charting.Options.Defaults
import Charting.PlotType

/-!
# Scatter plots

One point per row, on two continuous dimensions.
-/

namespace Charting.Plot.Scatter

def defaults : OptionTree :=
  .obj [
    ("pointSize", .num 4),
    ("pointStyle", .obj [
      ("strokeOpacity", .num 1),
      ("fillOpacity", .num 0.4),
      ("opacity", .num 0.65)]),
    ("tooltip", .shown true [
      ("shared", .bool false),
      ("crosshairs", .obj [("type", .str "rect")])]),
    ("label", .shown false [("position", .str "top")]),
    ("shape", .str "circle")]

def names : NameMap where
  engineNames := [("scatter", "point")]
  semanticNames := [("point", "scatter")]

/-- The handlers that the caller may give. -/
def events : List EventRow := [
  { handlerKey := "onPointClick", engineEvent := "point:click" },
  { handlerKey := "onPointDblclick", engineEvent := "point:dblclick" },
  { handlerKey := "onPointMousemove", engineEvent := "point:mousemove" },
  { handlerKey := "onPointMouseenter", engineEvent := "point:mouseenter" },
  { handlerKey := "onPointMouseleave", engineEvent := "point:mouseleave" },
  { handlerKey := "onPointContextmenu", engineEvent := "point:contextmenu" },
  { handlerKey := "onPlotClick", engineEvent := "plot:click" },
  { handlerKey := "onPlotDblclick", engineEvent := "plot:dblclick" },
  { handlerKey := "onPlotMousemove", engineEvent := "plot:mousemove" },
  { handlerKey := "onPlotContextmenu", engineEvent := "plot:contextmenu" },
  { handlerKey := "onLegendClick", engineEvent := "legend:click" }]

def plot (σ : Type) : PlotType σ where
  name := "scatter"
  names := names
  variant := "circle"
  labelType := "pointLabel"
  defaults := defaults
  eventTable := pure events

end Charting.Plot.Scatter
