import Charting.Layer.Basic

/-!
# Exported plans

The plan of a layer as JSON, with all that was computed from the options.
-/

namespace Charting.Layer

/-- The plan of a layer; what it does not hold yet is null. -/
def planJson (plotType : String) (layer : Layer) : Json :=
  .obj [
    ("plotType", .str plotType),
    ("stage", .str layer.stage.key),
    ("viewport", layer.viewport.toJson),
    ("options", layer.options.root.toJson),
    ("scales", layer.scales.toJson),
    ("coordinate", layer.coordinate.toJson),
    ("geometry", .ofOption Geometry.toJson layer.geometry),
    ("conversionTag", .ofOption ConversionTag.toJson layer.overlay)]

end Charting.Layer
