import Charting.Options.Tree

/-!
# Defaults of every chart
-/

namespace Charting

namespace OptionTree

/-- Short for an object with a `visible` flag and further fields. -/
def shown (visible : Bool) (rest : OptionMap := []) : OptionTree :=
  .obj (("visible", .bool visible) :: rest)

/-- What holds for every chart unless its plot type or the caller says otherwise. -/
def baseDefaults : OptionTree :=
  .obj [
    ("renderer", .str "canvas"),
    ("padding", .str "auto"),
    ("title", shown false [("text", .str "")]),
    ("description", shown false [("text", .str "")]),
    ("legend", shown true [("position", .str "bottom-center")]),
    ("tooltip", shown true [
      ("shared", .bool true),
      ("crosshairs", .obj [("type", .str "y")])]),
    ("xAxis", shown true [
      ("grid", shown false),
      ("line", shown true),
      ("tickLine", shown true),
      ("label", shown true [("autoRotate", .bool true), ("autoHide", .bool true)]),
      ("title", shown false [("offset", .num 12)])]),
    ("yAxis", shown true [
      ("grid", shown true),
      ("line", shown false),
      ("tickLine", shown false),
      ("label", shown true [("autoRotate", .bool false), ("autoHide", .bool true)]),
      ("title", shown false [("autoRotate", .bool true), ("offset", .num 12)])]),
    ("label", shown false),
    ("interactions", .arr [
      .obj [("type", .str "tooltip")],
      .obj [("type", .str "legend-active")],
      .obj [("type", .str "legend-filter")]]),
    ("animation", .bool true),
    ("responsive", .bool false)]

end OptionTree

end Charting
