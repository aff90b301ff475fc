import Charting.Settings.Axis
import Charting.Settings.Label

/-!
# Typed settings of charts

The settings of a column or scatter chart are made by a sequence of changes to a chart of two
fields. Options without a type are laid down first, so that a typed setting replaces the one under
its key.
-/

namespace Charting

/-- The space around a chart. -/
inductive Padding where
  | auto
  | uniform (pixels : Float)
  | sides (top right bottom left : Float)

def Padding.toOptions : Padding → OptionTree
  | .auto => .str "auto"
  | .uniform pixels => .num pixels
  | .sides top right bottom left => .arr [.num top, .num right, .num bottom, .num left]

/-- The looks of an element: always the same, or made by a function of its row. -/
inductive ElementStyle where
  | fixed (style : OptionMap)
  | perDatum (style : Callback)

def ElementStyle.toOptions : ElementStyle → OptionTree
  | .fixed style => .obj style
  | .perDatum style => .fn style

/-! ## Settings of both kinds of chart -/

/-- The settings that every chart on two axes has. -/
structure CommonSettings where
  xField : String
  yField : String
  colorField : Option String := none
  xAxis : Option AxisSettings := none
  yAxis : Option AxisSettings := none
  label : Option LabelSettings := none
  responsive : Option Bool := none
  padding : Option Padding := none
  animation : Option Bool := none
  events : OptionMap := []
  extra : OptionMap := []

/-- A change of the settings that every chart has. -/
inductive CommonChange where
  | colorField (field : String)
  | xAxis (axis : AxisSettings)
  | yAxis (axis : AxisSettings)
  | label (label : LabelSettings)
  | responsive (on : Bool)
  | padding (padding : Padding)
  | animation (on : Bool)
  | event (key : String) (handler : Callback)
  | option (key : String) (value : OptionTree)

namespace CommonSettings

def apply (s : CommonSettings) : CommonChange → CommonSettings
  | .colorField field => { s with colorField := some field }
  | .xAxis axis => { s with xAxis := some axis }
  | .yAxis axis => { s with yAxis := some axis }
  | .label label => { s with label := some label }
  | .responsive on => { s with responsive := some on }
  | .padding padding => { s with padding := some padding }
  | .animation on => { s with animation := some on }
  | .event key handler => { s with events := Entries.insert key (.fn handler) s.events }
  | .option key value => { s with extra := Entries.insert key value s.extra }

def toOptions (s : CommonSettings) : OptionMap :=
  s.extra
    |> Entries.insert "xField" (.str s.xField)
    |> Entries.insert "yField" (.str s.yField)
    |> Entries.insertSome "colorField" (s.colorField.map .str)
    |> Entries.insertSome "xAxis" (s.xAxis.map fun a => .obj a.toOptions)
    |> Entries.insertSome "yAxis" (s.yAxis.map fun a => .obj a.toOptions)
    |> Entries.insertSome "label" (s.label.map fun l => .obj l.toOptions)
    |> Entries.insertSome "responsive" (s.responsive.map .bool)
    |> Entries.insertSome "padding" (s.padding.map Padding.toOptions)
    |> Entries.insertSome "animation" (s.animation.map .bool)
    |> Entries.insertObject "events" s.events

end CommonSettings

/-! ## Column charts -/

structure ColumnSettings where
  common : CommonSettings
  columnSize : Option Float := none
  maxWidth : Option Float := none
  minWidth : Option Float := none
  columnStyle : Option ElementStyle := none
  conversionTag : Option TagSettings := none

inductive ColumnChange where
  | common (change : CommonChange)
  | columnSize (size : Float)
  | widthClamp (least most : Float)
  | columnStyle (style : ElementStyle)
  | conversionTag (tag : TagSettings)

namespace ColumnSettings

def apply (s : ColumnSettings) : ColumnChange → ColumnSettings
  | .common change => { s with common := s.common.apply change }
  | .columnSize size => { s with columnSize := some size }
  | .widthClamp least most => { s with minWidth := some least, maxWidth := some most }
  | .columnStyle style => { s with columnStyle := some style }
  | .conversionTag tag => { s with conversionTag := some tag }

/-- A column chart of two fields after some changes. -/
def build (xField yField : String) (changes : List ColumnChange) : ColumnSettings :=
  changes.foldl apply { common := { xField, yField } }

def toOptions (s : ColumnSettings) : OptionTree :=
  .obj (s.common.toOptions
    |> Entries.insertSome "columnSize" (s.columnSize.map .num)
    |> Entries.insertSome "maxWidth" (s.maxWidth.map .num)
    |> Entries.insertSome "minWidth" (s.minWidth.map .num)
    |> Entries.insertSome "columnStyle" (s.columnStyle.map ElementStyle.toOptions)
    |> Entries.insertSome "conversionTag" (s.conversionTag.map fun t => .obj t.toOptions))

end ColumnSettings

/-! ## Scatter charts -/

structure ScatterSettings where
  common : CommonSettings
  pointSize : Option Float := none
  pointStyle : Option ElementStyle := none
  shape : Option String := none

inductive ScatterChange where
  | common (change : CommonChange)
  | pointSize (size : Float)
  | pointStyle (style : ElementStyle)
  | shape (name : String)

namespace ScatterSettings

def apply (s : ScatterSettings) : ScatterChange → ScatterSettings
  | .common change => { s with common := s.common.apply change }
  | .pointSize size => { s with pointSize := some size }
  | .pointStyle style => { s with pointStyle := some style }
  | .shape name => { s with shape := some name }

/-- A scatter chart of two fields after some changes. -/
def build (xField yField : String) (changes : List ScatterChange) : ScatterSettings :=
  changes.foldl apply { common := { xField, yField } }

def toOptions (s : ScatterSettings) : OptionTree :=
  .obj (s.common.toOptions
    |> Entries.insertSome "pointSize" (s.pointSize.map .num)
    |> Entries.insertSome "pointStyle" (s.pointStyle.map ElementStyle.toOptions)
    |> Entries.insertSome "shape" (s.shape.map .str))

end ScatterSettings

end Charting
