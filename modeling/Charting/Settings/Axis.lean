import Charting.Options.Tree

/-!
# Typed settings of an axis
-/

namespace Charting

/-- The settings of an axis that bear on its scale or its looks. -/
structure AxisSettings where
  visible : Option Bool := none
  /-- The name of the scale's family. -/
  scaleType : Option String := none
  min : Option Float := none
  max : Option Float := none
  nice : Option Bool := none
  tickCount : Option UInt32 := none
  tickInterval : Option Float := none
  mask : Option String := none
  formatter : Option Callback := none
  titleVisible : Option Bool := none
  /-- Options without a type; a typed setting replaces the one under its key. -/
  extra : OptionMap := []

def AxisSettings.toOptions (s : AxisSettings) : OptionMap :=
  s.extra
    |> Entries.insertSome "visible" (s.visible.map .bool)
    |> Entries.insertSome "type" (s.scaleType.map .str)
    |> Entries.insertSome "min" (s.min.map .num)
    |> Entries.insertSome "max" (s.max.map .num)
    |> Entries.insertSome "nice" (s.nice.map .bool)
    |> Entries.insertSome "tickCount" (s.tickCount.map fun n => .num n.toFloat)
    |> Entries.insertSome "tickInterval" (s.tickInterval.map .num)
    |> Entries.insertSome "mask" (s.mask.map .str)
    |> Entries.insertSome "formatter" (s.formatter.map .fn)
    |> Entries.insertSome "title" (s.titleVisible.map fun b => .obj [("visible", .bool b)])

end Charting
