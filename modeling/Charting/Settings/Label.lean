import Charting.Options.Tree

/-!
# Typed settings of a label and of a conversion tag
-/

namespace Charting

/-- The object under a key, left out when it is empty. -/
def Entries.insertObject (key : String) (value entries : OptionMap) : OptionMap :=
  if value.isEmpty then entries else Entries.insert key (.obj value) entries

structure LabelSettings where
  visible : Option Bool := none
  position : Option String := none
  offset : Option Float := none
  style : OptionMap := []
  formatter : Option Callback := none
  /-- Options without a type; a typed setting replaces the one under its key. -/
  extra : OptionMap := []

def LabelSettings.toOptions (s : LabelSettings) : OptionMap :=
  s.extra
    |> Entries.insertSome "visible" (s.visible.map .bool)
    |> Entries.insertSome "position" (s.position.map .str)
    |> Entries.insertSome "offset" (s.offset.map .num)
    |> Entries.insertObject "style" s.style
    |> Entries.insertSome "formatter" (s.formatter.map .fn)

structure TagSettings where
  visible : Option Bool := none
  size : Option Float := none
  spacing : Option Float := none
  offset : Option Float := none
  arrowVisible : Option Bool := none
  valueVisible : Option Bool := none
  /-- Makes the text of a tag of the values before and after it. -/
  formatter : Option Callback := none

def TagSettings.toOptions (s : TagSettings) : OptionMap :=
  ([] : OptionMap)
    |> Entries.insertSome "visible" (s.visible.map .bool)
    |> Entries.insertSome "size" (s.size.map .num)
    |> Entries.insertSome "spacing" (s.spacing.map .num)
    |> Entries.insertSome "offset" (s.offset.map .num)
    |> Entries.insertSome "arrow" (s.arrowVisible.map fun b => .obj [("visible", .bool b)])
    |> Entries.insertObject "value"
      (([] : OptionMap)
        |> Entries.insertSome "visible" (s.valueVisible.map .bool)
        |> Entries.insertSome "formatter" (s.formatter.map .fn))

end Charting
