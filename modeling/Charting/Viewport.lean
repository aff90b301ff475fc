/-!
# The size of a chart
-/

namespace Charting

/-- The size of the container in pixels. -/
structure Viewport where
  width : UInt32 := 400
  height : UInt32 := 300
deriving DecidableEq, Repr, Inhabited

def Viewport.isValid (viewport : Viewport) : Bool :=
  0 < viewport.width && 0 < viewport.height

end Charting
