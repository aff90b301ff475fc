import Charting.Layout.Domain
import Charting.Scene

/-!
# Points

A point lies where its two values lie in their ranges. If the x values are categories, the rows are
spread evenly instead.
-/

namespace Charting.Layout

variable {α : Type} [Add α] [Sub α] [Mul α] [Div α] [LT α] [DecidableLT α] [BEq α] [Quantity α]

open Quantity

/-- The square of half-width `radius` around a position. -/
def square (x y radius : α) : Box α := ⟨x - radius, y - radius, x + radius, y + radius⟩

/-- One square per row; a missing value lies at the lower end of its range. -/
def points (viewport : Viewport) (radius : α) (discrete : Bool) (xRange yRange : α × α)
    (rows : List (Option α × Option α)) : List (Box α) :=
  let width : α := ofNat viewport.width.toNat
  let height : α := ofNat viewport.height.toNat
  rows.mapIdx fun i row =>
    let x :=
      if discrete then width / ofNat rows.length * (ofNat i + half (ofNat 1))
      else normalize xRange (row.1.getD xRange.1) * width
    let y := height - normalize yRange (row.2.getD yRange.1) * height
    square x y radius

end Charting.Layout
