import Charting.Layout.Domain
import Charting.Scene

/-!
# Bars

The width of the canvas is shared out into one band per row. A bar stands in the middle of its band
on the bottom edge, and its height is the share of its value in the range.
-/

namespace Charting.Layout

variable {α : Type} [Add α] [Sub α] [Mul α] [Div α] [LT α] [DecidableLT α] [BEq α] [Quantity α]

open Quantity

/-- What decides how wide a bar is. -/
structure BarWidth (α : Type) where
  /-- The part of its band that a bar takes; half of it unless something else is said. -/
  ratio : Option α := none
  least : Option α := none
  most : Option α := none

/-- The width of a bar in a band: first no wider than `most`, then no narrower than `least`. -/
def BarWidth.ofBand (width : BarWidth α) (band : α) : α :=
  let wanted := band * width.ratio.getD (half (ofNat 1))
  let atMost := (width.most.map fun most => Quantity.least wanted most).getD wanted
  (width.least.map fun least => Quantity.greatest atMost least).getD atMost

/-- The value that fills the height. -/
def fullHeightValue (range : α × α) : α := if ofNat 0 < range.2 then range.2 else ofNat 1

/-- The height of a bar; a missing or negative value has none, a large one fills the canvas. -/
def barHeight (height full : α) (value : Option α) : α :=
  least (greatest (value.getD (ofNat 0)) (ofNat 0) / full) (ofNat 1) * height

/-- The bar of a value in band `i` of so many. -/
def barAt (viewport : Viewport) (width : BarWidth α) (range : α × α) (count i : Nat)
    (value : Option α) : Box α :=
  let height : α := ofNat viewport.height.toNat
  let band : α := ofNat viewport.width.toNat / ofNat count
  let center := band * (ofNat i + half (ofNat 1))
  { minX := center - half (width.ofBand band)
    minY := height - barHeight height (fullHeightValue range) value
    maxX := center + half (width.ofBand band)
    maxY := height }

def bars (viewport : Viewport) (width : BarWidth α) (range : α × α) (values : List (Option α)) :
    List (Box α) :=
  values.mapIdx (barAt viewport width range values.length)

end Charting.Layout
