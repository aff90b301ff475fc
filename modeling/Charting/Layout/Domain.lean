import Charting.Number.Quantity

/-!
# The range of a field

The values of a field, taken together with zero, span its range; limits of the scale replace its
ends.
-/

namespace Charting.Layout

variable {α : Type} [Add α] [Sub α] [Mul α] [Div α] [LT α] [DecidableLT α] [BEq α] [Quantity α]

open Quantity

/-- The largest of some values, if there are any. -/
def largest? (values : List α) : Option α :=
  values.foldl (fun found v => some ((found.map fun m => greatest m v).getD v)) none

/-- The smallest of some values, if there are any. -/
def smallest? (values : List α) : Option α :=
  values.foldl (fun found v => some ((found.map fun m => least m v).getD v)) none

def leastWithZero (values : List α) : α := values.foldl least (ofNat 0)

/-- The ends of the range of a field. It is 0 to 1 without an upper end or if an end is infinite. -/
def domain (lower upper : Option α) (values : List α) : α × α :=
  match upper.or (largest? values) with
  | none => (ofNat 0, ofNat 1)
  | some high =>
    let low := lower.getD (leastWithZero values)
    if isFinite low && isFinite high then (low, high) else (ofNat 0, ofNat 1)

/-- Where a value lies in a range, from 0 to 1; in an empty range everything lies in the middle. -/
def normalize (range : α × α) (value : α) : α :=
  if range.1 < range.2 then clamp ((value - range.1) / (range.2 - range.1)) (ofNat 0) (ofNat 1)
  else half (ofNat 1)

end Charting.Layout
