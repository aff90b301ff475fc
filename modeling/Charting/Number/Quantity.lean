/-!
# Arithmetic of a layout

Layouts need the four operations, comparison and the lengths of the canvas. They are written over
any such arithmetic: the program runs on machine numbers, and a statement about positions can be
made over exact ones.
-/

namespace Charting

/-- Numbers in which positions and lengths are computed. -/
class Quantity (α : Type) where
  ofNat : Nat → α
  isFinite : α → Bool

namespace Quantity

variable {α : Type} [Add α] [Sub α] [Mul α] [Div α] [LT α] [DecidableLT α] [BEq α] [Quantity α]

/-- The value is a number, so that it equals itself. -/
def isNumber (x : α) : Bool := x == x

/-- The smaller of two values: the second on a tie, and the first if the second is no number. -/
def least (x y : α) : α := if isNumber y then (if x < y then x else y) else x

/-- The larger of two values: the second on a tie, and the first if the second is no number. -/
def greatest (x y : α) : α := if isNumber y then (if y < x then x else y) else x

/-- The value brought into the range from `low` to `high`. -/
def clamp (x low high : α) : α :=
  let raised := if x < low then low else x
  if high < raised then high else raised

def half (x : α) : α := x / ofNat 2

end Quantity

instance : Quantity Float where
  ofNat := Float.ofNat
  isFinite := Float.isFinite

end Charting
