import Charting.Number.Quantity
import Charting.Proofs.Number.Counts

/-!
# Exact numbers

The rational numbers are numbers to lay out with: no operation on them rounds, all of them are
finite, and the smaller and the larger of two are what they are in any order.
-/

namespace Charting

instance : Quantity ℚ where
  ofNat n := n
  isFinite _ := true

namespace Quantity

variable (x y : ℚ)

theorem ofNat_eq_cast (n : Nat) : (ofNat n : ℚ) = n := rfl

theorem half_eq_div_two : half x = x / 2 := rfl

theorem least_eq_min : least x y = min x y := by
  rw [least, isNumber, beq_self_eq_true, if_pos rfl]
  split_ifs with less
  · exact (min_eq_left less.le).symm
  · exact (min_eq_right (not_lt.mp less)).symm

theorem greatest_eq_max : greatest x y = max x y := by
  rw [greatest, isNumber, beq_self_eq_true, if_pos rfl]
  split_ifs with less
  · exact (max_eq_left less.le).symm
  · exact (max_eq_right (not_lt.mp less)).symm

end Quantity

/-- The rational number that a finite number is. -/
def exactValue (x : Float) : ℚ := ((BinaryFraction.ofFloat? x).map BinaryFraction.value).getD 0

end Charting
