import Charting.Proofs.Number.BinaryFraction

/-!
# Numbers taken as counts

A fraction is an exact rational number. A count is taken from it by rounding to the nearest whole
number, with halves going up, and holding what does not fit at the largest count.
-/

namespace Charting
namespace BinaryFraction

variable {b : BinaryFraction} {x : Float} {n : UInt32}

def value (b : BinaryFraction) : ℚ :=
  (if b.negative then -1 else 1) * (b.mantissa * 2 ^ b.exponent)

theorem magnitude_eq (b : BinaryFraction) :
    0 < b.magnitude.2 ∧ (b.magnitude.1 : ℚ) / b.magnitude.2 = b.mantissa * 2 ^ b.exponent := by
  obtain ⟨_, m, e⟩ := b
  cases e with
  | ofNat k => simp [magnitude, Nat.shiftLeft_eq]
  | negSucc k => simp [magnitude, Nat.shiftLeft_eq, zpow_negSucc, div_eq_mul_inv]

theorem nearest_eq (b : BinaryFraction) :
    b.nearest = ⌊(b.mantissa * 2 ^ b.exponent + 1 / 2 : ℚ)⌋₊ := by
  obtain ⟨positive, quotient⟩ := b.magnitude_eq
  unfold nearest
  generalize b.magnitude = parts at positive quotient
  obtain ⟨num, den⟩ := parts
  have nonzero : (den : ℚ) ≠ 0 := Nat.cast_ne_zero.mpr positive.ne'
  have halves : (num / den + 1 / 2 : ℚ) = ((2 * num + den : Nat) : ℚ) / ((2 * den : Nat) : ℚ) := by
    push_cast
    field_simp
  rw [← quotient, halves, Nat.floor_div_eq_div]

theorem value_of_nonneg (h : 0 ≤ b.value) : b.value = b.mantissa * 2 ^ b.exponent := by
  have positive : (0 : ℚ) ≤ b.mantissa * 2 ^ b.exponent := by positivity
  unfold value at h ⊢
  split_ifs at h ⊢ <;> linarith

theorem nonneg_iff (h : ofFloat? x = some b) : 0 ≤ x ↔ 0 ≤ b.value := by
  have compared : 0 ≤ x ↔ (Float.Model.UnpackedFloat.le (.zero .positive) x.toModel.unpack) = true :=
    decide_eq_true_iff
  rw [ofFloat?_eq] at h
  rw [compared]
  cases unpacked : x.toModel.unpack with
  | infinity | notANumber =>
      rw [unpacked] at h
      cases h
  | zero s =>
      rw [unpacked] at h
      cases h
      exact iff_of_true rfl (by simp [value])
  | finite s m e positive =>
      rw [unpacked] at h
      cases h
      have greater : (0 : ℚ) < m * 2 ^ e := by positivity
      cases s with
      | positive => exact iff_of_true rfl (by simpa [value] using greater.le)
      | negative => exact iff_of_false Bool.false_ne_true (by simpa [value] using greater)

theorem countOfFloat?_eq_some_iff : countOfFloat? x = some n ↔
    ∃ b, ofFloat? x = some b ∧ 0 ≤ b.value ∧ n.toNat = min ⌊b.value + 1 / 2⌋₊ (2 ^ 32 - 1) := by
  have held (b : BinaryFraction) : UInt32.ofNat (min b.nearest maxCount) = n ↔
      n.toNat = min b.nearest (2 ^ 32 - 1) := by
    have small : min b.nearest maxCount < UInt32.size :=
      (Nat.min_le_right _ _).trans_lt (by decide)
    rw [← UInt32.toNat_inj, UInt32.toNat_ofNat_of_lt' small, eq_comm]
    rfl
  have rounded (b : BinaryFraction) (positive : 0 ≤ b.value) :
      b.nearest = ⌊b.value + 1 / 2⌋₊ := by
    rw [nearest_eq, value_of_nonneg positive]
  rw [countOfFloat?, Option.ite_none_right_eq_some, Option.map_eq_some_iff]
  constructor
  · rintro ⟨positive, b, found, same⟩
    have positive := (nonneg_iff found).mp positive
    exact ⟨b, found, positive, by rw [← rounded b positive, ← held, same]⟩
  · rintro ⟨b, found, positive, same⟩
    exact ⟨(nonneg_iff found).mpr positive, b, found, by rw [held, same, rounded b positive]⟩

end BinaryFraction
end Charting
