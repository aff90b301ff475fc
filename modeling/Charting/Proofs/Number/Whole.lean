import Charting.Proofs.Number.Counts

/-!
# Whole numbers as machine numbers

A whole number of up to 53 bits fits a mantissa. Its machine number is the number itself, so that a
count is read back as it was written.
-/

namespace Charting

open Float.Model (UnpackedFloat Format totalExponent)
open Float.Model.UnpackedFloat

variable {m n k : Nat} {e : Int}

theorem log2_mul_two_pow (positive : 0 < n) : (n * 2 ^ k).log2 = n.log2 + k := by
  rw [Nat.log2_eq_iff (Nat.mul_pos positive (Nat.two_pow_pos k)).ne']
  constructor
  · rw [pow_add]
    exact Nat.mul_le_mul_right _ (Nat.log2_self_le positive.ne')
  · rw [Nat.add_right_comm, pow_add]
    exact Nat.mul_lt_mul_of_pos_right Nat.lt_log2_self (Nat.two_pow_pos k)

/-! ## Mantissas of full length -/

theorem targetExponent_of_full (full : m.log2 = 52) (least : -1074 ≤ e) :
    Format.binary64.targetExponent (totalExponent m e) = e := by
  simp [Format.targetExponent, totalExponent, Format.mantissaBits, Format.minExponent, full, least]

theorem unpackSign_packComponents (s : Sign) (E : BitVec 11) (M : BitVec 52) :
    unpackSign (packComponents Format.binary64 s E M) = s.toBitVec := by
  change (s.toBitVec ++ E ++ M).extractLsb' 63 1 = s.toBitVec
  rw [BitVec.extractLsb'_append_eq_of_le (by decide), BitVec.extractLsb'_append_eq_of_le (by decide)]
  exact BitVec.extractLsb'_eq_self

/-- A mantissa that has all its bits comes back from the bits with its exponent. -/
theorem unpack_pack_of_full (s : Sign) (positive : 0 < m) (full : m.log2 = 52)
    (least : -1074 ≤ e) (most : e ≤ 971) :
    unpack Format.binary64 (pack Format.binary64 (.finite s m e positive)) =
      .finite s m e positive := by
  have bias : Format.binary64.exponentBias = 1023 := rfl
  have width : Format.binary64.mantissaBits = 53 := rfl
  obtain ⟨low, high⟩ := (Nat.log2_eq_iff positive.ne').mp full
  have stored : (BitVec.ofNat 11 (e + 1023 + 52).toNat).toNat = (e + 1075).toNat := by
    rw [BitVec.toNat_ofNat]
    omega
  -- the stored exponent is not one of the two that mark special numbers
  have notFull : BitVec.ofNat 11 (e + 1023 + 52).toNat ≠ -1#11 := by
    intro same
    have same : (e + 1075).toNat = 2047 := stored.symm.trans (congrArg BitVec.toNat same)
    omega
  have notZero : BitVec.ofNat 11 (e + 1023 + 52).toNat ≠ 0#11 := by
    intro same
    have same : (e + 1075).toNat = 0 := stored.symm.trans (congrArg BitVec.toNat same)
    omega
  have mantissa : (1#1 ++ BitVec.ofNat 52 m).toNat = m := by
    rw [BinaryFraction.toNat_one_append, BitVec.toNat_ofNat]
    omega
  have sign : Sign.ofBitVec s.toBitVec = s := by cases s <;> rfl
  have room : ¬ 2 ^ 11 ≤ (e + 1023 + 52).toNat + 1 := by omega
  simp only [pack, bias, full, width, Nat.cast_ofNat, if_neg room, ↓reduceIte]
  simp only [unpack, unpackMantissa_packComponents, unpackExponent_packComponents,
    unpackSign_packComponents, if_neg notFull, if_neg notZero, mantissa, stored, sign, bias]
  congr 1
  omega

/-- Nothing is rounded away where the exponent is the one that is aimed at. -/
theorem roundWithAccuracy_of_full (s : Sign) (positive : 0 < m) (full : m.log2 = 52)
    (least : -1074 ≤ e) :
    roundWithAccuracy Format.binary64 s m e .exact = .finite s m e positive := by
  have unmoved : shiftToTargetExponent Format.binary64 m e .exact = (⟨m, false, false⟩, e) := by
    rw [shiftToTargetExponent, targetExponent_of_full full least, shiftToExponent, sub_self]
    exact Prod.ext rfl (add_zero e)
  have kept : (⟨m, false, false⟩ : ExtendedMantissa).roundedMantissa = m := rfl
  simp only [roundWithAccuracy, unmoved, kept, dif_neg positive.ne']

/-! ## Whole numbers -/

/-- A whole number that fits a mantissa is moved to the left until it fills it. -/
theorem ofNat_of_fits (positive : 0 < n) (fits : n < 2 ^ 53) :
    UnpackedFloat.ofNat Format.binary64 n =
      .finite .positive (n * 2 ^ (52 - n.log2)) (n.log2 - 52)
        (Nat.mul_pos positive (Nat.two_pow_pos _)) := by
  have short : n.log2 < 53 := (Nat.log2_lt positive.ne').mpr fits
  have aimed : Format.binary64.targetExponent (totalExponent n 0) = n.log2 - 52 := by
    simp [Format.targetExponent, totalExponent, Format.mantissaBits, Format.minExponent]
    omega
  have greater : compare (n : Int) 0 = .gt := Int.compare_eq_gt.mpr (by omega)
  have shift : (0 - (n.log2 - 52 : Int)).toNat = 52 - n.log2 := by omega
  have lowered : 0 - ((52 - n.log2 : Nat) : Int) = n.log2 - 52 := by omega
  have full : (n * 2 ^ (52 - n.log2)).log2 = 52 := by
    rw [log2_mul_two_pow positive]
    omega
  simp only [UnpackedFloat.ofNat, UnpackedFloat.ofInt, UnpackedFloat.normalize, greater,
    Int.toNat_natCast, UnpackedFloat.round, aimed, decreaseExponent, shift, lowered,
    Nat.shiftLeft_eq]
  exact roundWithAccuracy_of_full .positive _ full (by omega)

namespace BinaryFraction

theorem ofUnpacked?_repack_ofNat (fits : n < 2 ^ 53) :
    ∃ b, ofUnpacked? (unpack Format.binary64
        (pack Format.binary64 (UnpackedFloat.ofNat Format.binary64 n))) = some b ∧ b.value = n := by
  rcases Nat.eq_zero_or_pos n with rfl | positive
  · exact ⟨⟨false, 0, -1074⟩, rfl, by simp [value]⟩
  · have short : n.log2 < 53 := (Nat.log2_lt positive.ne').mpr fits
    have full : (n * 2 ^ (52 - n.log2)).log2 = 52 := by
      rw [log2_mul_two_pow positive]
      omega
    have lowered : (n.log2 - 52 : Int) = -(52 - n.log2 : Nat) := by omega
    refine ⟨⟨false, n * 2 ^ (52 - n.log2), n.log2 - 52⟩, ?_, ?_⟩
    · rw [ofNat_of_fits positive fits, unpack_pack_of_full .positive _ full (by omega) (by omega)]
      rfl
    · rw [lowered]
      simp [value]

/-- A whole number of 32 bits is a machine number exactly. -/
theorem ofFloat?_toFloat (n : UInt32) :
    ∃ b, ofFloat? n.toFloat = some b ∧ b.value = n.toNat := by
  rw [ofFloat?_eq]
  exact ofUnpacked?_repack_ofNat (n.toNat_lt.trans (by decide))

theorem countOfFloat?_toFloat (n : UInt32) : countOfFloat? n.toFloat = some n := by
  obtain ⟨b, found, same⟩ := ofFloat?_toFloat n
  have rounded : ⌊(n.toNat : ℚ) + 1 / 2⌋₊ = n.toNat := by
    rw [Nat.floor_eq_iff (by positivity)]
    constructor <;> linarith
  have small : n.toNat ≤ 2 ^ 32 - 1 := Nat.le_sub_one_of_lt n.toNat_lt
  refine countOfFloat?_eq_some_iff.mpr ⟨b, found, ?_, ?_⟩
  · rw [same]
    positivity
  · rw [same, rounded, min_eq_left small]

end BinaryFraction
end Charting
