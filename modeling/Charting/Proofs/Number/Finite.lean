import Charting.Proofs.Number.BinaryFraction
import Mathlib

/-!
# Numbers that stay finite

A number is finite while its exponent is at most 971. Rounding and multiplying raise the exponent by
no more than the length of the mantissas, so that no whole number of 64 bits gets near that limit.
-/

namespace Charting

open Float.Model (UnpackedFloat Format)
open Float.Model.UnpackedFloat

/-- A finite number with a mantissa of at most so many bits and an exponent up to a limit. -/
inductive Bounded (bits : Nat) (limit : Int) : UnpackedFloat → Prop where
  | zero (s : Sign) : Bounded bits limit (.zero s)
  | finite (s : Sign) {m : Nat} {e : Int} (positive : 0 < m) (short : m < 2 ^ bits)
      (small : e ≤ limit) : Bounded bits limit (.finite s m e positive)

variable {u v : UnpackedFloat} {bits : Nat} {limit e : Int} {m : Nat}

theorem Bounded.isFinite (h : Bounded bits limit u) : u.isFinite = true := by
  cases h <;> rfl

theorem Bounded.neg (h : Bounded bits limit u) : Bounded bits limit u.neg := by
  cases h with
  | zero => exact .zero _
  | finite _ positive short small => exact .finite _ positive short small

theorem Bounded.mono {bits' : Nat} {limit' : Int} (h : Bounded bits limit u) (more : bits ≤ bits')
    (greater : limit ≤ limit') : Bounded bits' limit' u := by
  cases h with
  | zero => exact .zero _
  | finite _ positive short small =>
      exact .finite _ positive (short.trans_le (Nat.pow_le_pow_right Nat.two_pos more))
        (small.trans greater)

/-! ## Packing -/

theorem bounded_unpack {b : BitVec Format.binary64.numBits} (low : -1074 ≤ limit)
    (notFull : unpackExponent b ≠ -1#11) (fits : ((unpackExponent b).toNat : Int) - 1075 ≤ limit) :
    Bounded 53 limit (unpack Format.binary64 b) := by
  have short : (unpackMantissa b).toNat < 2 ^ 52 := (unpackMantissa b).isLt
  have bias : Format.binary64.exponentBias = 1023 := rfl
  fun_cases unpack Format.binary64 b with
  | case1 _ _ _ _ full => exact absurd full notFull
  | case2 _ _ full => exact absurd full notFull
  | case3 => exact .zero _
  | case4 mantissa exponent lowest _ _ _ zero =>
      have none : exponent.toNat = 0 := congrArg BitVec.toNat zero
      refine .finite _ _ ?_ ?_
      · simp only [mantissa]
        omega
      · simp only [lowest, none, bias]
        omega
  | case5 mantissa exponent least _ _ _ _ =>
      refine .finite _ _ ?_ ?_
      · rw [BinaryFraction.toNat_one_append]
        simp only [mantissa]
        omega
      · simp only [least, exponent, bias]
        omega

theorem bounded_unpack_packComponents (s : Sign) {E : BitVec 11} (M : BitVec 52)
    (low : -1074 ≤ limit) (notFull : E ≠ -1#11) (fits : (E.toNat : Int) - 1075 ≤ limit) :
    Bounded 53 limit (unpack Format.binary64 (packComponents Format.binary64 s E M)) := by
  have parted : unpackExponent (packComponents Format.binary64 s E M) = E :=
    unpackExponent_packComponents
  exact bounded_unpack low (by rwa [parted]) (by rwa [parted])

theorem Bounded.repack (h : Bounded bits limit u) (low : -1074 ≤ limit) (high : limit ≤ 971) :
    Bounded 53 limit (unpack Format.binary64 (pack Format.binary64 u)) := by
  cases h with
  | zero s =>
      rw [pack, unpack_packedZero]
      exact .zero s
  | @finite s m e positive _ small =>
      have bias : Format.binary64.exponentBias = 1023 := rfl
      have room : (e + 1023 + 52).toNat < 2047 := by omega
      have stored : (BitVec.ofNat 11 (e + 1023 + 52).toNat).toNat = (e + 1023 + 52).toNat := by
        rw [BitVec.toNat_ofNat, Nat.mod_eq_of_lt (by omega)]
      have notFull : BitVec.ofNat 11 (e + 1023 + 52).toNat ≠ -1#11 := by
        rw [Ne, ← BitVec.toNat_inj, stored]
        exact room.ne
      simp only [pack, bias, Nat.cast_ofNat]
      split_ifs with large normal
      · exact absurd large (by omega)
      · exact bounded_unpack_packComponents s _ low notFull (by rw [stored]; omega)
      · exact bounded_unpack_packComponents s _ low (by decide) (by rw [BitVec.toNat_ofNat]; omega)

/-! ## Rounding -/

theorem mantissa_shiftRight_le (em : ExtendedMantissa) (n : Nat) :
    (em >>> n).mantissa ≤ em.mantissa := by
  change (n.repeat ExtendedMantissa.shiftRightOne em).mantissa ≤ em.mantissa
  induction n with
  | zero => exact Nat.le_refl _
  | succ n ih => exact (Nat.div_le_self _ 2).trans ih

theorem roundedMantissa_le (em : ExtendedMantissa) : em.roundedMantissa ≤ em.mantissa + 1 := by
  obtain ⟨m, roundBit, stickyBit⟩ := em
  have odd : m % 2 < 2 := Nat.mod_lt m Nat.two_pos
  cases roundBit <;> cases stickyBit <;>
    simp only [ExtendedMantissa.roundedMantissa, ExtendedMantissa.accuracy,
      Accuracy.roundToNearestEven] <;> omega

theorem shiftToTargetExponent_le (short : m < 2 ^ bits) (small : e ≤ limit) (positive : 0 ≤ limit) :
    (shiftToTargetExponent Format.binary64 m e .exact).1.mantissa ≤ m ∧
      (shiftToTargetExponent Format.binary64 m e .exact).2 ≤ limit + bits := by
  refine ⟨mantissa_shiftRight_le _ _, ?_⟩
  have length : m.log2 ≤ bits := by
    by_cases zero : m = 0
    · simp [zero]
    · exact ((Nat.log2_lt zero).mpr short).le
  have least : Format.binary64.minExponent = -1074 := rfl
  have width : Format.binary64.mantissaBits = 53 := rfl
  simp only [shiftToTargetExponent, shiftToExponent, Format.targetExponent,
    Float.Model.totalExponent, least, width]
  omega

theorem bounded_round (s : Sign) (short : m < 2 ^ bits) (small : e ≤ limit) (positive : 0 ≤ limit) :
    Bounded (bits + 1) (limit + 2 * bits + 1)
      (roundWithAccuracy Format.binary64 s m e .exact) := by
  let first := shiftToTargetExponent Format.binary64 m e .exact
  obtain ⟨kept, near⟩ := shiftToTargetExponent_le short small positive
  have rounded : first.1.roundedMantissa < 2 ^ (bits + 1) := by
    have := roundedMantissa_le first.1
    have : first.1.mantissa ≤ m := kept
    have : 1 ≤ 2 ^ bits := Nat.one_le_two_pow
    rw [pow_succ]
    omega
  obtain ⟨kept', near'⟩ := shiftToTargetExponent_le rounded near (by omega)
  change Bounded _ _ (if h : _ then _ else _)
  split_ifs with nothing
  · exact .zero s
  · refine .finite s _ (kept'.trans_lt rounded) (near'.trans ?_)
    push_cast
    omega

/-! ## Machine numbers -/

theorem bounded_unpack_toModel {x : Float} (finite : x.isFinite = true) :
    Bounded 53 971 x.toModel.unpack := by
  let b : BitVec Format.binary64.numBits := x.toModel.toBits.toBitVec
  have small : (unpackExponent b).toNat < 2 ^ 11 := (unpackExponent b).isLt
  have fraction : BinaryFraction.ofUnpacked? x.toModel.unpack = _ :=
    BinaryFraction.ofUnpacked?_unpack b
  have notFull : (unpackExponent b).toNat ≠ 2047 := by
    intro full
    rw [← BinaryFraction.isSome_ofFloat?, BinaryFraction.ofFloat?_eq, fraction] at finite
    simp [full] at finite
  have unpacked : Bounded 53 971 (unpack Format.binary64 b) :=
    bounded_unpack (by omega) (fun full => notFull (congrArg BitVec.toNat full)) (by omega)
  exact unpacked

theorem isFinite_neg {x : Float} (finite : x.isFinite = true) : (-x).isFinite = true :=
  ((bounded_unpack_toModel finite).neg.repack (by omega) (by omega)).isFinite

/-! ## Whole numbers -/

theorem Bounded.mul (h : Bounded bits limit u) (h' : Bounded bits limit v) (positive : 0 ≤ limit) :
    Bounded (2 * bits + 1) (2 * limit + 4 * bits + 1) (mul Format.binary64 u v) := by
  cases h with
  | zero => cases h' <;> exact .zero _
  | @finite s m e _ short small =>
      cases h' with
      | zero => exact .zero _
      | @finite s' m' e' _ short' small' =>
          have product : m * m' < 2 ^ (2 * bits) := by
            rw [two_mul, pow_add]
            exact Nat.mul_lt_mul'' short short'
          have rounded := bounded_round (s * s') product (add_le_add small small') (by omega)
          exact rounded.mono (by omega) (by push_cast; omega)

theorem bounded_ofNat {n : Nat} (short : n < 2 ^ bits) :
    Bounded (bits + 54) (2 * bits + 107) (UnpackedFloat.ofNat Format.binary64 n) := by
  have least : Format.binary64.minExponent = -1074 := rfl
  have width : Format.binary64.mantissaBits = 53 := rfl
  unfold UnpackedFloat.ofNat UnpackedFloat.ofInt UnpackedFloat.normalize
  split
  · rename_i negative
    rw [Int.compare_eq_lt] at negative
    omega
  · exact .zero _
  · let shift := (0 - Format.binary64.targetExponent (Float.Model.totalExponent n 0)).toNat
    have few : shift ≤ 52 := by
      simp only [shift, Format.targetExponent, Float.Model.totalExponent, least, width]
      omega
    have shifted : n <<< shift < 2 ^ (bits + 52) := by
      rw [Nat.shiftLeft_eq, pow_add]
      exact Nat.mul_lt_mul_of_lt_of_le short (Nat.pow_le_pow_right Nat.two_pos few) (by positivity)
    have lowered : (0 - shift : Int) ≤ 0 := by omega
    exact (bounded_round .positive shifted lowered (Int.le_refl 0)).mono (by omega) (by omega)

-- A whole number goes through one multiplication: by one if its digits fit a mantissa, else by the
-- zeroth power of ten. 235 is the bound of `bounded_ofNat` for 64 bits.
theorem bounded_one : Bounded 53 235 Float.exactlyRepresentablePowersOfTen[0].toModel.unpack :=
  .finite .positive _ (by decide) (by decide)

theorem bounded_ofScientific {n : Nat} (short : n < 2 ^ 64) :
    Bounded 235 469 (UnpackedFloat.ofScientific Format.binary64 n 0) := by
  have width : Format.binary64.mantissaBits = 53 := rfl
  by_cases zero : n = 0
  · rw [UnpackedFloat.ofScientific, dif_pos zero]
    exact .zero _
  · have large : (0 : Int) < 2 ^ Format.binary64.exponentBits := by positivity
    have near : ¬ (0 : Int) > 2 ^ Format.binary64.exponentBits := by omega
    have far : ¬ (0 : Int) < -((2 ^ Format.binary64.exponentBits : Int) + n.log2) := by omega
    have shifted : n <<< Format.binary64.mantissaBits < 2 ^ 117 := by
      rw [width, Nat.shiftLeft_eq]
      omega
    rw [UnpackedFloat.ofScientific, dif_neg zero, if_neg near, if_neg far, if_pos (Int.le_refl 0)]
    have lowered : -(Format.binary64.mantissaBits : Int) ≤ 0 := by omega
    exact .mul (.finite .positive _ shifted lowered) (.finite .positive _ (by decide) (Int.le_refl 0))
      (Int.le_refl 0)

theorem isFinite_ofNat {n : Nat} (small : n < 2 ^ 64) : (Float.ofNat n).isFinite = true := by
  unfold Float.ofNat OfScientific.ofScientific instOfScientificFloat Float.ofScientific
  simp only [Nat.zero_le, and_true, Bool.false_eq_true, ↓reduceIte]
  split_ifs with fast
  · have whole : Bounded 53 235 n.toUInt64.toFloat.toModel.unpack :=
      (bounded_ofNat n.toUInt64.toNat_lt).repack (by omega) (by omega)
    have product := (whole.mul bounded_one (by omega)).repack (by omega) (by omega)
    exact product.isFinite
  · exact ((bounded_ofScientific small).repack (by omega) (by omega)).isFinite

theorem isFinite_ofInt {n : Int} (low : -2 ^ 64 < n) (high : n < 2 ^ 64) :
    (Float.ofInt n).isFinite = true := by
  cases n with
  | ofNat n => exact isFinite_ofNat (Int.ofNat_lt.mp high)
  | negSucc n => exact isFinite_neg (isFinite_ofNat (by omega))

end Charting
