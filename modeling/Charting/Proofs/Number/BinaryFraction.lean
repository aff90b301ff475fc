import Charting.Number.BinaryFraction
import Mathlib

/-!
# The fraction of a machine number

The fraction is read off the bits. It is the number that the bits are taken apart into, and only
infinities and NaN have none.
-/

namespace Charting

open Float.Model (UnpackedFloat Format)
open Float.Model.UnpackedFloat

namespace BinaryFraction

/-- The fraction of a number that is taken apart. -/
def ofUnpacked? : UnpackedFloat → Option BinaryFraction
  | .zero s => some ⟨s == .negative, 0, -1074⟩
  | .finite s m e _ => some ⟨s == .negative, m, e⟩
  | _ => none

theorem toNat_unpackExponent (b : BitVec Format.binary64.numBits) :
    (unpackExponent b).toNat = (b.toNat >>> 52) % 2 ^ 11 := by
  rw [unpackExponent_def, BitVec.extractLsb'_toNat]

theorem toNat_unpackMantissa (b : BitVec Format.binary64.numBits) :
    (unpackMantissa b).toNat = b.toNat % 2 ^ 52 := by
  rw [unpackMantissa_def, BitVec.extractLsb'_toNat, Nat.shiftRight_zero]

theorem toNat_unpackSign (b : BitVec Format.binary64.numBits) :
    (unpackSign b).toNat = b.toNat >>> 63 := by
  have bound : b.toNat < 2 ^ 64 := b.isLt
  have small : b.toNat >>> 63 < 2 := by
    rw [Nat.shiftRight_eq_div_pow]
    omega
  rw [unpackSign_def, BitVec.extractLsb'_toNat]
  exact Nat.mod_eq_of_lt small

theorem ofBitVec_beq_negative (s : BitVec 1) : (Sign.ofBitVec s == .negative) = (s.toNat == 1) := by
  decide +revert

theorem toNat_one_append (m : BitVec 52) : (1#1 ++ m).toNat = 2 ^ 52 + m.toNat := by
  rw [BitVec.toNat_append, ← Nat.shiftLeft_add_eq_or_of_lt m.isLt, BitVec.toNat_ofNat]
  rfl

/-- The parts of a pattern of bits make its fraction; the greatest exponent is that of infinities and
NaN, and the least that of numbers without the leading bit. -/
theorem ofUnpacked?_unpack (b : BitVec Format.binary64.numBits) :
    ofUnpacked? (unpack Format.binary64 b) =
      let negative := Sign.ofBitVec (unpackSign b) == .negative
      if (unpackExponent b).toNat = 2047 then none
      else if (unpackExponent b).toNat = 0 then some ⟨negative, (unpackMantissa b).toNat, -1074⟩
      else some ⟨negative, 2 ^ 52 + (unpackMantissa b).toNat, (unpackExponent b).toNat - 1075⟩ := by
  have greatest : (unpackExponent b).toNat = 2047 ↔ unpackExponent b = -1#11 :=
    BitVec.toNat_inj (y := -1#11)
  have least : (unpackExponent b).toNat = 0 ↔ unpackExponent b = 0#11 :=
    BitVec.toNat_inj (y := 0#11)
  simp only [greatest, least]
  fun_cases unpack Format.binary64 b with
  | case1 mantissa exponent _ _ full empty => exact (if_pos full).symm
  | case2 mantissa exponent full _ => exact (if_pos full).symm
  | case3 mantissa exponent _ sign notFull zero empty =>
      have nothing : (unpackMantissa b).toNat = 0 := congrArg BitVec.toNat empty
      rw [if_neg notFull, if_pos zero, nothing]
      rfl
  | case4 mantissa exponent e _ sign notFull zero _ =>
      have lowest : e + 1 = -1074 := by
        have : (exponent.toNat : Int) = 0 := congrArg (fun v => (v.toNat : Int)) zero
        simp only [e, this]
        rfl
      rw [if_neg notFull, if_pos zero, ofUnpacked?, lowest]
  | case5 mantissa exponent e _ sign notFull notZero =>
      rw [if_neg notFull, if_neg notZero, ofUnpacked?, toNat_one_append]
      rfl

theorem ofFloat?_eq (x : Float) : ofFloat? x = ofUnpacked? x.toModel.unpack := by
  obtain ⟨⟨bits, valid⟩⟩ := x
  let b : BitVec Format.binary64.numBits := bits.toBitVec
  have negative : (b.toNat >>> 63 == 1) = (Sign.ofBitVec (unpackSign b) == .negative) := by
    rw [ofBitVec_beq_negative, toNat_unpackSign]
  have unpacked : ofUnpacked? (unpack Format.binary64 b) = _ := ofUnpacked?_unpack b
  rw [toNat_unpackExponent, toNat_unpackMantissa, ← negative] at unpacked
  exact unpacked.symm

/-- The numbers that have a fraction are the finite ones. -/
theorem isSome_ofFloat? (x : Float) : (ofFloat? x).isSome = x.isFinite := by
  rw [ofFloat?_eq, Float.isFinite, Float.Model.isFinite]
  cases x.toModel.unpack <;> rfl

end BinaryFraction
end Charting
