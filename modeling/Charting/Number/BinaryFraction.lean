/-!
# Numbers as binary fractions

A finite number is a whole multiple of a power of two. Everything that has to be exact about
numbers (their decimal text, rounding to a count) is computed on that form in whole arithmetic.
-/

namespace Charting

/-- The number `± mantissa * 2 ^ exponent`. -/
structure BinaryFraction where
  negative : Bool
  mantissa : Nat
  exponent : Int
deriving DecidableEq, Repr

namespace BinaryFraction

/-- The bits of the fraction that are stored; a normal number has one more in front. -/
def storedBits : Nat := 52

/-- The exact value of a number; infinities and NaN have none. -/
def ofFloat? (x : Float) : Option BinaryFraction :=
  let bits := x.toBits.toNat
  let negative := bits >>> 63 == 1
  let fraction := bits % (1 <<< storedBits)
  let biased := (bits >>> storedBits) % (1 <<< 11)
  if biased = 2047 then none
  else if biased = 0 then some ⟨negative, fraction, -1074⟩
  else some ⟨negative, 1 <<< storedBits + fraction, (biased : Int) - 1075⟩

/-- The magnitude as a quotient of whole numbers. -/
def magnitude (x : BinaryFraction) : Nat × Nat :=
  match x.exponent with
  | .ofNat k => (x.mantissa <<< k, 1)
  | .negSucc k => (x.mantissa, 1 <<< (k + 1))

/-- The whole number nearest to the magnitude; a half goes up. -/
def nearest (x : BinaryFraction) : Nat :=
  let (num, den) := x.magnitude
  (2 * num + den) / (2 * den)

end BinaryFraction

/-- The quotient rounded to the nearest whole number; a half goes to the even neighbour. -/
def roundDivEven (num den : Nat) : Nat :=
  let quotient := num / den
  let twice := 2 * (num % den)
  if twice < den then quotient
  else if den < twice then quotient + 1
  else if quotient % 2 = 0 then quotient
  else quotient + 1

/-- The largest count that a tick setting holds. -/
def maxCount : Nat := UInt32.size - 1

/--
The count that a number stands for: finite and not negative, rounded to the nearest whole number
with halves going up, and held at the largest count.
-/
def countOfFloat? (x : Float) : Option UInt32 :=
  if 0 ≤ x then
    (BinaryFraction.ofFloat? x).map fun b => UInt32.ofNat (min b.nearest maxCount)
  else none

end Charting
