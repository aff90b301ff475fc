import Charting.Number.BinaryFraction

/-!
# The shortest decimal that reads back

Among the decimals that round to a given number, the one with the fewest digits, and of those the
nearest. For each digit count the number has two neighbours on the grid of such decimals; the first
grid with a neighbour inside the rounding interval decides.
-/

namespace Charting

/-- The decimal `0.d₁d₂… * 10 ^ (exponent + 1)`, whose digits `d₁d₂…` are those of `digits`. -/
structure Decimal where
  digits : Nat
  /-- The power of ten of the first digit. -/
  exponent : Int
deriving DecidableEq, Repr

/-- Which of two equally near decimals is written. -/
inductive Tie where
  | even
  | up
deriving DecidableEq, Repr

namespace Decimal

def length (n : Nat) : Nat := (Nat.toDigits 10 n).length

def trim (n : Nat) : Nat → Nat
  | 0 => n
  | fuel + 1 => if n % 10 = 0 then trim (n / 10) fuel else n

/-- The power of ten of the first digit of `num / den`. -/
def firstExponent (num den : Nat) : Int :=
  if den ≤ num then (length (num / den) : Int) - 1
  else -(length ((den + num - 1) / num - 1) : Int)

/-- A value with the ends of its rounding interval, over one denominator. -/
structure Interval where
  low : Nat
  value : Nat
  high : Nat
  den : Nat
  /-- The ends themselves round to the value. -/
  closed : Bool

/-- The decimals that read back as the fraction; the gap below a power of two is half as wide. -/
def intervalOf (b : BinaryFraction) : Interval :=
  let narrow := b.mantissa == 1 <<< BinaryFraction.storedBits && b.exponent > -1074
  let value := 4 * b.mantissa
  let low := if narrow then value - 1 else value - 2
  let high := value + 2
  let closed := b.mantissa % 2 == 0
  match b.exponent - 2 with
  | .ofNat k => ⟨low <<< k, value <<< k, high <<< k, 1, closed⟩
  | .negSucc k => ⟨low, value, high, 1 <<< (k + 1), closed⟩

/-- The same interval measured in units of `10 ^ unit`. -/
def Interval.scale (i : Interval) (unit : Int) : Interval :=
  match unit with
  | .ofNat k => { i with den := i.den * Nat.pow 10 k }
  | .negSucc k =>
    let up := Nat.pow 10 (k + 1)
    { i with low := i.low * up, value := i.value * up, high := i.high * up }

/-- The whole number of units lies in the interval. -/
def Interval.holds (i : Interval) (units : Nat) : Bool :=
  let point := units * i.den
  if i.closed then i.low ≤ point && point ≤ i.high else i.low < point && point < i.high

/-- The neighbour of the value on its grid that reads back, if there is one. -/
def Interval.neighbour? (i : Interval) (tie : Tie) : Option Nat :=
  let below := i.value / i.den
  let above := below + 1
  match i.holds below, i.holds above with
  | false, false => none
  | true, false => some below
  | false, true => some above
  | true, true =>
    let down := i.value - below * i.den
    let up := above * i.den - i.value
    if down < up then some below
    else if up < down then some above
    else match tie with
      | .up => some above
      | .even => some (if below % 2 = 0 then below else above)

/-- Tries grids of `count`, `count + 1`, … digits. -/
def search (i : Interval) (first : Int) (tie : Tie) (count : Nat) : Nat → Decimal
  | 0 => ⟨0, 0⟩
  | fuel + 1 =>
    let unit := first + 1 - count
    match (i.scale unit).neighbour? tie with
    | some units => ⟨trim units (length units), unit + length units - 1⟩
    | none => search i first tie (count + 1) fuel

/-- The shortest decimal of a fraction other than zero; seventeen digits always suffice. -/
def shortest (tie : Tie) (b : BinaryFraction) : Decimal :=
  let i := intervalOf b
  search i (firstExponent i.value i.den) tie 1 17

end Decimal

end Charting
