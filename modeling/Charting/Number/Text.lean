import Charting.Number.Shortest

/-!
# Numbers as text

A layout says where positional notation ends and how the exponent is written; the digits are the
shortest that read back. Percentages are written with two places instead.
-/

namespace Charting

/-- How a number is laid out once its digits are known. -/
structure NumberLayout where
  /-- The least power of ten of the first digit that is written positionally. -/
  leastPlain : Int
  /-- The greatest power of ten of the first digit that is written positionally. -/
  greatestPlain : Int
  /-- What stands before a positive exponent. -/
  positiveExponent : String
  tie : Tie
  nan : String
  infinity : String
  negativeInfinity : String

namespace NumberLayout

/-- Positional notation, always with a fraction. -/
def plain (digits : String) (exponent : Int) : String :=
  let count := digits.length
  match exponent with
  | .ofNat e =>
    if count ≤ e + 1 then digits ++ "".pushn '0' (e + 1 - count) ++ ".0"
    else String.ofList (digits.toList.take (e + 1)) ++ "." ++
      String.ofList (digits.toList.drop (e + 1))
  | .negSucc e => "0." ++ "".pushn '0' e ++ digits

/-- Notation with an exponent; a single digit has no fraction. -/
def scientific (layout : NumberLayout) (digits : String) (exponent : Int) : String :=
  let mantissa := match digits.toList with
    | first :: second :: rest => String.ofList (first :: '.' :: second :: rest)
    | short => String.ofList short
  let power := match exponent with
    | .ofNat e => layout.positiveExponent ++ toString e
    | .negSucc e => "-" ++ toString (e + 1)
  mantissa ++ "e" ++ power

def decimal (layout : NumberLayout) (d : Decimal) : String :=
  let digits := toString d.digits
  if layout.leastPlain ≤ d.exponent && d.exponent ≤ layout.greatestPlain then
    plain digits d.exponent
  else layout.scientific digits d.exponent

def text (layout : NumberLayout) (x : Float) : String :=
  match BinaryFraction.ofFloat? x with
  | none =>
    if x.isNaN then layout.nan
    else if 0 < x then layout.infinity
    else layout.negativeInfinity
  | some b =>
    let sign := if b.negative then "-" else ""
    if b.mantissa = 0 then sign ++ "0.0"
    else sign ++ layout.decimal (Decimal.shortest layout.tie b)

end NumberLayout

/--
A number with two places, rounded from its exact value with halves going to the even neighbour. The
sign stays even when only zeros are left.
-/
def twoPlaces (x : Float) : String :=
  match BinaryFraction.ofFloat? x with
  | none => if x.isNaN then "NaN" else if 0 < x then "inf" else "-inf"
  | some b =>
    let (num, den) := b.magnitude
    let hundredths := roundDivEven (num * 100) den
    let places := hundredths % 100
    (if b.negative then "-" else "") ++ toString (hundredths / 100) ++ "." ++
      (if places < 10 then "0" else "") ++ toString places

end Charting
