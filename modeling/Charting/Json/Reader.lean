import Charting.Json.Value
import Charting.Number.BinaryFraction

/-!
# Reading JSON text

The whole text must be one value. Arrays and objects nest at most 127 deep; a key that occurs again
keeps its first place and takes the last value. A whole number of at most 64 bits keeps its kind,
any other number becomes the nearest machine number, and one too large for that is refused.
-/

namespace Charting.Json

/-- How deep arrays and objects may nest. -/
def maxDepth : Nat := 127

def isBlank (c : Char) : Bool := c == ' ' || c == '\t' || c == '\n' || c == '\r'

def skipBlanks (text : List Char) : List Char := text.dropWhile isBlank

/-! ## Strings -/

def hexValue? (c : Char) : Option Nat :=
  if '0' ≤ c && c ≤ '9' then some (c.toNat - 48)
  else if 'a' ≤ c && c ≤ 'f' then some (c.toNat - 87)
  else if 'A' ≤ c && c ≤ 'F' then some (c.toNat - 55)
  else none

def codeUnit? (a b c d : Char) : Option Nat := do
  return (← hexValue? a) * 4096 + (← hexValue? b) * 256 + (← hexValue? c) * 16 + (← hexValue? d)

def isHighSurrogate (unit : Nat) : Bool := 0xD800 ≤ unit && unit < 0xDC00

def isLowSurrogate (unit : Nat) : Bool := 0xDC00 ≤ unit && unit < 0xE000

/-- The character that a backslash and a letter stand for. -/
def shortEscape? : Char → Option Char
  | '"' => some '"'
  | '\\' => some '\\'
  | '/' => some '/'
  | 'b' => some '\x08'
  | 'f' => some '\x0c'
  | 'n' => some '\n'
  | 'r' => some '\r'
  | 't' => some '\t'
  | _ => none

/--
Reads the rest of a string after its opening quote; `read` holds the characters so far, last first.
Escaped code units outside the basic plane come in pairs, and a half alone is refused.
-/
def readString (read : List Char) : List Char → Option (String × List Char)
  | '"' :: rest => some (String.ofList read.reverse, rest)
  | '\\' :: 'u' :: a :: b :: c :: d :: rest =>
    match codeUnit? a b c d with
    | none => none
    | some unit =>
      if isHighSurrogate unit then
        match rest with
        | '\\' :: 'u' :: e :: f :: g :: h :: tail =>
          match codeUnit? e f g h with
          | some low =>
            if isLowSurrogate low then
              let code := 0x10000 + (unit - 0xD800) * 0x400 + (low - 0xDC00)
              readString (Char.ofNat code :: read) tail
            else none
          | none => none
        | _ => none
      else if isLowSurrogate unit then none
      else readString (Char.ofNat unit :: read) rest
  | '\\' :: c :: rest =>
    match shortEscape? c with
    | some e => readString (e :: read) rest
    | none => none
  | c :: rest => if c == '\\' || c.toNat < 0x20 then none else readString (c :: read) rest
  | [] => none

/-! ## Numbers -/

def digitsValue (digits : List Char) : Nat :=
  digits.foldl (fun n c => n * 10 + (c.toNat - 48)) 0

/-- The digits at the start of the text, of which there must be one. -/
def readDigits (text : List Char) : Option (List Char × List Char) :=
  match text.takeWhile Char.isDigit with
  | [] => none
  | digits => some (digits, text.dropWhile Char.isDigit)

/-- Digits without a leading zero, or a single zero. -/
def readWhole : List Char → Option (List Char × List Char)
  | '0' :: rest => some (['0'], rest)
  | text => readDigits text

/-- A point and the digits after it, if there is a point. -/
def readFraction : List Char → Option (List Char × List Char)
  | '.' :: rest => readDigits rest
  | text => some ([], text)

/-- The power of ten after an `e`, if there is one. -/
def readExponent : List Char → Option (Option Int × List Char)
  | e :: rest =>
    if e == 'e' || e == 'E' then
      match rest with
      | '+' :: tail => (readDigits tail).map fun (ds, r) => (some (digitsValue ds : Int), r)
      | '-' :: tail => (readDigits tail).map fun (ds, r) => (some (-(digitsValue ds : Int)), r)
      | tail => (readDigits tail).map fun (ds, r) => (some (digitsValue ds : Int), r)
    else some (none, e :: rest)
  | [] => some (none, [])

/--
The machine number nearest to `mantissa * 10 ^ exponent`, or none if it is too large. `digits`
bounds the length of the mantissa, so that a far exponent is settled without computing its power.

The number is rounded once. A reader that makes a machine number of the mantissa and then scales it
by a power of ten rounds twice, and may end up at a neighbour: it takes the text
`31.245270191439438` for the number `31.24527019143944`.
-/
def decimal? (mantissa digits : Nat) (exponent : Int) : Option Float :=
  if mantissa = 0 || exponent + digits < -400 then some 0
  else if 400 < exponent then none
  else
    let x := Float.ofScientific mantissa (exponent < 0) exponent.natAbs
    if x.isFinite then some x else none

/-- A whole number keeps its kind when it fits; zero with a sign does not. -/
def wholeNumeral? (negative : Bool) (n : Nat) : Option Numeral :=
  if negative then (if 0 < n && n ≤ 1 <<< 63 then some (.int (-n)) else none)
  else if n < UInt64.size then some (.int n) else none

/-- The numeral for a sign, digits before and after the point, and a power of ten. -/
def numeral? (negative : Bool) (whole fraction : List Char) (exponent : Option Int) :
    Option Numeral :=
  let digits := whole ++ fraction
  let nearest : Option Numeral :=
    (decimal? (digitsValue digits) digits.length (exponent.getD 0 - fraction.length)).map
      fun x => .float (if negative then -x else x)
  if fraction.isEmpty && exponent.isNone then
    (wholeNumeral? negative (digitsValue whole)).or nearest
  else nearest

def readNumber (text : List Char) : Option (Json × List Char) := do
  let (negative, text) := match text with
    | '-' :: rest => (true, rest)
    | text => (false, text)
  let (whole, text) ← readWhole text
  let (fraction, text) ← readFraction text
  let (exponent, text) ← readExponent text
  let n ← numeral? negative whole fraction exponent
  return (.num n, text)

/-! ## Values -/

mutual
/-- Reads one value. `fuel` bounds the calls and `depth` the arrays and objects still allowed. -/
def readValue (fuel depth : Nat) (text : List Char) : Option (Json × List Char) :=
  match fuel with
  | 0 => none
  | fuel + 1 =>
    match skipBlanks text with
    | 'n' :: 'u' :: 'l' :: 'l' :: rest => some (.null, rest)
    | 't' :: 'r' :: 'u' :: 'e' :: rest => some (.bool true, rest)
    | 'f' :: 'a' :: 'l' :: 's' :: 'e' :: rest => some (.bool false, rest)
    | '"' :: rest => (readString [] rest).map fun (s, rest) => (.str s, rest)
    | '[' :: rest =>
      match depth, skipBlanks rest with
      | 0, _ => none
      | _ + 1, ']' :: rest => some (.arr [], rest)
      | depth + 1, rest => (readItems fuel depth rest).map fun (xs, rest) => (.arr xs, rest)
    | '{' :: rest =>
      match depth, skipBlanks rest with
      | 0, _ => none
      | _ + 1, '}' :: rest => some (.obj [], rest)
      | depth + 1, rest => (readFields fuel depth [] rest).map fun (m, rest) => (.obj m, rest)
    | text => readNumber text

def readItems (fuel depth : Nat) (text : List Char) : Option (List Json × List Char) :=
  match fuel with
  | 0 => none
  | fuel + 1 =>
    match readValue fuel depth text with
    | none => none
    | some (item, rest) =>
      match skipBlanks rest with
      | ',' :: rest => (readItems fuel depth rest).map fun (xs, rest) => (item :: xs, rest)
      | ']' :: rest => some ([item], rest)
      | _ => none

/-- Reads the members of an object up to its closing brace, adding them to `fields`. -/
def readFields (fuel depth : Nat) (fields : List (String × Json)) (text : List Char) :
    Option (List (String × Json) × List Char) :=
  match fuel with
  | 0 => none
  | fuel + 1 =>
    match skipBlanks text with
    | '"' :: rest =>
      match readString [] rest with
      | none => none
      | some (key, rest) =>
        match skipBlanks rest with
        | ':' :: rest =>
          match readValue fuel depth rest with
          | none => none
          | some (value, rest) =>
            match skipBlanks rest with
            | ',' :: rest => readFields fuel depth (Entries.insert key value fields) rest
            | '}' :: rest => some (Entries.insert key value fields, rest)
            | _ => none
        | _ => none
    | _ => none
end

/-- Reads a text that is one value. Every second call at least takes a character. -/
def readChars? (text : List Char) : Option Json :=
  match readValue (2 * text.length + 2) maxDepth text with
  | some (value, rest) => if (skipBlanks rest).isEmpty then some value else none
  | none => none

/-- Reads a text that is one value. -/
def read? (text : String) : Option Json := readChars? text.toList

end Charting.Json
