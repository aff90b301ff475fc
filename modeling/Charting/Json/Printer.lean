import Charting.Json.Value
import Charting.Number.Text

/-!
# JSON text

The compact form has no blanks. The indented form puts every item on a line of its own, two spaces
per level, and leaves empty arrays and objects closed up. Infinities and NaN are written as null.
-/

namespace Charting.Json

/-- Numbers are positional from `0.00001` up to sixteen digits before the point. -/
def numberLayout : NumberLayout where
  leastPlain := -5
  greatestPlain := 15
  positiveExponent := "+"
  tie := .even
  nan := "null"
  infinity := "null"
  negativeInfinity := "null"

def numeral : Numeral → String
  | .int n => toString n
  | .float x => numberLayout.text x

def hexDigit (n : Nat) : Char := if n < 10 then Char.ofNat (48 + n) else Char.ofNat (87 + n)

/-- A character inside a quoted string: quotes, backslashes and control characters are escaped. -/
def escapeChar (c : Char) : List Char :=
  match c with
  | '"' => ['\\', '"']
  | '\\' => ['\\', '\\']
  | '\x08' => ['\\', 'b']
  | '\x0c' => ['\\', 'f']
  | '\n' => ['\\', 'n']
  | '\r' => ['\\', 'r']
  | '\t' => ['\\', 't']
  | c =>
    if c.toNat < 0x20 then
      ['\\', 'u', '0', '0', hexDigit (c.toNat / 16), hexDigit (c.toNat % 16)]
    else [c]

def quote (s : String) : String :=
  String.ofList ('"' :: s.toList.flatMap escapeChar ++ ['"'])

/-- Items between brackets, with commas between them. -/
def array (items : List String) : String := "[" ++ String.intercalate "," items ++ "]"

/-- Members between braces, with commas between them. -/
def object (members : List (String × String)) : String :=
  "\x7b" ++ String.intercalate "," (members.map fun (k, v) => quote k ++ ":" ++ v) ++ "\x7d"

mutual
def render : Json → String
  | .null => "null"
  | .bool b => if b then "true" else "false"
  | .num n => numeral n
  | .str s => quote s
  | .arr items => array (renderItems items)
  | .obj fields => object (renderFields fields)

def renderItems : List Json → List String
  | [] => []
  | item :: rest => render item :: renderItems rest

def renderFields : List (String × Json) → List (String × String)
  | [] => []
  | (key, value) :: rest => (key, render value) :: renderFields rest
end

/-- A bracketed list of lines at the given level; an empty one stays closed up. -/
def block (opening closing : String) (level : Nat) (lines : List String) : String :=
  if lines.isEmpty then opening ++ closing
  else
    let inner := "\n" ++ "".pushn ' ' (2 * level + 2)
    opening ++ inner ++ String.intercalate ("," ++ inner) lines ++
      "\n" ++ "".pushn ' ' (2 * level) ++ closing

mutual
/-- The indented text of a value that starts at the given level. -/
def renderIndented (level : Nat) : Json → String
  | .arr items => block "[" "]" level (renderItemLines (level + 1) items)
  | .obj fields => block "\x7b" "\x7d" level (renderFieldLines (level + 1) fields)
  | .null => "null"
  | .bool b => if b then "true" else "false"
  | .num n => numeral n
  | .str s => quote s

def renderItemLines (level : Nat) : List Json → List String
  | [] => []
  | item :: rest => renderIndented level item :: renderItemLines level rest

def renderFieldLines (level : Nat) : List (String × Json) → List String
  | [] => []
  | (key, value) :: rest =>
    (quote key ++ ": " ++ renderIndented level value) :: renderFieldLines level rest
end

def renderPretty (value : Json) : String := renderIndented 0 value

/-- How a value is shown to a reader: a string as it is, anything else as its compact text. -/
def display : Json → String
  | .str s => s
  | value => render value

end Charting.Json
