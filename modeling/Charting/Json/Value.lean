import Charting.Entries

/-!
# JSON values

Objects keep the order of their keys, and a number remembers whether it was written as a whole
number, because rows are shown as they were written.
-/

namespace Charting

/-- A JSON number: a whole number of at most 64 bits as written, or a machine number. -/
inductive Numeral where
  | int (value : Int)
  | float (value : Float)
deriving DecidableEq

inductive Json where
  | null
  | bool (value : Bool)
  | num (value : Numeral)
  | str (value : String)
  | arr (items : List Json)
  | obj (fields : List (String × Json))
deriving Inhabited

/-- One row of data: the fields of a JSON object. -/
abbrev Datum := Entries Json

namespace Numeral

/-- The machine number nearest to the numeral. -/
def toFloat : Numeral → Float
  | .int n => Float.ofInt n
  | .float x => x

end Numeral

namespace Json

def ofFloat (x : Float) : Json := .num (.float x)

def ofNat (n : Nat) : Json := .num (.int n)

def ofOption {α : Type} (f : α → Json) : Option α → Json
  | some a => f a
  | none => .null

/-- An object of the members that have a value. -/
def ofMembers (members : List (String × Option Json)) : Json :=
  .obj (members.filterMap fun (key, value) => value.map (key, ·))

def number? : Json → Option Float
  | .num n => some n.toFloat
  | _ => none

def string? : Json → Option String
  | .str s => some s
  | _ => none

def get? : Json → String → Option Json
  | .obj fields, key => Entries.get? fields key
  | _, _ => none

end Json

def Datum.number? (datum : Datum) (field : String) : Option Float :=
  (Entries.get? datum field).bind Json.number?

end Charting
