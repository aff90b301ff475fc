import Charting.Entries

/-!
# Option trees

A chart is configured by a tree of scalars, arrays and ordered objects whose leaves may also be
functions of the caller. A function is known by its handle only: what it does is up to the one who
invokes it, and two leaves are the same function when their handles are equal.
-/

namespace Charting

/-- The handle of a function supplied by the caller. -/
structure Callback where
  handle : Nat
deriving DecidableEq, Repr

inductive OptionTree where
  | null
  | bool (value : Bool)
  | num (value : Float)
  | str (value : String)
  | arr (items : List OptionTree)
  | obj (fields : List (String × OptionTree))
  | fn (callback : Callback)
deriving Inhabited

abbrev OptionMap := Entries OptionTree

/-- How a caller's function is invoked in the world `σ`. -/
abbrev Invoke (σ : Type) := Callback → List OptionTree → StateM σ OptionTree

namespace OptionTree

def isNull : OptionTree → Bool
  | .null => true
  | _ => false

def bool? : OptionTree → Option Bool
  | .bool b => some b
  | _ => none

def number? : OptionTree → Option Float
  | .num x => some x
  | _ => none

def string? : OptionTree → Option String
  | .str s => some s
  | _ => none

def array? : OptionTree → Option (List OptionTree)
  | .arr items => some items
  | _ => none

def object? : OptionTree → Option OptionMap
  | .obj fields => some fields
  | _ => none

def callback? : OptionTree → Option Callback
  | .fn f => some f
  | _ => none

/-- The fields of an object; every other kind of value has none. -/
def fields (t : OptionTree) : OptionMap := t.object?.getD []

def get? (t : OptionTree) (key : String) : Option OptionTree := Entries.get? t.fields key

/-- The value itself, unless it is null. -/
def nonNull? (t : OptionTree) : Option OptionTree := if t.isNull then none else some t

/-! ## Agreement

Two trees agree when a reader of the options could not tell them apart: objects whatever the order
of their keys, functions by their handle, and numbers as numbers, so that the two zeros agree and
NaN agrees with nothing.
-/

mutual
def agrees : OptionTree → OptionTree → Bool
  | .null, .null => true
  | .bool a, .bool b => a == b
  | .num x, .num y => x == y
  | .str s, .str t => s == t
  | .arr xs, .arr ys => agreesItems xs ys
  | .obj m, .obj n => m.length == n.length && agreesFields m n
  | .fn f, .fn g => f == g
  | _, _ => false

def agreesItems : List OptionTree → List OptionTree → Bool
  | [], [] => true
  | x :: xs, y :: ys => agrees x y && agreesItems xs ys
  | _, _ => false

/-- Every field of the first object has an agreeing field in the second. -/
def agreesFields : List (String × OptionTree) → OptionMap → Bool
  | [], _ => true
  | (key, value) :: rest, other =>
    (match Entries.get? other key with
      | some found => agrees value found
      | none => false) && agreesFields rest other
end

instance : BEq OptionTree := ⟨agrees⟩

end OptionTree

end Charting
