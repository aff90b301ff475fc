import Charting.Json.Printer
import Charting.Options.Tree

/-!
# Option trees and JSON

Every JSON value is an option tree, with machine numbers for its numbers. On the way back a
function and a number that is not finite have no JSON form and become null. The text of a tree can
also be written directly.
-/

namespace Charting

namespace OptionTree

mutual
def ofJson : Json → OptionTree
  | .null => .null
  | .bool b => .bool b
  | .num n => .num n.toFloat
  | .str s => .str s
  | .arr items => .arr (ofJsonItems items)
  | .obj fields => .obj (ofJsonFields fields)

def ofJsonItems : List Json → List OptionTree
  | [] => []
  | item :: rest => ofJson item :: ofJsonItems rest

def ofJsonFields : List (String × Json) → OptionMap
  | [] => []
  | (key, value) :: rest => (key, ofJson value) :: ofJsonFields rest
end

theorem keys_ofJsonFields (fields : List (String × Json)) :
    Entries.keys (ofJsonFields fields) = Entries.keys fields := by
  induction fields with
  | nil => rfl
  | cons field rest ih => exact congrArg (field.1 :: ·) ih

theorem get?_ofJsonFields (fields : List (String × Json)) (key : String) :
    Entries.get? (ofJsonFields fields) key = (Entries.get? fields key).map ofJson := by
  induction fields with
  | nil => rfl
  | cons field rest ih =>
      obtain ⟨k, v⟩ := field
      by_cases hk : k = key <;> simp [ofJsonFields, Entries.get?, hk, ih]

mutual
def toJson : OptionTree → Json
  | .null => .null
  | .bool b => .bool b
  | .num x => if x.isFinite then .ofFloat x else .null
  | .str s => .str s
  | .arr items => .arr (toJsonItems items)
  | .obj fields => .obj (toJsonFields fields)
  | .fn _ => .null

def toJsonItems : List OptionTree → List Json
  | [] => []
  | item :: rest => toJson item :: toJsonItems rest

def toJsonFields : List (String × OptionTree) → List (String × Json)
  | [] => []
  | (key, value) :: rest => (key, toJson value) :: toJsonFields rest
end

mutual
/-- The compact JSON text of a tree. -/
def write : OptionTree → String
  | .null => "null"
  | .bool b => if b then "true" else "false"
  | .num x => Json.numberLayout.text x
  | .str s => Json.quote s
  | .arr items => Json.array (writeItems items)
  | .obj fields => Json.object (writeFields fields)
  | .fn _ => "null"

def writeItems : List OptionTree → List String
  | [] => []
  | item :: rest => write item :: writeItems rest

def writeFields : List (String × OptionTree) → List (String × String)
  | [] => []
  | (key, value) :: rest => (key, write value) :: writeFields rest
end

def ofDatum (datum : Datum) : OptionTree := ofJson (.obj datum)

end OptionTree

def OptionMap.toJson (fields : OptionMap) : Json := (OptionTree.obj fields).toJson

end Charting
