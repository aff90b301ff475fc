import Charting.Options.Tree

/-!
# Paths into an option tree

A path is a list of keys, written as one string with dots between them. Reading follows the keys
through objects. Writing makes an object of everything on the way that is not one, and leaves the
place of a key that is already there.
-/

namespace Charting

namespace OptionTree

/-- The parts of a text between its dots; there is always at least one. -/
def splitDots : List Char → List (List Char)
  | [] => [[]]
  | c :: rest =>
    if c = '.' then [] :: splitDots rest
    else match splitDots rest with
      | [] => [[c]]
      | part :: parts => (c :: part) :: parts

/-- The keys of a dotted path; empty parts are keys too. -/
def segments (path : String) : List String := (splitDots path.toList).map String.ofList

def find? (t : OptionTree) : List String → Option OptionTree
  | [] => some t
  | key :: rest => (t.get? key).bind fun child => child.find? rest

def pointer? (t : OptionTree) (path : String) : Option OptionTree := t.find? (segments path)

def put (t : OptionTree) : List String → OptionTree → OptionTree
  | [], value => value
  | key :: rest, value =>
    .obj (Entries.update key (fun child => (child.getD (.obj [])).put rest value) t.fields)

def setPath (t : OptionTree) (path : String) (value : OptionTree) : OptionTree :=
  t.put (segments path) value

/-! ## Reading what was written -/

theorem splitDots_ne_nil (text : List Char) : splitDots text ≠ [] := by
  cases text with
  | nil => simp [splitDots]
  | cons c rest => unfold splitDots; split <;> (try split) <;> simp

theorem segments_ne_nil (path : String) : segments path ≠ [] := by
  simp [segments, splitDots_ne_nil]

theorem get?_put_cons (t : OptionTree) (key : String) (rest : List String) (value : OptionTree)
    (other : String) :
    (t.put (key :: rest) value).get? other =
      if key = other then some (((t.get? key).getD (.obj [])).put rest value)
      else t.get? other := by
  simp [put, get?, fields, object?, Entries.get?_update]

/-- The value that was written is found where it was written. -/
theorem find?_put (t : OptionTree) (path : List String) (value : OptionTree) :
    (t.put path value).find? path = some value := by
  induction path generalizing t with
  | nil => simp [put, find?]
  | cons key rest ih => simp [find?, get?_put_cons, ih]

end OptionTree

end Charting
