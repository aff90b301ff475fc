import Charting.Options.Exchange
import Charting.Proofs.Json.Numerals

/-!
# Trees written as JSON and read back

A tree can be written directly or through its JSON value. Both are the same walk over the tree, for
any way in which values are put into a text, as long as numbers that are not finite are written as
null. On the way back only functions and those numbers are lost.
-/

namespace Charting

open OptionTree

namespace Json

/-- How the values of JSON are put into a text. -/
structure Printer (α : Type) where
  null : α
  bool : Bool → α
  int : Int → α
  float : Float → α
  string : String → α
  array : List α → α
  object : List (String × α) → α

namespace Printer

def compact : Printer String where
  null := "null"
  bool b := if b then "true" else "false"
  int n := toString n
  float x := numberLayout.text x
  string s := quote s
  array := Json.array
  object := Json.object

/-- The text of a value that starts at a given level. -/
def indented : Printer (Nat → String) where
  null _ := "null"
  bool b _ := if b then "true" else "false"
  int n _ := toString n
  float x _ := numberLayout.text x
  string s _ := quote s
  array items level := block "[" "]" level (items.map fun item => item (level + 1))
  object members level :=
    block "\x7b" "\x7d" level (members.map fun (k, v) => quote k ++ ": " ++ v (level + 1))

/-- Numbers that are not finite are written as null. -/
def Nulls {α : Type} (p : Printer α) : Prop := ∀ x : Float, x.isFinite = false → p.float x = p.null

theorem text_of_not_finite {x : Float} (h : x.isFinite = false) : numberLayout.text x = "null" := by
  have none : BinaryFraction.ofFloat? x = none := by
    rw [← Option.isNone_iff_eq_none, ← Option.isSome_eq_false_iff, BinaryFraction.isSome_ofFloat?, h]
  unfold NumberLayout.text
  rw [none]
  simp only [numberLayout, ite_self]

theorem nulls_compact : compact.Nulls := fun _ => text_of_not_finite

theorem nulls_indented : indented.Nulls := fun _ h => funext fun _ => text_of_not_finite h

end Printer

variable {α : Type}

mutual
def print (p : Printer α) : Json → α
  | .null => p.null
  | .bool b => p.bool b
  | .num (.int n) => p.int n
  | .num (.float x) => p.float x
  | .str s => p.string s
  | .arr items => p.array (printItems p items)
  | .obj fields => p.object (printFields p fields)

def printItems (p : Printer α) : List Json → List α
  | [] => []
  | item :: rest => item.print p :: printItems p rest

def printFields (p : Printer α) : List (String × Json) → List (String × α)
  | [] => []
  | (key, value) :: rest => (key, value.print p) :: printFields p rest
end

mutual
theorem print_compact : (v : Json) → v.print .compact = v.render
  | .null | .bool _ | .num (.int _) | .num (.float _) | .str _ => rfl
  | .arr items => congrArg array (printItems_compact items)
  | .obj fields => congrArg object (printFields_compact fields)

theorem printItems_compact : (items : List Json) → printItems .compact items = renderItems items
  | [] => rfl
  | item :: rest => congrArg₂ List.cons item.print_compact (printItems_compact rest)

theorem printFields_compact : (fields : List (String × Json)) →
    printFields .compact fields = renderFields fields
  | [] => rfl
  | (key, value) :: rest =>
      congrArg₂ (fun v fields => (key, v) :: fields) value.print_compact (printFields_compact rest)
end

mutual
theorem print_indented (level : Nat) : (v : Json) → v.print .indented level = v.renderIndented level
  | .null | .bool _ | .num (.int _) | .num (.float _) | .str _ => rfl
  | .arr items => congrArg (block "[" "]" level) (printItems_indented (level + 1) items)
  | .obj fields =>
      congrArg (block "\x7b" "\x7d" level) (printFields_indented (level + 1) fields)

theorem printItems_indented (level : Nat) : (items : List Json) →
    (printItems .indented items).map (fun item => item level) = renderItemLines level items
  | [] => rfl
  | item :: rest => congrArg₂ List.cons (item.print_indented level) (printItems_indented level rest)

theorem printFields_indented (level : Nat) : (fields : List (String × Json)) →
    (printFields .indented fields).map (fun (k, v) => quote k ++ ": " ++ v level) =
      renderFieldLines level fields
  | [] => rfl
  | (key, value) :: rest =>
      congrArg₂ (fun v lines => (quote key ++ ": " ++ v) :: lines) (value.print_indented level)
        (printFields_indented level rest)
end

end Json

namespace OptionTree

open Json (Printer)

variable {α : Type}

/-! ## Writing a tree -/

mutual
/-- Puts a tree into a text without a JSON value in between. -/
def print (p : Printer α) : OptionTree → α
  | .null => p.null
  | .bool b => p.bool b
  | .num x => p.float x
  | .str s => p.string s
  | .arr items => p.array (printItems p items)
  | .obj fields => p.object (printFields p fields)
  | .fn _ => p.null

def printItems (p : Printer α) : List OptionTree → List α
  | [] => []
  | item :: rest => item.print p :: printItems p rest

def printFields (p : Printer α) : List (String × OptionTree) → List (String × α)
  | [] => []
  | (key, value) :: rest => (key, value.print p) :: printFields p rest
end

mutual
theorem print_compact : (t : OptionTree) → t.print .compact = t.write
  | .null | .bool _ | .num _ | .str _ | .fn _ => rfl
  | .arr items => congrArg Json.array (printItems_compact items)
  | .obj fields => congrArg Json.object (printFields_compact fields)

theorem printItems_compact : (items : List OptionTree) →
    printItems .compact items = writeItems items
  | [] => rfl
  | item :: rest => congrArg₂ List.cons item.print_compact (printItems_compact rest)

theorem printFields_compact : (fields : List (String × OptionTree)) →
    printFields .compact fields = writeFields fields
  | [] => rfl
  | (key, value) :: rest =>
      congrArg₂ (fun v fields => (key, v) :: fields) value.print_compact (printFields_compact rest)
end

mutual
theorem print_toJson {p : Printer α} (nulls : p.Nulls) : (t : OptionTree) →
    t.toJson.print p = t.print p
  | .null | .bool _ | .str _ | .fn _ => rfl
  | .num x => by
      cases finite : x.isFinite with
      | true => simp [toJson, finite, Json.ofFloat, Json.print, print]
      | false => simp [toJson, finite, Json.print, print, nulls x finite]
  | .arr items => congrArg p.array (printItems_toJson nulls items)
  | .obj fields => congrArg p.object (printFields_toJson nulls fields)

theorem printItems_toJson {p : Printer α} (nulls : p.Nulls) : (items : List OptionTree) →
    Json.printItems p (toJsonItems items) = printItems p items
  | [] => rfl
  | item :: rest => congrArg₂ List.cons (item.print_toJson nulls) (printItems_toJson nulls rest)

theorem printFields_toJson {p : Printer α} (nulls : p.Nulls) :
    (fields : List (String × OptionTree)) →
    Json.printFields p (toJsonFields fields) = printFields p fields
  | [] => rfl
  | (key, value) :: rest =>
      congrArg₂ (fun v fields => (key, v) :: fields) (value.print_toJson nulls)
        (printFields_toJson nulls rest)
end

/-! ## Reading a tree back -/

mutual
/-- Changes the leaves of a tree and nothing else. -/
def mapLeaves (f : OptionTree → OptionTree) : OptionTree → OptionTree
  | .arr items => .arr (mapItems f items)
  | .obj fields => .obj (mapFields f fields)
  | leaf => f leaf

def mapItems (f : OptionTree → OptionTree) : List OptionTree → List OptionTree
  | [] => []
  | item :: rest => item.mapLeaves f :: mapItems f rest

def mapFields (f : OptionTree → OptionTree) :
    List (String × OptionTree) → List (String × OptionTree)
  | [] => []
  | (key, value) :: rest => (key, value.mapLeaves f) :: mapFields f rest
end

/-- Functions and numbers that are not finite become null. -/
def leafInJson : OptionTree → OptionTree
  | .fn _ => .null
  | .num x => if x.isFinite then .num x else .null
  | leaf => leaf

mutual
theorem ofJson_toJson : (t : OptionTree) → ofJson t.toJson = t.mapLeaves leafInJson
  | .null | .bool _ | .str _ | .fn _ => rfl
  | .num x => by
      cases finite : x.isFinite <;>
        simp [toJson, mapLeaves, leafInJson, finite, Json.ofFloat, ofJson, Numeral.toFloat]
  | .arr items => congrArg OptionTree.arr (ofJsonItems_toJson items)
  | .obj fields => congrArg OptionTree.obj (ofJsonFields_toJson fields)

theorem ofJsonItems_toJson : (items : List OptionTree) →
    ofJsonItems (toJsonItems items) = mapItems leafInJson items
  | [] => rfl
  | item :: rest => congrArg₂ List.cons item.ofJson_toJson (ofJsonItems_toJson rest)

theorem ofJsonFields_toJson : (fields : List (String × OptionTree)) →
    ofJsonFields (toJsonFields fields) = mapFields leafInJson fields
  | [] => rfl
  | (key, value) :: rest =>
      congrArg₂ (fun v fields => (key, v) :: fields) value.ofJson_toJson (ofJsonFields_toJson rest)
end

mutual
theorem mapLeaves_ofJson : (v : Json) → v.Fits → (ofJson v).mapLeaves leafInJson = ofJson v
  | .null, _ | .bool _, _ | .str _, _ => rfl
  | .num _, fits => if_pos (Numeral.Fits.isFinite fits)
  | .arr items, fits => congrArg OptionTree.arr (mapItems_ofJson items fits)
  | .obj fields, fits => congrArg OptionTree.obj (mapFields_ofJson fields fits)

theorem mapItems_ofJson : (items : List Json) → Json.FitsItems items →
    mapItems leafInJson (ofJsonItems items) = ofJsonItems items
  | [], _ => rfl
  | item :: rest, ⟨first, others⟩ =>
      congrArg₂ List.cons (mapLeaves_ofJson item first) (mapItems_ofJson rest others)

theorem mapFields_ofJson : (fields : List (String × Json)) → Json.FitsFields fields →
    mapFields leafInJson (ofJsonFields fields) = ofJsonFields fields
  | [], _ => rfl
  | (key, value) :: rest, ⟨first, others⟩ =>
      congrArg₂ (fun v fields => (key, v) :: fields) (mapLeaves_ofJson value first)
        (mapFields_ofJson rest others)
end

/-! ## Reading what was exported -/

theorem get?_toJsonFields (fields : OptionMap) (key : String) :
    Entries.get? (toJsonFields fields) key = (Entries.get? fields key).map toJson := by
  induction fields with
  | nil => rfl
  | cons field rest ih =>
      obtain ⟨k, v⟩ := field
      by_cases hk : k = key <;> simp [toJsonFields, Entries.get?, hk, ih]

theorem get?_toJson (t : OptionTree) (key : String) :
    t.toJson.get? key = (t.get? key).map toJson := by
  cases t with
  | obj fields => exact get?_toJsonFields fields key
  | num x =>
      rw [toJson]
      split <;> rfl
  | _ => rfl

/-! ## The two ways and back -/

theorem exchange_json (t : OptionTree) :
    (∀ {α : Type} (p : Printer α), p.Nulls → t.print p = t.toJson.print p) ∧
      t.write = t.toJson.render ∧
      (∀ level, t.print .indented level = t.toJson.renderIndented level) ∧
      ofJson t.toJson = t.mapLeaves leafInJson ∧
      ∀ v : Json, v.Fits → ofJson (ofJson v).toJson = ofJson v := by
  refine ⟨fun p nulls => (t.print_toJson nulls).symm, ?_, fun level => ?_, t.ofJson_toJson,
    fun v fits => ?_⟩
  · rw [← print_compact, ← Json.print_compact, print_toJson Printer.nulls_compact]
  · rw [← Json.print_indented, print_toJson Printer.nulls_indented]
  · rw [ofJson_toJson, mapLeaves_ofJson v fits]

/-- No machine number is this whole number. -/
def longWhole : String := "[9007199254740993]"

theorem exchange_json_longWhole :
    ∃ v, Json.read? longWhole = some v ∧ v.Fits ∧
      (ofJson v).toJson.render = "[9007199254740992.0]" ∧ ofJson (ofJson v).toJson = ofJson v := by
  have written : (Json.read? longWhole).map (fun v => (ofJson v).toJson.render) =
      some "[9007199254740992.0]" := by decide +kernel
  obtain ⟨v, read, text⟩ := Option.map_eq_some_iff.mp written
  have fits := Json.fits_of_read read
  obtain ⟨-, -, -, -, again⟩ := exchange_json .null
  exact ⟨v, read, fits, text, again v fits⟩

end OptionTree
end Charting
