import Charting.Json.Reader
import Charting.Proofs.Entries

/-!
# The members of an object as written

A text may give a key of an object more than once. The members are all that it gives, in its order;
the fields of the object are what they leave.
-/

namespace Charting.Json

/-- Reads a key and its value. -/
def readMember (fuel depth : Nat) (text : List Char) : Option ((String × Json) × List Char) :=
  match skipBlanks text with
  | '"' :: rest =>
    match readString [] rest with
    | none => none
    | some (key, rest) =>
      match skipBlanks rest with
      | ':' :: rest => (readValue fuel depth rest).map fun (value, rest) => ((key, value), rest)
      | _ => none
  | _ => none

/-- Reads the members of an object up to its closing brace. -/
def readMembers (fuel depth : Nat) (text : List Char) :
    Option (List (String × Json) × List Char) :=
  match fuel with
  | 0 => none
  | fuel + 1 =>
    match readMember fuel depth text with
    | none => none
    | some (member, rest) =>
      match skipBlanks rest with
      | ',' :: rest =>
        (readMembers fuel depth rest).map fun (members, rest) => (member :: members, rest)
      | '}' :: rest => some ([member], rest)
      | _ => none

/-- The members of the object that a text is. -/
def members? (text : String) : Option (List (String × Json)) :=
  match skipBlanks text.toList with
  | '{' :: rest =>
    match skipBlanks rest with
    | '}' :: _ => some []
    | rest => (readMembers (2 * text.toList.length + 1) (maxDepth - 1) rest).map Prod.fst
  | _ => none

/-- The fields that members leave: a key keeps its first place and takes its last value. -/
def collect (fields : Entries Json) (members : List (String × Json)) : Entries Json :=
  members.foldl (fun fields (key, value) => Entries.insert key value fields) fields

theorem readFields_succ (fuel depth : Nat) (fields : Entries Json) (text : List Char) :
    readFields (fuel + 1) depth fields text =
      match readMember fuel depth text with
      | none => none
      | some ((key, value), rest) =>
        match skipBlanks rest with
        | ',' :: rest => readFields fuel depth (Entries.insert key value fields) rest
        | '}' :: rest => some (Entries.insert key value fields, rest)
        | _ => none := by
  rw [readFields, readMember]
  rcases skipBlanks text with _ | ⟨c, rest⟩
  · rfl
  · by_cases quote : c = '"'
    · subst quote
      cases keyed : readString [] rest with
      | none => simp only [keyed]
      | some read =>
          obtain ⟨key, rest⟩ := read
          simp only [keyed]
          rcases skipBlanks rest with _ | ⟨c, rest⟩
          · rfl
          · by_cases colon : c = ':'
            · subst colon
              simp only
              cases readValue fuel depth rest <;> rfl
            · simp [colon]
    · simp [quote]

/-- The fields are read member by member, each of them added to those before. -/
theorem readFields_eq (fuel depth : Nat) (fields : Entries Json) (text : List Char) :
    readFields fuel depth fields text =
      (readMembers fuel depth text).map fun (members, rest) => (collect fields members, rest) := by
  induction fuel generalizing fields text with
  | zero => rfl
  | succ fuel ih =>
      rw [readFields_succ, readMembers]
      cases readMember fuel depth text with
      | none => rfl
      | some read =>
          obtain ⟨⟨key, value⟩, rest⟩ := read
          simp only
          split
          · rw [ih, Option.map_map]
            rfl
          · rfl
          · rfl

theorem readNumber_ne_obj {text rest : List Char} {fields : Entries Json} :
    readNumber text ≠ some (.obj fields, rest) := by
  simp [readNumber, Option.bind_eq_some_iff]

/-- An object opens with a brace. Behind it the object ends, or the members follow. -/
theorem readValue_obj {fuel depth : Nat} {text rest : List Char} {fields : Entries Json}
    (h : readValue (fuel + 1) (depth + 1) text = some (.obj fields, rest)) :
    ∃ inner, skipBlanks text = '{' :: inner ∧
      ((∃ tail, skipBlanks inner = '}' :: tail) ∧ fields = [] ∨
        (∀ tail, skipBlanks inner ≠ '}' :: tail) ∧
          readFields fuel depth [] (skipBlanks inner) = some (fields, rest)) := by
  rw [readValue] at h
  split at h
  case h_6 inner opened =>
    refine ⟨inner, opened, ?_⟩
    split at h
    · cases h
    · rename_i tail nested closed
      cases h
      exact .inl ⟨⟨_, closed⟩, rfl⟩
    · rename_i nested more
      cases nested
      obtain ⟨read, found, same⟩ := Option.map_eq_some_iff.mp h
      cases same
      exact .inr ⟨more, found⟩
  case h_7 => exact absurd h readNumber_ne_obj
  case h_5 => split at h <;> simp at h
  all_goals simp at h

/-- A text that is an object has members, which leave its fields. -/
theorem members_of_read {text : String} {fields : Entries Json}
    (h : read? text = some (.obj fields)) :
    ∃ members, members? text = some members ∧ fields = collect [] members := by
  rw [read?, readChars?] at h
  split at h
  · rename_i value rest read
    split at h
    · cases h
      obtain ⟨inner, opened, ⟨⟨tail, closed⟩, rfl⟩ | ⟨more, read⟩⟩ := readValue_obj read
      · exact ⟨[], by simp only [members?, opened, closed], rfl⟩
      · rw [readFields_eq, Option.map_eq_some_iff] at read
        obtain ⟨⟨members, rest⟩, found, same⟩ := read
        cases same
        exact ⟨members, by simp [members?, opened, maxDepth, found], rfl⟩
    · cases h
  · cases h

/-- The keys of an object stand in the order in which the text gives them first. -/
theorem keys_of_members (members : List (String × Json)) :
    Entries.keys (collect [] members) = (members.map Prod.fst).eraseDups :=
  Entries.keys_updates_nil Prod.fst (fun member _ => member.2) members

/-! ## Parsers -/

/--
A way to parse texts. The keys of an object stand in the order in which the text gives them first.
How the numbers are rounded is left open.
-/
structure Parser where
  parse : String → Option Json
  /-- The keys of the object that a text is, as often as it gives them. -/
  names : String → Option (List String)
  keys_of_parse : ∀ {text fields}, parse text = some (.obj fields) →
    ∃ given, names text = some given ∧ Entries.keys fields = given.eraseDups

theorem Parser.wellKeyed (p : Parser) {text : String} {fields : Entries Json}
    (parsed : p.parse text = some (.obj fields)) : Entries.WellKeyed fields := by
  obtain ⟨given, -, keys⟩ := p.keys_of_parse parsed
  rw [Entries.WellKeyed, keys]
  exact Entries.nodup_eraseDups given

/-- The parser that rounds to the nearest number. -/
def reader : Parser where
  parse := read?
  names text := (members? text).map (·.map Prod.fst)
  keys_of_parse parsed := by
    obtain ⟨members, found, rfl⟩ := members_of_read parsed
    exact ⟨members.map Prod.fst, by rw [found, Option.map_some], keys_of_members members⟩

@[simp]
theorem parse_reader : reader.parse = read? := rfl

@[simp]
theorem names_reader (text : String) :
    reader.names text = (members? text).map (·.map Prod.fst) := rfl

end Charting.Json
