import Charting.Proofs.Description.Reading
import Mathlib.Data.List.Basic

/-!
# The order of options

Rows and size are lifted out of a description by moving its last key into their place. The keys in
front of the first of them stay where they are. Of those behind it one alone keeps its place in the
order, but when more options stand there than keys were lifted out, the order is lost.
-/

namespace Charting.Description

/-- Removes a name by moving the last one into its place. -/
def vacate : List String → String → List String
  | [], _ => []
  | name :: rest, key =>
    if name = key then
      match rest.getLast? with
      | some last => last :: rest.dropLast
      | none => []
    else name :: vacate rest key

def isOption (name : String) : Bool := decide (name ∉ reserved)

variable {names : List String} {fields : Entries Json}

theorem keys_swapErase (key : String) (fields : Entries Json) :
    Entries.keys (Entries.swapErase key fields) = vacate (Entries.keys fields) key := by
  induction fields with
  | nil => rfl
  | cons field rest ih =>
      obtain ⟨k, v⟩ := field
      by_cases hk : k = key
      · rcases List.eq_nil_or_concat rest with rfl | ⟨front, last, rfl⟩
        · simp [Entries.swapErase, Entries.keys, vacate, hk]
        · simp [Entries.swapErase, Entries.keys, vacate, hk]
      · simp only [Entries.keys] at ih
        simp [Entries.swapErase, Entries.keys, vacate, hk, ih]

theorem keys_lifted (gone : List String) (fields : Entries Json) :
    Entries.keys (lifted gone fields) = gone.foldl vacate (Entries.keys fields) := by
  induction gone generalizing fields with
  | nil => rfl
  | cons first rest ih =>
      rw [List.foldl_cons, ← keys_swapErase]
      exact ih _

/-- Nothing is lost but the keys that are lifted out. -/
theorem keys_lifted_perm (keyed : Entries.WellKeyed fields) (gone : List String) :
    (Entries.keys (lifted gone fields)).Perm ((Entries.keys fields).filter (· ∉ gone)) := by
  induction gone generalizing fields with
  | nil => simp [lifted]
  | cons first rest ih =>
      have once : (Entries.keys (Entries.swapErase first fields)).Perm
          ((Entries.keys fields).filter (· != first)) := by
        rw [← List.Nodup.erase_eq_filter keyed, ← Entries.keys_erase]
        exact (Entries.swapErase_perm first fields).map Prod.fst
      refine (ih (keyed.swapErase first)).trans ((once.filter _).trans ?_)
      rw [List.filter_filter]
      refine .of_eq (List.filter_congr fun key _ => ?_)
      simp [bne, Bool.and_comm, Bool.beq_eq_decide_eq]

/-! ## Places -/

theorem vacate_append {front : List String} {key : String} (absent : key ∉ front)
    (rest : List String) : vacate (front ++ rest) key = front ++ vacate rest key := by
  induction front with
  | nil => rfl
  | cons first front ih =>
      obtain ⟨other, absent⟩ := List.ne_and_not_mem_of_not_mem_cons absent
      rw [List.cons_append, vacate, if_neg (Ne.symm other), ih absent, List.cons_append]

theorem foldl_vacate_append {front gone : List String} (absent : ∀ key ∈ gone, key ∉ front)
    (rest : List String) :
    gone.foldl vacate (front ++ rest) = front ++ gone.foldl vacate rest := by
  induction gone generalizing rest with
  | nil => rfl
  | cons first gone ih =>
      obtain ⟨here, below⟩ := List.forall_mem_cons.mp absent
      rw [List.foldl_cons, vacate_append here, ih below, List.foldl_cons]

theorem length_vacate_le (names : List String) (key : String) :
    (vacate names key).length ≤ names.length := by
  induction names with
  | nil => exact Nat.le_refl _
  | cons first rest ih =>
      rw [vacate]
      split
      · rcases List.eq_nil_or_concat rest with rfl | ⟨front, last, rfl⟩ <;> simp
      · exact Nat.succ_le_succ ih

theorem length_foldl_vacate_le (gone names : List String) :
    (gone.foldl vacate names).length ≤ names.length := by
  induction gone generalizing names with
  | nil => exact Nat.le_refl _
  | cons first gone ih => exact Nat.le_trans (ih _) (length_vacate_le names first)

/-- A name has not moved, or it comes from a place that is no more. -/
theorem getElem?_vacate {key name : String} {i : Nat}
    (h : (vacate names key)[i]? = some name) :
    ∃ j, names[j]? = some name ∧ (j = i ∨ (vacate names key).length ≤ j) := by
  induction names generalizing i with
  | nil => cases h
  | cons first rest ih =>
      rw [vacate] at h ⊢
      split at h
      · rename_i same
        rw [if_pos same]
        rcases List.eq_nil_or_concat rest with rfl | ⟨front, last, rfl⟩
        · cases h
        · simp only [List.concat_eq_append, List.getLast?_concat, List.dropLast_concat] at h ⊢
          cases i with
          | zero =>
              -- the last name, whose place is given up
              exact ⟨front.length + 1, by simpa using h, .inr (Nat.le_refl _)⟩
          | succ i =>
              have within : i < front.length := by
                simpa using (List.getElem?_eq_some_iff.mp h).1
              refine ⟨i + 1, ?_, .inl rfl⟩
              rw [List.getElem?_cons_succ, List.getElem?_append_left within]
              exact h
      · rename_i other
        rw [if_neg other]
        cases i with
        | zero => exact ⟨0, h, .inl rfl⟩
        | succ i =>
            obtain ⟨j, found, place⟩ := ih h
            refine ⟨j + 1, found, ?_⟩
            rw [List.length_cons]
            omega

theorem getElem?_foldl_vacate {gone : List String} {name : String} {i : Nat}
    (h : (gone.foldl vacate names)[i]? = some name) :
    ∃ j, names[j]? = some name ∧ (j = i ∨ (gone.foldl vacate names).length ≤ j) := by
  induction gone generalizing names with
  | nil => exact ⟨i, h, .inl rfl⟩
  | cons first gone ih =>
      obtain ⟨j, found, place⟩ := ih h
      obtain ⟨j', found', place'⟩ := getElem?_vacate found
      have shorter := length_foldl_vacate_le gone (vacate names first)
      refine ⟨j', found', ?_⟩
      rw [List.foldl_cons]
      omega

/-! ## The order of what is left -/

section Back

variable {gone back : List String}

/-- At most one option behind the first key that is lifted out. -/
theorem foldl_vacate_of_one (perm : (gone.foldl vacate back).Perm (back.filter isOption))
    (one : back.countP isOption ≤ 1) : gone.foldl vacate back = back.filter isOption := by
  rw [List.countP_eq_length_filter] at one
  match asked : back.filter isOption with
  | [] => exact List.perm_nil.mp (asked ▸ perm)
  | [name] => exact List.perm_singleton.mp (asked ▸ perm)
  | _ :: _ :: _ => simp [asked] at one

/--
More options than keys that are lifted out, and such a key first. Its place would have to go to the
first option, which stands in front of all places that are given up.
-/
theorem foldl_vacate_of_many (nodup : back.Nodup)
    (lead : ∀ name, back.head? = some name → isOption name = false)
    (perm : (gone.foldl vacate back).Perm (back.filter isOption))
    (many : back.countP (!isOption ·) < back.countP isOption) :
    gone.foldl vacate back ≠ back.filter isOption := by
  intro kept
  have some_option : (back.find? isOption).isSome :=
    List.find?_isSome.mpr (List.countP_pos_iff.mp (Nat.zero_lt_of_lt many))
  obtain ⟨first, found⟩ := Option.isSome_iff_exists.mp some_option
  obtain ⟨option, run, more, split, unfit⟩ := List.find?_eq_some_iff_append.mp found
  have place : back[run.length]? = some first := by rw [split]; simp
  have behind : run.length ≠ 0 := by
    intro none_before
    rw [none_before, ← List.head?_eq_getElem?] at place
    simp [lead first place] at option
  have given_up : run.length ≤ back.countP (!isOption ·) := by
    rw [split, List.countP_append, List.countP_eq_length.mpr unfit]
    exact Nat.le_add_right _ _
  have left : (gone.foldl vacate back).length = back.countP isOption := by
    rw [perm.length_eq, List.countP_eq_length_filter]
  have head : (gone.foldl vacate back)[0]? = some first := by
    have skipped : run.filter isOption = [] :=
      List.filter_eq_nil_iff.mpr fun name among => by simpa using unfit name among
    rw [kept, split, List.filter_append, skipped, List.nil_append, List.filter_cons_of_pos option]
    rfl
  obtain ⟨j, origin, moved⟩ := getElem?_foldl_vacate head
  have same : j = run.length :=
    (List.getElem?_inj (List.getElem?_eq_some_iff.mp origin).1 nodup).mp (origin.trans place.symm)
  omega

end Back

theorem isOption_of_takeWhile {name : String} (h : name ∈ names.takeWhile isOption) :
    isOption name = true :=
  List.all_eq_true.mp List.all_takeWhile name h

/-- The keys in front of the first one that is lifted out stay where they are. -/
theorem foldl_vacate_reserved (names : List String) :
    reserved.foldl vacate names =
      names.takeWhile isOption ++ reserved.foldl vacate (names.dropWhile isOption) := by
  have absent : ∀ key ∈ reserved, key ∉ names.takeWhile isOption := fun key lifted among => by
    have option := isOption_of_takeWhile among
    simp [isOption, lifted] at option
  rw [← foldl_vacate_append absent, List.takeWhile_append_dropWhile]

theorem filter_isOption (names : List String) :
    names.filter isOption =
      names.takeWhile isOption ++ (names.dropWhile isOption).filter isOption := by
  have front : (names.takeWhile isOption).filter isOption = names.takeWhile isOption :=
    List.filter_eq_self.mpr fun _ => isOption_of_takeWhile
  rw [← front, ← List.filter_append, List.takeWhile_append_dropWhile]

/-- What is read is an object. -/
theorem ofFields_of_readBy {parse : String → Option Json} {text : String} {d : Description}
    (h : readBy parse text = .ok d) :
    ∃ fields, parse text = some (.obj fields) ∧ ofFields fields = .ok d := by
  rw [readBy] at h
  split at h
  · rename_i value parsed
    cases value with
    | obj fields => exact ⟨fields, parsed, h⟩
    | _ => cases h
  · cases h

/--
The options of a description are its keys without those that are lifted out. They stand in the
order in which the text gives them first, if at most one of them stands behind the first key that is
lifted out, but not if more stand there than such keys.
-/
theorem order_of_read (p : Json.Parser) {text : String} {d : Description}
    (h : readBy p.parse text = .ok d) :
    ∃ given options, p.names text = some given ∧ d.options = .obj options ∧
      let names := given.eraseDups
      let back := names.dropWhile isOption
      (Entries.keys options).Perm (names.filter isOption) ∧
      Entries.keys options = names.takeWhile isOption ++ reserved.foldl vacate back ∧
      (back.countP isOption ≤ 1 → Entries.keys options = names.filter isOption) ∧
      (back.countP (!isOption ·) < back.countP isOption →
        Entries.keys options ≠ names.filter isOption) := by
  obtain ⟨fields, parsed, read⟩ := ofFields_of_readBy h
  obtain ⟨given, found, keys⟩ := p.keys_of_parse parsed
  have keyed := p.wellKeyed parsed
  obtain ⟨-, -, -, options⟩ := (ofFields_eq_ok keyed).mp read
  refine ⟨given, _, found, options, ?_⟩
  have perm := keys_lifted_perm keyed reserved
  have nodup : (Entries.keys fields).Nodup := keyed
  rw [OptionTree.keys_ofJsonFields]
  rw [keys_lifted, keys] at perm ⊢
  rw [keys] at nodup
  generalize given.eraseDups = names at perm nodup ⊢
  have behind : (reserved.foldl vacate (names.dropWhile isOption)).Perm
      ((names.dropWhile isOption).filter isOption) := by
    rw [← List.perm_append_left_iff (names.takeWhile isOption), ← foldl_vacate_reserved,
      ← filter_isOption]
    exact perm
  refine ⟨perm, foldl_vacate_reserved names, fun one => ?_, fun many kept => ?_⟩
  · rw [foldl_vacate_reserved, filter_isOption, foldl_vacate_of_one behind one]
  · rw [foldl_vacate_reserved, filter_isOption, List.append_cancel_left_eq] at kept
    have lead : ∀ name, (names.dropWhile isOption).head? = some name → isOption name = false := by
      intro name first
      have unfit := List.head?_dropWhile_not isOption names
      rw [first] at unfit
      exact unfit
    exact foldl_vacate_of_many (nodup.sublist (List.dropWhile_sublist _)) lead behind many kept

/-! ## Descriptions with rows in front -/

/-- The rows stand in front of two options. -/
def rowsFirst : String := "\x7b\"data\":[],\"a\":true,\"b\":true\x7d"

/-- A width between two options. -/
def widthBetween : String := "\x7b\"a\":true,\"width\":null,\"b\":true\x7d"

/-- The option behind the width takes its place, which keeps the order. -/
theorem order_of_read_widthBetween :
    ∃ d options, read widthBetween = .ok d ∧ d.options = .obj options ∧
      Entries.keys options = ["a", "b"] := by
  have accepted : (read widthBetween).toOption.isSome = true := by decide +kernel
  have names : (Json.members? widthBetween).map (·.map Prod.fst) = some ["a", "width", "b"] := by
    decide +kernel
  cases ok : read widthBetween with
  | error e =>
      rw [ok] at accepted
      cases accepted
  | ok d =>
      rw [← readBy_reader] at ok
      obtain ⟨given, options, found, object, -, -, kept, -⟩ := order_of_read Json.reader ok
      rw [Json.names_reader, names, Option.some.injEq] at found
      rw [← found] at kept
      exact ⟨d, options, rfl, object, kept (by decide)⟩

/-- The last option takes the place of the rows. -/
theorem rowsFirst_reordered :
    (Json.members? rowsFirst).map (·.map Prod.fst) = some ["data", "a", "b"] ∧
      (read rowsFirst).toOption.map (fun d => Entries.keys d.options.fields) = some ["b", "a"] := by
  decide +kernel

end Charting.Description
