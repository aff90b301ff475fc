/-!
# Ordered entries

Keyed values in the order in which their keys first appeared. Option objects, JSON objects, data
rows, scale sets and the registry are all made of them. A list of entries is *well keyed* when no
key occurs twice; every operation here keeps that.
-/

namespace Charting

/-- Keyed values in insertion order. -/
abbrev Entries (α : Type) := List (String × α)

namespace Entries

variable {α : Type}

/-- The value of the first entry with this key. -/
def get? : Entries α → String → Option α
  | [], _ => none
  | (k, v) :: rest, key => if k = key then some v else get? rest key

def keys (entries : Entries α) : List String := entries.map Prod.fst

/-- No key occurs twice. -/
def WellKeyed (entries : Entries α) : Prop := (keys entries).Nodup

/-- Changes the value of a key in its place; a new key goes to the end. -/
def update (key : String) (f : Option α → α) : Entries α → Entries α
  | [] => [(key, f none)]
  | (k, v) :: rest => if k = key then (k, f (some v)) :: rest else (k, v) :: update key f rest

/-- Sets the value of a key in its place; a new key goes to the end. -/
def insert (key : String) (value : α) (entries : Entries α) : Entries α :=
  update key (fun _ => value) entries

/-- Sets a key only when there is a value for it. -/
def insertSome (key : String) (value : Option α) (entries : Entries α) : Entries α :=
  match value with
  | some v => insert key v entries
  | none => entries

/-- Removes a key; the order of the other entries stays. -/
def erase (key : String) : Entries α → Entries α
  | [] => []
  | (k, v) :: rest => if k = key then rest else (k, v) :: erase key rest

/-- Removes a key by moving the last entry into its place. -/
def swapErase (key : String) : Entries α → Entries α
  | [] => []
  | (k, v) :: rest =>
    if k = key then
      match rest.getLast? with
      | some last => last :: rest.dropLast
      | none => []
    else (k, v) :: swapErase key rest

/-! ## Lookup after an operation -/

@[simp] theorem get?_nil (key : String) : get? ([] : Entries α) key = none := rfl

theorem get?_update (key other : String) (f : Option α → α) (entries : Entries α) :
    get? (update key f entries) other =
      if key = other then some (f (get? entries key)) else get? entries other := by
  induction entries with
  | nil => simp [update, get?]
  | cons entry rest ih =>
      obtain ⟨k, v⟩ := entry
      by_cases hk : k = key
      · subst hk
        by_cases ho : k = other <;> simp [update, get?, ho]
      · by_cases ho : k = other
        · subst ho
          simp [update, get?, hk, Ne.symm hk]
        · simp [update, get?, hk, ho, ih]

theorem get?_insert (key other : String) (value : α) (entries : Entries α) :
    get? (insert key value entries) other =
      if key = other then some value else get? entries other :=
  get?_update key other _ entries

theorem get?_insertSome (key other : String) (value : Option α) (entries : Entries α) :
    get? (insertSome key value entries) other =
      if key = other then value.or (get? entries other) else get? entries other := by
  cases value with
  | none => simp [insertSome]
  | some v => simp [insertSome, get?_insert]

/-! ## Keys after an operation -/

theorem mem_keys_iff {entries : Entries α} {key : String} :
    key ∈ keys entries ↔ (get? entries key).isSome := by
  induction entries with
  | nil => simp [keys, get?]
  | cons entry rest ih =>
      obtain ⟨k, v⟩ := entry
      by_cases hk : k = key
      · simp [keys, get?, hk]
      · simpa [keys, get?, hk, Ne.symm hk] using ih

theorem get?_eq_none_iff {entries : Entries α} {key : String} :
    get? entries key = none ↔ key ∉ keys entries := by
  rw [mem_keys_iff]; simp

theorem keys_update (key : String) (f : Option α → α) (entries : Entries α) :
    keys (update key f entries) =
      if key ∈ keys entries then keys entries else keys entries ++ [key] := by
  induction entries with
  | nil => simp [update, keys]
  | cons entry rest ih =>
      obtain ⟨k, v⟩ := entry
      by_cases hk : k = key
      · simp [update, keys, hk]
      · simp only [keys, List.map_cons, List.mem_cons] at ih ⊢
        simp only [update, hk, ↓reduceIte, List.map_cons, ih, Ne.symm hk, false_or]
        by_cases hr : key ∈ List.map Prod.fst rest <;> simp [hr]

theorem keys_insert (key : String) (value : α) (entries : Entries α) :
    keys (insert key value entries) =
      if key ∈ keys entries then keys entries else keys entries ++ [key] :=
  keys_update key _ entries

theorem keys_erase (key : String) (entries : Entries α) :
    keys (erase key entries) = (keys entries).erase key := by
  induction entries with
  | nil => rfl
  | cons entry rest ih =>
      obtain ⟨k, v⟩ := entry
      by_cases hk : k = key
      · simp [erase, keys, hk]
      · simp only [keys] at ih
        simp [erase, keys, hk, ih]

theorem get?_erase {entries : Entries α} (h : WellKeyed entries) (key other : String) :
    get? (erase key entries) other = if key = other then none else get? entries other := by
  induction entries with
  | nil => simp [erase]
  | cons entry rest ih =>
      obtain ⟨k, v⟩ := entry
      obtain ⟨hnew, hrest⟩ := List.nodup_cons.mp h
      by_cases hk : k = key
      · subst hk
        by_cases ho : k = other
        · subst ho
          simpa [erase] using get?_eq_none_iff.mpr hnew
        · simp [erase, get?, ho]
      · by_cases ho : k = other
        · subst ho
          simp [erase, get?, hk, Ne.symm hk]
        · simp [erase, get?, hk, ho, ih hrest]

theorem mem_of_get? {entries : Entries α} {key : String} {value : α}
    (h : get? entries key = some value) : (key, value) ∈ entries := by
  induction entries with
  | nil => cases h
  | cons entry rest ih =>
      obtain ⟨k, v⟩ := entry
      by_cases hk : k = key
      · simp only [get?, hk, ↓reduceIte, Option.some.injEq] at h
        simp [hk, h]
      · simp only [get?, hk, ↓reduceIte] at h
        exact List.mem_cons_of_mem _ (ih h)

/-! ## Keys stay distinct -/

theorem WellKeyed.update {entries : Entries α} (h : WellKeyed entries) (key : String)
    (f : Option α → α) : WellKeyed (update key f entries) := by
  unfold WellKeyed at h ⊢
  rw [keys_update]
  split
  · exact h
  · rename_i hnew
    refine List.nodup_append.mpr ⟨h, by simp, ?_⟩
    intro k hk k' hk' he
    obtain rfl := List.mem_singleton.mp hk'
    exact hnew (he ▸ hk)

theorem WellKeyed.insert {entries : Entries α} (h : WellKeyed entries) (key : String) (value : α) :
    WellKeyed (insert key value entries) :=
  h.update key _

theorem WellKeyed.erase {entries : Entries α} (h : WellKeyed entries) (key : String) :
    WellKeyed (erase key entries) := by
  unfold WellKeyed at h ⊢
  rw [keys_erase]
  exact h.erase key

theorem WellKeyed.get?_eq_some_iff {entries : Entries α} (h : WellKeyed entries) {key : String}
    {value : α} : get? entries key = some value ↔ (key, value) ∈ entries := by
  refine ⟨mem_of_get?, fun member => ?_⟩
  induction entries with
  | nil => simp at member
  | cons entry rest ih =>
      obtain ⟨k, v⟩ := entry
      obtain ⟨hnew, hrest⟩ := List.nodup_cons.mp h
      rcases List.mem_cons.mp member with same | below
      · cases same
        simp [get?]
      · have other : k ≠ key := by
          rintro rfl
          exact hnew (List.mem_map.mpr ⟨_, below, rfl⟩)
        simpa [get?, other] using ih hrest below

/-- Entries with distinct keys are their keys, in order, and what is found under them. -/
theorem WellKeyed.ext {entries others : Entries α} (h : WellKeyed entries)
    (order : keys entries = keys others) (found : ∀ key, get? entries key = get? others key) :
    entries = others := by
  induction entries generalizing others with
  | nil => simpa [keys] using order.symm
  | cons entry rest ih =>
      obtain ⟨k, v⟩ := entry
      obtain ⟨hnew, hrest⟩ := List.nodup_cons.mp h
      cases others with
      | nil => simp [keys] at order
      | cons other rest' =>
          obtain ⟨k', v'⟩ := other
          simp only [keys, List.map_cons, List.cons.injEq] at order
          obtain ⟨rfl, order⟩ := order
          have order : keys rest = keys rest' := order
          have value : v = v' := by simpa [get?] using found k
          have below : ∀ key, get? rest key = get? rest' key := by
            intro key
            by_cases hk : k = key
            · subst hk
              have hnew' : k ∉ keys rest' := by
                rw [← order]
                exact hnew
              rw [get?_eq_none_iff.mpr hnew, get?_eq_none_iff.mpr hnew']
            · simpa [get?, hk] using found key
          rw [value, ih hrest order below]

/-! ## The order of entries with distinct keys -/

theorem WellKeyed.of_perm {entries others : Entries α} (h : WellKeyed entries)
    (perm : entries.Perm others) : WellKeyed others :=
  (perm.map Prod.fst).nodup h

theorem WellKeyed.get?_of_perm {entries others : Entries α} (h : WellKeyed entries)
    (perm : entries.Perm others) (key : String) : get? others key = get? entries key := by
  ext value
  rw [(h.of_perm perm).get?_eq_some_iff, h.get?_eq_some_iff, perm.mem_iff]

theorem swapErase_perm (key : String) (entries : Entries α) :
    (swapErase key entries).Perm (erase key entries) := by
  induction entries with
  | nil => exact .nil
  | cons entry rest ih =>
      obtain ⟨k, v⟩ := entry
      by_cases hk : k = key
      · rcases List.eq_nil_or_concat rest with rfl | ⟨front, last, rfl⟩
        · simp [swapErase, erase, hk]
        · simpa [swapErase, erase, hk] using (List.perm_append_singleton last front).symm
      · simpa [swapErase, erase, hk] using ih

theorem WellKeyed.swapErase {entries : Entries α} (h : WellKeyed entries) (key : String) :
    WellKeyed (swapErase key entries) :=
  (h.erase key).of_perm (swapErase_perm key entries).symm

theorem get?_swapErase {entries : Entries α} (h : WellKeyed entries) (key other : String) :
    get? (swapErase key entries) other = if key = other then none else get? entries other := by
  rw [(h.erase key).get?_of_perm (swapErase_perm key entries).symm, get?_erase h]

end Entries

end Charting
