import Charting.Entries

/-!
# Entries made by a run of updates

Each item of a list changes the value of one key. The keys come in the order in which the items
first name them, and the value of a key is what the items that name it leave, one after the other.
-/

namespace Charting.Entries

variable {α β : Type} (name : β → String) (change : β → Option α → α)

def updates (items : List β) (entries : Entries α) : Entries α :=
  items.foldl (fun entries item => update (name item) (change item) entries) entries

theorem updates_cons (item : β) (rest : List β) (entries : Entries α) :
    updates name change (item :: rest) entries =
      updates name change rest (update (name item) (change item) entries) := rfl

theorem keys_updates (items : List β) (entries : Entries α) :
    keys (updates name change items entries) =
      keys entries ++ ((items.map name).filter (· ∉ keys entries)).eraseDups := by
  induction items generalizing entries with
  | nil => simp [updates]
  | cons item rest ih =>
      rw [updates_cons, ih, keys_update]
      by_cases known : name item ∈ keys entries
      · simp [known]
      · have others : (rest.map name).filter (· ∉ keys entries ++ [name item]) =
            ((rest.map name).filter (· ∉ keys entries)).filter (!· == name item) := by
          rw [List.filter_filter]
          refine List.filter_congr fun other _ => ?_
          simp [Bool.and_comm, Bool.beq_eq_decide_eq]
        rw [if_neg known, others, List.map_cons, List.filter_cons_of_pos (by simpa using known),
          List.eraseDups_cons, List.append_assoc, List.singleton_append]

theorem keys_updates_nil (items : List β) :
    keys (updates name change items []) = (items.map name).eraseDups := by
  have all : (items.map name).filter (· ∉ keys ([] : Entries α)) = items.map name :=
    List.filter_eq_self.mpr (by simp [keys])
  rw [keys_updates, all]
  rfl

theorem WellKeyed.updates {entries : Entries α} (h : WellKeyed entries) (items : List β) :
    WellKeyed (updates name change items entries) := by
  induction items generalizing entries with
  | nil => exact h
  | cons item rest ih => exact ih (h.update (name item) (change item))

theorem nodup_eraseDups (names : List String) : names.eraseDups.Nodup := by
  have empty : WellKeyed ([] : Entries Unit) := List.nodup_nil
  have keyed := empty.updates id (fun _ _ => ()) names
  rw [WellKeyed, keys_updates_nil, List.map_id] at keyed
  exact keyed

theorem get?_updates (items : List β) (entries : Entries α) (key : String) :
    get? (updates name change items entries) key =
      (items.filter fun item => name item == key).foldl (fun value item => some (change item value))
        (get? entries key) := by
  induction items generalizing entries with
  | nil => rfl
  | cons item rest ih =>
      rw [updates_cons, ih, get?_update]
      by_cases named : name item = key
      · rw [if_pos named, List.filter_cons_of_pos (by simpa using named), List.foldl_cons, ← named]
      · rw [if_neg named, List.filter_cons_of_neg (by simpa using named)]

/-! ## The entries of some keys -/

variable {entries : Entries α} {key : String} {f : Option α → α} {keep : String → Bool}

theorem update_of_notMem (fresh : key ∉ keys entries) :
    update key f entries = entries ++ [(key, f none)] := by
  induction entries with
  | nil => rfl
  | cons entry rest ih =>
      obtain ⟨k, v⟩ := entry
      obtain ⟨other, fresh⟩ := List.ne_and_not_mem_of_not_mem_cons fresh
      rw [update, if_neg (Ne.symm other), ih fresh, List.cons_append]

theorem filter_update_of_not (dropped : keep key = false) :
    (update key f entries).filter (fun entry => keep entry.1) =
      entries.filter fun entry => keep entry.1 := by
  induction entries with
  | nil => simp [update, dropped]
  | cons entry rest ih =>
      obtain ⟨k, v⟩ := entry
      by_cases hk : k = key
      · simp [update, hk, dropped]
      · simp [update, hk, List.filter_cons, ih]

theorem WellKeyed.erase_eq_filter (h : WellKeyed entries) (key : String) :
    Entries.erase key entries = entries.filter fun entry => decide (entry.1 ≠ key) := by
  induction entries with
  | nil => rfl
  | cons entry rest ih =>
      obtain ⟨k, v⟩ := entry
      obtain ⟨fresh, keyed⟩ := List.nodup_cons.mp h
      by_cases hk : k = key
      · subst hk
        have others : rest.filter (fun entry => decide (entry.1 ≠ k)) = rest := by
          refine List.filter_eq_self.mpr fun entry among => decide_eq_true fun same => ?_
          exact fresh (List.mem_map.mpr ⟨entry, among, same⟩)
        rw [Entries.erase, if_pos rfl, List.filter_cons_of_neg (by simp), others]
      · rw [Entries.erase, if_neg hk, List.filter_cons_of_pos (by simpa using hk), ih keyed]

theorem WellKeyed.foldl_erase (h : WellKeyed entries) (gone : List String) :
    gone.foldl (fun rest key => Entries.erase key rest) entries =
      entries.filter fun entry => decide (entry.1 ∉ gone) := by
  induction gone generalizing entries with
  | nil => exact (List.filter_eq_self.mpr fun _ _ => rfl).symm
  | cons first gone ih =>
      rw [List.foldl_cons, ih (h.erase first), h.erase_eq_filter, List.filter_filter]
      refine List.filter_congr fun entry _ => ?_
      simp [Bool.and_comm]

end Charting.Entries
