import Charting.Options.Merge
import Charting.Proofs.Entries
import Charting.Proofs.Options.Writing

/-!
# Merging, key by key

What a merge leaves under a key depends on what the two objects have under that key.
-/

namespace Charting.OptionTree

variable {t : OptionTree} {target target' source : OptionMap} {key other : String}

/-- A source that is no object is merged like one without fields. -/
theorem mergeObject_obj (source : OptionTree) :
    (OptionTree.obj target).mergeObject source = .obj (mergeFields target source.fields) := by
  cases source with
  | obj fields => rw [mergeObject, merge, fields_obj]
  | _ => simp only [mergeObject, fields, object?, Option.getD_none, mergeFields_nil]

theorem get?_mergeFields_congr (same : Entries.get? target key = Entries.get? target' key) :
    Entries.get? (mergeFields target source) key = Entries.get? (mergeFields target' source) key := by
  induction source generalizing target target' with
  | nil => simpa only [mergeFields_nil] using same
  | cons field rest ih =>
      obtain ⟨k, value⟩ := field
      simp only [mergeFields_cons]
      apply ih
      rw [Entries.get?_update, Entries.get?_update]
      split
      · rename_i hk
        rw [hk, same]
      · exact same

theorem get?_mergeFields_update {f : Option OptionTree → OptionTree} (h : other ≠ key) :
    Entries.get? (mergeFields target (Entries.update other f source)) key =
      Entries.get? (mergeFields target source) key := by
  induction source generalizing target with
  | nil =>
      simp only [Entries.update, mergeFields_cons, mergeFields_nil]
      rw [Entries.get?_update, if_neg h]
  | cons field rest ih =>
      obtain ⟨k, value⟩ := field
      by_cases hk : k = other
      · simp only [Entries.update, hk, ↓reduceIte, mergeFields_cons]
        apply get?_mergeFields_congr
        rw [Entries.get?_update, Entries.get?_update, if_neg h, if_neg h]
      · simp only [Entries.update, hk, ↓reduceIte, mergeFields_cons]
        exact ih

theorem get?_mergeFields_of_notMem (h : key ∉ Entries.keys source) :
    Entries.get? (mergeFields target source) key = Entries.get? target key := by
  induction source generalizing target with
  | nil => rw [mergeFields_nil]
  | cons field rest ih =>
      obtain ⟨k, value⟩ := field
      simp only [Entries.keys, List.map_cons, List.mem_cons, not_or] at h
      rw [mergeFields_cons, ih h.2, Entries.get?_update, if_neg (Ne.symm h.1)]

/-- A key of both objects has its values merged. -/
theorem get?_mergeFields (keyed : Entries.WellKeyed source) :
    Entries.get? (mergeFields target source) key =
      (Entries.get? source key).elim (Entries.get? target key) fun value =>
        some ((Entries.get? target key).elim value fun existing => existing.merge value) := by
  induction source generalizing target with
  | nil => rfl
  | cons field rest ih =>
      obtain ⟨k, value⟩ := field
      simp only [Entries.WellKeyed, Entries.keys, List.map_cons, List.nodup_cons] at keyed
      obtain ⟨fresh, keyed⟩ := keyed
      rw [mergeFields_cons, Entries.get?]
      by_cases hk : k = key
      · subst hk
        rw [get?_mergeFields_of_notMem fresh, Entries.get?_update, if_pos rfl, if_pos rfl,
          Option.elim_some]
        cases Entries.get? target k <;> rfl
      · rw [if_neg hk, ih keyed, Entries.get?_update, if_neg hk]

theorem wellKeyed_mergeFields (keyed : Entries.WellKeyed target) :
    Entries.WellKeyed (mergeFields target source) := by
  induction source generalizing target with
  | nil => exact keyed
  | cons field rest ih =>
      rw [mergeFields_cons]
      exact ih (keyed.update _ _)

/-- The known keys stay where they are and the new ones follow in the order of the source. -/
theorem keys_mergeFields (keyed : Entries.WellKeyed source) :
    Entries.keys (mergeFields target source) =
      Entries.keys target ++
        (Entries.keys source).filter fun key => decide (key ∉ Entries.keys target) := by
  induction source generalizing target with
  | nil => simp [Entries.keys]
  | cons field rest ih =>
      obtain ⟨k, value⟩ := field
      obtain ⟨fresh, keyed⟩ := List.nodup_cons.mp keyed
      have split : Entries.keys ((k, value) :: rest) = k :: Entries.keys rest := rfl
      rw [mergeFields_cons, ih keyed, Entries.keys_update, split]
      by_cases hk : k ∈ Entries.keys target
      · simp only [hk, ↓reduceIte, List.filter_cons, not_true_eq_false, decide_false,
          Bool.false_eq_true]
      · have others : ∀ key ∈ Entries.keys rest,
            decide (key ∉ Entries.keys target ++ [k]) = decide (key ∉ Entries.keys target) := by
          intro key hkey
          have hne : key ≠ k := fun he => fresh (he ▸ hkey)
          simp [hne]
        simp only [hk, ↓reduceIte, List.filter_cons, not_false_eq_true, decide_true]
        rw [List.filter_congr others, List.append_assoc, List.singleton_append]

theorem nil_mergeFields (keyed : Entries.WellKeyed source) : mergeFields [] source = source := by
  have fromNothing : Entries.WellKeyed (mergeFields [] source) := wellKeyed_mergeFields .nil
  apply fromNothing.ext
  · rw [keys_mergeFields keyed]
    simp [Entries.keys]
  · intro key
    rw [get?_mergeFields keyed]
    cases Entries.get? source key <;> rfl

/-- Keys that the two objects do not share are taken over as they are. -/
theorem filter_mergeFields (keep : String → Bool) (keyed : Entries.WellKeyed source)
    (apart : ∀ key ∈ Entries.keys source, key ∈ Entries.keys target → keep key = false) :
    (mergeFields target source).filter (fun field => keep field.1) =
      target.filter (fun field => keep field.1) ++ source.filter fun field => keep field.1 := by
  induction source generalizing target with
  | nil => simp
  | cons field rest ih =>
      obtain ⟨k, value⟩ := field
      obtain ⟨fresh, keyed⟩ := List.nodup_cons.mp keyed
      obtain ⟨here, below⟩ := List.forall_mem_cons.mp apart
      rw [mergeFields_cons, ih keyed]
      · cases kept : keep k with
        | true =>
            have new : k ∉ Entries.keys target := fun known => by simp [here known] at kept
            rw [Entries.update_of_notMem new, List.filter_append,
              List.filter_cons_of_pos (l := rest) (by exact kept)]
            simp [kept]
        | false =>
            rw [Entries.filter_update_of_not kept,
              List.filter_cons_of_neg (l := rest) (by simp [kept])]
      · intro key among known
        rw [Entries.keys_update] at known
        split at known
        · exact below key among known
        · rcases List.mem_append.mp known with old | added
          · exact below key among old
          · exact absurd (List.mem_singleton.mp added ▸ among) fresh

/-! ## Objects and other values -/

theorem merge_of_object?_eq_none {source : OptionTree} (h : source.object? = none) :
    t.merge source = source := by
  cases source with
  | obj fields => cases h
  | _ => simp [merge]

theorem merge_obj_of_object?_eq_none (h : t.object? = none) :
    t.merge (.obj source) = .obj source := by
  cases t with
  | obj fields => cases h
  | _ => simp [merge]

/-- A value that is no object is replaced by whatever is laid over it. -/
theorem leaf_merge {leaf : OptionTree} (bare : leaf.object? = none) (value : OptionTree) :
    leaf.merge value = value := by
  cases value with
  | obj fields => exact merge_obj_of_object?_eq_none bare
  | _ => simp [merge]

/-- A leaf is the fallback for what is read under its key. -/
theorem getD_mergeFields {α : Type} {read : OptionTree → Option α} {leaf : OptionTree}
    {fallback : α} (keyed : Entries.WellKeyed source) (below : Entries.get? target key = some leaf)
    (bare : leaf.object? = none) (reads : read leaf = some fallback) :
    ((Entries.get? (mergeFields target source) key).bind read).getD fallback =
      ((Entries.get? source key).bind read).getD fallback := by
  rw [get?_mergeFields keyed, below]
  cases Entries.get? source key with
  | none =>
      show (read leaf).getD fallback = fallback
      rw [reads]
      rfl
  | some value =>
      show (read (leaf.merge value)).getD fallback = (read value).getD fallback
      rw [leaf_merge bare]

end Charting.OptionTree
