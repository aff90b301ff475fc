import Charting.Proofs.Options.Writing
import Mathlib.Data.List.Perm.Subperm

/-!
# Agreement of option trees

Agreement forgets the order of keys and the sign of zero, and NaN breaks it. It can still tell
whether a flag was written: a tree that agrees with itself after flags were written in it already
had them.
-/

namespace Charting

namespace OptionTree

variable {t u : OptionTree} {key other : String} {path : List String}
  {f g : OptionTree → OptionTree}

theorem agreesFields_iff {entries : List (String × OptionTree)} {fields : OptionMap} :
    agreesFields entries fields = true ↔
      ∀ key v, (key, v) ∈ entries → ∃ v', Entries.get? fields key = some v' ∧ agrees v v' = true := by
  induction entries with
  | nil => simp [agreesFields]
  | cons entry rest ih =>
      obtain ⟨k, v⟩ := entry
      cases found : Entries.get? fields k with
      | none =>
          simp only [agreesFields, found, Bool.false_and, Bool.false_eq_true, false_iff]
          intro h
          obtain ⟨v', hv, -⟩ := h k v (List.mem_cons_self ..)
          simp [found] at hv
      | some v' =>
          simp only [agreesFields, found, Bool.and_eq_true, ih, List.mem_cons]
          constructor
          · rintro ⟨first, others⟩ key w (h | h)
            · cases h
              exact ⟨v', found, first⟩
            · exact others key w h
          · intro h
            refine ⟨?_, fun key w hw => h key w (.inr hw)⟩
            obtain ⟨w, hw, agree⟩ := h k v (.inl rfl)
            rw [found] at hw
            cases hw
            exact agree

/-- What agrees with an object is an object of the same size, and agrees field by field. -/
theorem agrees_obj {fields : OptionMap} (h : agrees t (.obj fields) = true) :
    ∃ entries, t = .obj entries ∧ entries.length = fields.length ∧
      ∀ key v, Entries.get? entries key = some v →
        ∃ v', Entries.get? fields key = some v' ∧ agrees v v' = true := by
  cases t with
  | obj entries =>
      simp only [agrees, Bool.and_eq_true, beq_iff_eq] at h
      exact ⟨entries, rfl, h.1, fun key v hv => agreesFields_iff.mp h.2 key v (Entries.mem_of_get? hv)⟩
  | _ => cases h

/-- Objects that agree have the same keys. -/
theorem agrees_keys {entries fields : OptionMap} (keyed : Entries.WellKeyed entries)
    (h : agrees (.obj entries) (.obj fields) = true) :
    (Entries.keys entries).Perm (Entries.keys fields) := by
  obtain ⟨_, same, size, agree⟩ := agrees_obj h
  cases same
  have subset : Entries.keys entries ⊆ Entries.keys fields := by
    intro key member
    obtain ⟨v, hv⟩ := Option.isSome_iff_exists.mp (Entries.mem_keys_iff.mp member)
    obtain ⟨v', hv', -⟩ := agree key v hv
    exact Entries.mem_keys_iff.mpr (by simp [hv'])
  exact (keyed.subperm subset).perm_of_length_le (by simp [Entries.keys, size])

theorem agrees_bool {b : Bool} (h : agrees t (.bool b) = true) : t = .bool b := by
  cases t with
  | bool a => simpa [agrees] using h
  | _ => cases h

theorem agrees_child {entries fields : OptionMap} (rest : List String)
    (f : OptionTree → OptionTree) (h : agrees (.obj entries) (.obj fields) = true)
    (present : key ∈ Entries.keys entries)
    (written : Entries.get? fields key =
      some (((Entries.get? entries key).getD (.obj [])).alter rest f)) :
    ∃ child, (obj entries).get? key = some child ∧ agrees child (child.alter rest f) = true := by
  obtain ⟨child, found⟩ := Option.isSome_iff_exists.mp (Entries.mem_keys_iff.mp present)
  obtain ⟨_, same, -, agree⟩ := agrees_obj h
  cases same
  obtain ⟨after, found', same⟩ := agree key child found
  rw [written, found, Option.getD_some, Option.some.injEq] at found'
  rw [← found'] at same
  exact ⟨child, found, same⟩

/-- A write that made no difference has met something that it made no difference to. -/
theorem agrees_alter (h : agrees t (t.alter path f) = true) :
    ∃ u, t.find? path = some u ∧ agrees u (f u) = true := by
  induction path generalizing t with
  | nil => exact ⟨t, rfl, h⟩
  | cons key rest ih =>
      obtain ⟨entries, rfl, size, -⟩ := agrees_obj h
      -- for a missing key the write would have added an entry
      have present : key ∈ Entries.keys entries := by
        rw [fields_obj, Entries.length_update] at size
        exact Classical.byContradiction fun missing => by simp [missing] at size
      obtain ⟨child, found, same⟩ := agrees_child rest f h present
        (by simp [Entries.get?_update])
      obtain ⟨u, hu, keep⟩ := ih same
      exact ⟨u, by simp [find?, found, hu], keep⟩

/-- Two writes that part at the first key and together made no difference. -/
theorem agrees_alter_pair (h : key ≠ other) {rest more : List String}
    (agree : agrees t ((t.alter (key :: rest) f).alter (other :: more) g) = true) :
    (∃ u, t.find? (key :: rest) = some u ∧ agrees u (f u) = true) ∧
      ∃ u, t.find? (other :: more) = some u ∧ agrees u (g u) = true := by
  obtain ⟨entries, rfl, size, -⟩ := agrees_obj agree
  have present : key ∈ Entries.keys entries ∧ other ∈ Entries.keys entries := by
    simp only [alter, fields_obj, Entries.length_update, Entries.keys_update] at size
    by_cases hk : key ∈ Entries.keys entries <;> by_cases ho : other ∈ Entries.keys entries <;>
      simp [hk, ho, Ne.symm h] at size ⊢
    all_goals omega
  constructor
  · obtain ⟨child, found, same⟩ := agrees_child rest f agree present.1
      (by simp [alter, Entries.get?_update, Ne.symm h])
    obtain ⟨u, hu, keep⟩ := agrees_alter same
    exact ⟨u, by simp [find?, found, hu], keep⟩
  · obtain ⟨child, found, same⟩ := agrees_child more g agree present.2
      (by simp [alter, Entries.get?_update, h])
    obtain ⟨u, hu, keep⟩ := agrees_alter same
    exact ⟨u, by simp [find?, found, hu], keep⟩

/-! ## NaN -/

theorem beq_notANumber {x y : Float} (h : y.toModel.unpack = .notANumber) : (x == y) = false := by
  show (x.toModel.unpack.beq y.toModel.unpack) = false
  rw [h]
  cases x.toModel.unpack <;> rfl

/-- A tree with a NaN directly below the root agrees with no well-keyed one. -/
theorem not_agrees_of_nan {x : Float} (nan : x.toModel.unpack = .notANumber)
    (found : u.get? key = some (.num x)) (keyed : Entries.WellKeyed t.fields) :
    agrees t u = false := by
  refine Bool.eq_false_iff.mpr fun h => ?_
  cases u with
  | obj fields =>
      obtain ⟨entries, rfl, -, agree⟩ := agrees_obj h
      have perm := agrees_keys keyed h
      have present : key ∈ Entries.keys fields := Entries.mem_keys_iff.mpr (by
        rw [show Entries.get? fields key = some (.num x) from found]; rfl)
      obtain ⟨v, hv⟩ := Option.isSome_iff_exists.mp
        (Entries.mem_keys_iff.mp (perm.mem_iff.mpr present))
      obtain ⟨v', hv', same⟩ := agree key v hv
      obtain rfl := Option.some.inj (hv'.symm.trans found)
      cases v with
      | num y => simp [agrees, beq_notANumber nan] at same
      | _ => cases same
  | _ => cases found

end OptionTree

end Charting
