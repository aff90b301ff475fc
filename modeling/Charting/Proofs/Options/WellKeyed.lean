import Charting.Proofs.Options.Agreement

/-!
# Trees and what they hold under a key

Objects have distinct keys, at every level that a list of keys leads to. What is found under a key
is smaller than the object, so that what holds of a tree by its children holds of every tree.
-/

namespace Charting

namespace OptionTree

variable {t inner : OptionTree} {key : String} {path : List String} {fields : OptionMap}

mutual
/-- No object that a list of keys leads to has a key twice. -/
def WellKeyed : OptionTree → Prop
  | .obj fields => Entries.WellKeyed fields ∧ WellKeyedFields fields
  | _ => True

def WellKeyedFields : List (String × OptionTree) → Prop
  | [] => True
  | (_, value) :: rest => value.WellKeyed ∧ WellKeyedFields rest
end

theorem wellKeyedFields_iff :
    WellKeyedFields fields ↔ ∀ key value, (key, value) ∈ fields → value.WellKeyed := by
  induction fields with
  | nil => simp [WellKeyedFields]
  | cons field rest ih =>
      obtain ⟨k, v⟩ := field
      simp only [WellKeyedFields, ih, List.mem_cons, Prod.mk.injEq]
      constructor
      · rintro ⟨first, others⟩ key value (⟨rfl, rfl⟩ | h)
        · exact first
        · exact others key value h
      · intro h
        exact ⟨h k v (.inl ⟨rfl, rfl⟩), fun key value hv => h key value (.inr hv)⟩

theorem WellKeyed.keys (h : (OptionTree.obj fields).WellKeyed) : Entries.WellKeyed fields := by
  simp only [WellKeyed] at h
  exact h.1

theorem WellKeyed.child (h : (OptionTree.obj fields).WellKeyed)
    (found : Entries.get? fields key = some inner) : inner.WellKeyed := by
  simp only [WellKeyed, wellKeyedFields_iff] at h
  exact h.2 key inner (Entries.mem_of_get? found)

theorem sizeOf_get? (found : Entries.get? fields key = some inner) :
    sizeOf inner < sizeOf (OptionTree.obj fields) := by
  have member := List.sizeOf_lt_of_mem (Entries.mem_of_get? found)
  simp only [Prod.mk.sizeOf_spec] at member
  simp only [obj.sizeOf_spec]
  omega

/-- What holds of a tree whenever it holds of all its children holds of every tree. -/
theorem childInduction {motive : OptionTree → Prop}
    (node : ∀ t, (∀ key child, t.get? key = some child → motive child) → motive t)
    (t : OptionTree) : motive t := by
  apply node
  intro key child found
  cases t with
  | obj fields => exact childInduction node child
  | _ => cases found
termination_by sizeOf t
decreasing_by exact sizeOf_get? found

theorem object?_eq_none_or (t : OptionTree) : t.object? = none ∨ ∃ fields, t = .obj fields := by
  cases t with
  | obj fields => exact .inr ⟨fields, rfl⟩
  | _ => exact .inl rfl

theorem find?_cons_of_object?_eq_none {rest : List String} (h : t.object? = none) :
    t.find? (key :: rest) = none := by
  simp [find?, get?, OptionTree.fields, h]

theorem eq_of_find?_obj (h : t.object? = none) : t.find? path ≠ some (.obj fields) := by
  cases path with
  | nil =>
      intro found
      cases found
      cases h
  | cons key rest => simp [find?_cons_of_object?_eq_none h]

end OptionTree

end Charting
