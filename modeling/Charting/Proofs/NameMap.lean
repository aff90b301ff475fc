import Charting.NameMap

/-!
# Inverse tables of names

A table may list a name twice, and the two tables of a map need not list the same names. It is
enough to look at the listed names all the same: if each of them comes back, the two directions are
inverse to each other on every name.
-/

namespace Charting

namespace NameMap

variable {there back : List (String × String)} {name : String}

/-- A name has a counterpart in one table, and the other table leads back from it. -/
def ComesBack (there back : List (String × String)) (name : String) : Prop :=
  ∃ counterpart, there.lookup name = some counterpart ∧ back.lookup counterpart = some name

/-- The first name that a table lists without its coming back. -/
def FirstBroken (there back : List (String × String)) (name : String) : Prop :=
  ∃ before after, there.map Prod.fst = before ++ name :: after ∧ ¬ComesBack there back name ∧
    ∀ earlier ∈ before, ComesBack there back earlier

theorem roundTripsSemantic_iff (names : NameMap) (name : String) :
    names.roundTripsSemantic name = true ↔
      ComesBack names.engineNames names.semanticNames name := by
  rw [roundTripsSemantic, beq_iff_eq, Option.bind_eq_some_iff]
  rfl

theorem roundTripsEngine_iff (names : NameMap) (name : String) :
    names.roundTripsEngine name = true ↔
      ComesBack names.semanticNames names.engineNames name := by
  rw [roundTripsEngine, beq_iff_eq, Option.bind_eq_some_iff]
  rfl

/-! ## A search for a broken name -/

section Searching

variable {comesBack : String → Bool}

theorem find?_eq_none_iff (decides : ∀ name, comesBack name = true ↔ ComesBack there back name) :
    ((there.map Prod.fst).find? fun name => !comesBack name) = none ↔
      ∀ name ∈ there.map Prod.fst, ComesBack there back name := by
  simp only [List.find?_eq_none, Bool.not_eq_true', Bool.not_eq_false, decides]

theorem find?_eq_some_iff (decides : ∀ name, comesBack name = true ↔ ComesBack there back name) :
    ((there.map Prod.fst).find? fun name => !comesBack name) = some name ↔
      FirstBroken there back name := by
  have broken : ∀ name, comesBack name = false ↔ ¬ComesBack there back name := fun name => by
    rw [← decides, Bool.not_eq_true]
  simp only [List.find?_eq_some_iff_append, Bool.not_eq_true', Bool.not_not, broken, decides,
    FirstBroken]
  constructor
  · rintro ⟨lost, before, after, split, earlier⟩
    exact ⟨before, after, split, lost, earlier⟩
  · rintro ⟨before, after, split, lost, earlier⟩
    exact ⟨lost, before, after, split, earlier⟩

end Searching

/-! ## From the listed names to all names -/

theorem mem_of_lookup {counterpart : String} (found : there.lookup name = some counterpart) :
    name ∈ there.map Prod.fst := by
  obtain ⟨before, after, rfl, -⟩ := List.lookup_eq_some_iff.mp found
  simp

theorem exists_lookup_of_mem (listed : name ∈ there.map Prod.fst) :
    ∃ counterpart, there.lookup name = some counterpart := by
  obtain ⟨row, among, rfl⟩ := List.mem_map.mp listed
  exact Option.isSome_iff_exists.mp (List.lookup_isSome_iff.mpr ⟨row, among, beq_self_eq_true _⟩)

theorem forall_comesBack_iff :
    (∀ name ∈ there.map Prod.fst, ComesBack there back name) ↔
      ∀ name counterpart, there.lookup name = some counterpart →
        back.lookup counterpart = some name := by
  constructor
  · intro listed name counterpart found
    -- a row that an earlier one hides counts for neither side, so both lookups are of one row
    obtain ⟨other, found', leadsBack⟩ := listed name (mem_of_lookup found)
    obtain rfl := Option.some.inj (found.symm.trans found')
    exact leadsBack
  · intro leadsBack name listed
    obtain ⟨counterpart, found⟩ := exists_lookup_of_mem listed
    exact ⟨counterpart, found, leadsBack name counterpart found⟩

/--
No name is broken if and only if the two directions are inverse to each other on all names. A broken
name is the first one of the plot type that does not come back, or else the first one of the engine.
-/
theorem firstBroken?_inverse (names : NameMap) :
    (names.firstBroken? = none ↔
      ∀ semantic engine, names.toEngine? semantic = some engine ↔
        names.toSemantic? engine = some semantic) ∧
    ∀ name, names.firstBroken? = some name ↔
      FirstBroken names.engineNames names.semanticNames name ∨
        (∀ semantic ∈ names.engineNames.map Prod.fst,
          ComesBack names.engineNames names.semanticNames semantic) ∧
        FirstBroken names.semanticNames names.engineNames name := by
  constructor
  · rw [firstBroken?, Option.or_eq_none_iff, find?_eq_none_iff names.roundTripsSemantic_iff,
      find?_eq_none_iff names.roundTripsEngine_iff, forall_comesBack_iff, forall_comesBack_iff]
    constructor
    · rintro ⟨toSemantic, toEngine⟩ s e
      exact ⟨toSemantic s e, toEngine e s⟩
    · intro inverse
      exact ⟨fun s e => (inverse s e).mp, fun e s => (inverse s e).mpr⟩
  · intro name
    rw [firstBroken?, Option.or_eq_some_iff, find?_eq_some_iff names.roundTripsSemantic_iff,
      find?_eq_none_iff names.roundTripsSemantic_iff,
      find?_eq_some_iff names.roundTripsEngine_iff]

/-- A second name for the intervals, which is the name of the columns on the way back. -/
example :
    let names : NameMap :=
      { engineNames := [("column", "interval"), ("bar", "interval"), ("column", "point")]
        semanticNames := [("interval", "column"), ("point", "dot")] }
    names.firstBroken? = some "bar" := rfl

end NameMap

end Charting
