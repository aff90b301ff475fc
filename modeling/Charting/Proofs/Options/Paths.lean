import Charting.Options.Defaults
import Charting.Proofs.Options.Merging
import Charting.Proofs.Options.WellKeyed

/-!
# What a merge has at a path

A path that the source knows shows what the source has there, merged with what was there if both are
objects. A path that it does not know leads past the last value of the source on the way: if that is
an object, the target shows through, and if not, it hides the target.
-/

namespace Charting

namespace OptionTree

variable {t source inner value : OptionTree} {key : String} {path rest found : List String}
  {below above : OptionMap}

/-! ## How far a path leads -/

/-- The longest beginning of a path at which the tree has a value. -/
def Reaches (t : OptionTree) (path found : List String) : Prop :=
  found <+: path ∧ (t.find? found).isSome ∧
    ∀ other, other <+: path → (t.find? other).isSome → other <+: found

theorem find?_cons_of_get? (h : t.get? key = some inner) :
    t.find? (key :: rest) = inner.find? rest := by
  rw [find?, h, Option.bind_some]

theorem find?_cons_of_get?_eq_none (h : t.get? key = none) : t.find? (key :: rest) = none := by
  rw [find?, h, Option.bind_none]

theorem Reaches.unique {other : List String} (h : Reaches t path found)
    (h' : Reaches t path other) : found = other := by
  have first : found <+: other := h'.2.2 found h.1 h.2.1
  have second : other <+: found := h.2.2 other h'.1 h'.2.1
  exact first.eq_of_length_le second.length_le

theorem reaches_of_get?_eq_none (h : t.get? key = none) : Reaches t (key :: rest) [] := by
  refine ⟨List.nil_prefix, rfl, ?_⟩
  intro other before seen
  cases other with
  | nil => exact List.prefix_refl []
  | cons k more =>
      obtain ⟨rfl, -⟩ := List.cons_prefix_cons.mp before
      simp [find?_cons_of_get?_eq_none h] at seen

theorem Reaches.cons (h : t.get? key = some inner) (reaches : Reaches inner rest found) :
    Reaches t (key :: rest) (key :: found) := by
  obtain ⟨before, seen, longest⟩ := reaches
  refine ⟨List.cons_prefix_cons.mpr ⟨rfl, before⟩, by rwa [find?_cons_of_get? h], ?_⟩
  intro other among seen'
  cases other with
  | nil => exact List.nil_prefix
  | cons k more =>
      obtain ⟨rfl, within⟩ := List.cons_prefix_cons.mp among
      rw [find?_cons_of_get? h] at seen'
      exact List.cons_prefix_cons.mpr ⟨rfl, longest more within seen'⟩

theorem WellKeyed.find? (keyed : t.WellKeyed) (found : t.find? path = some value) :
    value.WellKeyed := by
  induction path generalizing t with
  | nil =>
      obtain rfl := Option.some.inj found
      exact keyed
  | cons key rest ih =>
      simp only [OptionTree.find?, Option.bind_eq_some_iff] at found
      obtain ⟨child, under, found⟩ := found
      cases t with
      | obj fields => exact ih (keyed.child under) found
      | _ => cases under

/-! ## Merging along a path -/

theorem get?_eq_none_of_object?_eq_none (h : t.object? = none) : t.get? key = none := by
  simp [get?, fields, h]

/-- What an object leaves under a key, whatever it is laid over. -/
theorem get?_merge_obj (t : OptionTree) (key : String) (keyed : Entries.WellKeyed above) :
    (t.merge (.obj above)).get? key =
      (Entries.get? above key).elim (t.get? key) fun value =>
        some ((t.get? key).elim value fun existing => existing.merge value) := by
  rcases object?_eq_none_or t with bare | ⟨below, rfl⟩
  · rw [merge_obj_of_object?_eq_none bare, get?_eq_none_of_object?_eq_none bare]
    cases h : Entries.get? above key <;> simp [get?, h]
  · rw [obj_merge_obj]
    exact get?_mergeFields keyed

/-- What lies at a place when a value is laid over what was there. -/
def laid (existing : Option OptionTree) (value : OptionTree) : OptionTree :=
  match existing, value with
  | some (.obj below), .obj above => (OptionTree.obj below).merge (.obj above)
  | _, value => value

theorem merge_eq_laid (t value : OptionTree) : t.merge value = laid (some t) value := by
  rcases object?_eq_none_or value with leaf | ⟨above, rfl⟩
  · rw [merge_of_object?_eq_none leaf]
    cases value with
    | obj => cases leaf
    | _ => cases t <;> rfl
  · rcases object?_eq_none_or t with bare | ⟨below, rfl⟩
    · rw [merge_obj_of_object?_eq_none bare]
      cases t with
      | obj => cases bare
      | _ => rfl
    · rfl

/-- By induction on the path: the source's children are laid over those of the target. -/
theorem find?_merge_of_find? (keyed : source.WellKeyed) (h : source.find? path = some value) :
    (t.merge source).find? path = some (laid (t.find? path) value) := by
  induction path generalizing t source with
  | nil =>
      obtain rfl := Option.some.inj h
      exact congrArg some (merge_eq_laid t source)
  | cons key rest ih =>
      simp only [OptionTree.find?, Option.bind_eq_some_iff] at h
      obtain ⟨child, under, h⟩ := h
      rcases object?_eq_none_or source with leaf | ⟨above, rfl⟩
      · rw [get?_eq_none_of_object?_eq_none leaf] at under
        cases under
      · have merged := get?_merge_obj t key keyed.keys
        rw [show Entries.get? above key = some child from under, Option.elim_some] at merged
        cases existing : t.get? key with
        | none =>
            rw [existing, Option.elim_none] at merged
            rw [find?_cons_of_get? merged, find?_cons_of_get?_eq_none existing, h]
            cases value <;> rfl
        | some inner =>
            rw [existing, Option.elim_some] at merged
            rw [find?_cons_of_get? merged, find?_cons_of_get? existing]
            exact ih (keyed.child under) h

/-- By induction on the path, down to where the source ends. -/
theorem find?_merge_of_reaches (keyed : source.WellKeyed) (missing : source.find? path = none) :
    ∃ found value, Reaches source path found ∧ source.find? found = some value ∧
      (t.merge source).find? path = if value.object?.isSome then t.find? path else none := by
  induction path generalizing t source with
  | nil => cases missing
  | cons key rest ih =>
      rcases object?_eq_none_or source with leaf | ⟨above, rfl⟩
      · refine ⟨[], source, reaches_of_get?_eq_none (get?_eq_none_of_object?_eq_none leaf), rfl, ?_⟩
        rw [merge_of_object?_eq_none leaf, leaf]
        exact missing
      · have merged := get?_merge_obj t key keyed.keys
        cases under : Entries.get? above key with
        | none =>
            refine ⟨[], .obj above, reaches_of_get?_eq_none under, rfl, ?_⟩
            rw [under, Option.elim_none] at merged
            rw [find?, find?, merged]
            rfl
        | some child =>
            have under' : (OptionTree.obj above).get? key = some child := under
            rw [find?_cons_of_get? under'] at missing
            rw [under, Option.elim_some] at merged
            cases existing : t.get? key with
            | none =>
                obtain ⟨found, value, reaches, last, -⟩ :=
                  ih (t := .null) (keyed.child under) missing
                refine ⟨key :: found, value, reaches.cons under', ?_, ?_⟩
                · rwa [find?_cons_of_get? under']
                · rw [existing, Option.elim_none] at merged
                  rw [find?_cons_of_get? merged, find?_cons_of_get?_eq_none existing, missing,
                    ite_self]
            | some inner =>
                obtain ⟨found, value, reaches, last, shown⟩ :=
                  ih (t := inner) (keyed.child under) missing
                refine ⟨key :: found, value, reaches.cons under', ?_, ?_⟩
                · rwa [find?_cons_of_get? under']
                · rw [existing, Option.elim_some] at merged
                  rw [find?_cons_of_get? merged, find?_cons_of_get? existing]
                  exact shown

/--
The meaning of a merge at every path. What the source has there is laid over what the target has;
where the source has nothing, its last value on the way decides whether the target shows. Objects
that merge keep the keys of the target in their places and take the new ones in the order of the
source.
-/
theorem find?_merge (t : OptionTree) (keyed : source.WellKeyed) (path : List String) :
    (∀ value, source.find? path = some value →
      (t.merge source).find? path = some (laid (t.find? path) value)) ∧
    (source.find? path = none →
      ∃ found value, Reaches source path found ∧ source.find? found = some value ∧
        (t.merge source).find? path = if value.object?.isSome then t.find? path else none) ∧
    (∀ below above, t.find? path = some (.obj below) → source.find? path = some (.obj above) →
      ∃ merged, (t.merge source).find? path = some (.obj merged) ∧
        Entries.keys merged = Entries.keys below ++
          (Entries.keys above).filter fun key => decide (key ∉ Entries.keys below)) := by
  refine ⟨fun value h => find?_merge_of_find? keyed h, find?_merge_of_reaches keyed, ?_⟩
  intro below above hbelow habove
  refine ⟨mergeFields below above, ?_, keys_mergeFields (keyed.find? habove).keys⟩
  rw [find?_merge_of_find? keyed habove, hbelow, laid, obj_merge_obj]

/-- A chart with a label and a title, and without a legend. -/
def labelled : OptionTree :=
  .obj [("label", .shown true [("position", .str "top")]), ("legend", .bool false),
    ("title", .shown true)]

/-- What moves the label, turns the legend on and removes the title. -/
def moved : OptionTree :=
  .obj [("legend", .shown true), ("title", .null), ("label", .obj [("offset", .num 4)])]

theorem wellKeyed_moved : moved.WellKeyed := by
  simp [moved, shown, WellKeyed, WellKeyedFields, Entries.WellKeyed, Entries.keys]

/-- The label keeps what is not said anew, the legend is there, and nothing is left of the title. -/
theorem find?_merge_moved :
    (labelled.merge moved).find? ["legend", "visible"] = some (.bool true) ∧
      (labelled.merge moved).find? ["label", "position"] = some (.str "top") ∧
      (labelled.merge moved).find? ["title", "visible"] = none ∧
      ∃ label, (labelled.merge moved).find? ["label"] = some (.obj label) ∧
        Entries.keys label = ["visible", "position", "offset"] := by
  obtain ⟨legend, -, -⟩ := find?_merge labelled wellKeyed_moved ["legend", "visible"]
  obtain ⟨-, position, -⟩ := find?_merge labelled wellKeyed_moved ["label", "position"]
  obtain ⟨-, title, -⟩ := find?_merge labelled wellKeyed_moved ["title", "visible"]
  obtain ⟨-, -, label⟩ := find?_merge labelled wellKeyed_moved ["label"]
  refine ⟨legend _ rfl, ?_, ?_, label _ _ rfl rfl⟩
  · have reaches : Reaches moved ["label", "position"] ["label"] :=
      .cons rfl (reaches_of_get?_eq_none rfl)
    obtain ⟨found, value, reaches', last, shows⟩ := position rfl
    obtain rfl := reaches'.unique reaches
    obtain rfl := Option.some.inj last
    exact shows
  · have reaches : Reaches moved ["title", "visible"] ["title"] :=
      .cons rfl (reaches_of_get?_eq_none rfl)
    obtain ⟨found, value, reaches', last, hides⟩ := title rfl
    obtain rfl := reaches'.unique reaches
    obtain rfl := Option.some.inj last
    exact hides

end OptionTree

end Charting
