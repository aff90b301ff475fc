import Charting.Options.Path
import Charting.Proofs.AxisSettings

/-!
# Free options beside typed settings

An axis and a label may be given options without a type besides their typed settings. A typed
setting has a path of its own, some of them inside an object; but it is written by setting the whole
key on which that path begins. Free options under any other key stand as they are.
-/

namespace Charting

section Tables

variable {table : Entries (Option OptionTree)} {free : OptionMap} {key : String}

/-! ## Paths of typed settings -/

/-- The paths of the settings that were made; those that share an object own its keys only. -/
inductive Owns (table : Entries (Option OptionTree)) : List String → Prop where
  | key {key : String} {value : OptionTree} (made : (key, some value) ∈ table)
      (plain : value.object? = none) : Owns table [key]
  | inner {key inside : String} {fields : OptionMap} (made : (key, some (.obj fields)) ∈ table)
      (known : inside ∈ Entries.keys fields) : Owns table [key, inside]

/-- No setting is written as an object without keys. -/
def Full (table : Entries (Option OptionTree)) : Prop :=
  ∀ key, (key, some (.obj [])) ∉ table

theorem Owns.isSome {own : List String} (h : Owns table own) (keyed : Entries.WellKeyed table)
    (first : own.head? = some key) : ((Entries.get? table key).join).isSome := by
  cases h with
  | key made plain | inner made known =>
      cases first
      rw [keyed.get?_eq_some_iff.mpr made]
      rfl

theorem exists_owns (full : Full table) (made : ((Entries.get? table key).join).isSome) :
    ∃ own, Owns table own ∧ own.head? = some key := by
  obtain ⟨value, found⟩ := Option.isSome_iff_exists.mp made
  have member := Entries.mem_of_get? (Option.join_eq_some_iff.mp found)
  cases object : value.object? with
  | none => exact ⟨[key], .key member object, rfl⟩
  | some fields =>
      obtain rfl : value = .obj fields := by
        cases value <;> cases object
        rfl
      cases fields with
      | nil => exact absurd member (full key)
      | cons entry rest =>
          exact ⟨[key, entry.1], .inner member (List.mem_cons_self), rfl⟩

/-- Where the only setting is an object with one key, the path to that key is the only one owned. -/
theorem Owns.eq_of_alone {own : List String} {inside : String} {value : OptionTree}
    (alone : ∀ k v, (k, some v) ∈ table → k = key ∧ v = .obj [(inside, value)])
    (h : Owns table own) : own = [key, inside] := by
  cases h with
  | key made plain =>
      obtain ⟨rfl, rfl⟩ := alone _ _ made
      cases plain
  | inner made known =>
      obtain ⟨rfl, same⟩ := alone _ _ made
      cases same
      obtain rfl : _ = inside := by simpa [Entries.keys] using known
      rfl

/-! ## Settings over free options -/

theorem find?_lay (keyed : Entries.WellKeyed table) (rest : List String) :
    (OptionTree.obj (Entries.lay table free)).find? (key :: rest) =
      ((Entries.get? table key).join.or (Entries.get? free key)).bind
        fun child => child.find? rest := by
  rw [← Entries.get?_lay keyed]
  rfl

/-- Where options stand that are made of typed settings and free options. -/
structure Beside (table : Entries (Option OptionTree)) (free typed all : OptionMap) : Prop where
  kept : ∀ path value, value.object? = none → (OptionTree.obj free).find? path = some value →
    (∀ own, Owns table own → own.head? ≠ path.head?) →
    (OptionTree.obj all).find? path = some value
  taken : ∀ path own, Owns table own → own.head? = path.head? →
    (OptionTree.obj all).find? path = (OptionTree.obj typed).find? path

theorem beside_lay (keyed : Entries.WellKeyed table) (full : Full table) (free : OptionMap) :
    Beside table free (Entries.lay table []) (Entries.lay table free) where
  kept path value leaf found apart := by
    cases path with
    | nil =>
        cases found
        cases leaf
    | cons key rest =>
        -- a setting under this key would own a path that begins with it
        have unmade : (Entries.get? table key).join = none := by
          by_contra made
          obtain ⟨own, owns, first⟩ := exists_owns full (Option.isSome_iff_ne_none.mpr made)
          exact apart own owns first
        rw [find?_lay keyed, unmade, Option.none_or]
        exact found
  taken path own owns same := by
    cases path with
    | nil => cases owns <;> cases same
    | cons key rest =>
        obtain ⟨value, made⟩ := Option.isSome_iff_exists.mp (owns.isSome keyed same)
        rw [find?_lay keyed, find?_lay keyed, made, Option.some_or, Option.some_or]

end Tables

/-! ## Axes and labels -/

namespace LabelSettings

/-- The typed settings, with none for those that were not made. -/
def table (s : LabelSettings) : Entries (Option OptionTree) :=
  [("visible", s.visible.map .bool), ("position", s.position.map .str),
    ("offset", s.offset.map .num), ("style", if s.style.isEmpty then none else some (.obj s.style)),
    ("formatter", s.formatter.map .fn)]

theorem wellKeyed_table (s : LabelSettings) : Entries.WellKeyed s.table := by
  simp [Entries.WellKeyed, Entries.keys, table]

theorem full_table (s : LabelSettings) : Full s.table := by
  intro key made
  simp only [table, List.mem_cons, Prod.mk.injEq, List.not_mem_nil, or_false] at made
  obtain ⟨-, same⟩ | ⟨-, same⟩ | ⟨-, same⟩ | ⟨-, same⟩ | ⟨-, same⟩ := made
  case inr.inr.inr.inl =>
    split at same
    · cases same
    · rename_i filled
      exact filled (by simpa using same.symm)
  all_goals simp at same

theorem toOptions_eq (s : LabelSettings) : s.toOptions = Entries.lay s.table s.extra := by
  have style (entries : OptionMap) : Entries.insertObject "style" s.style entries =
      Entries.insertSome "style" (if s.style.isEmpty then none else some (.obj s.style))
        entries := by
    rw [Entries.insertObject]
    split <;> rfl
  rw [toOptions, style]
  rfl

end LabelSettings

theorem AxisSettings.full_table (s : AxisSettings) : Full s.table := by
  intro key made
  simp [AxisSettings.table] at made

/--
A value that is not an object stands where the caller put it among the free options of an axis or a
label, unless the path of a typed setting that was made begins with the same key. What stands under
such a key is of typed settings alone.
-/
theorem beside_toOptions :
    (∀ s : AxisSettings,
      Beside s.table s.extra ({ s with extra := [] } : AxisSettings).toOptions s.toOptions) ∧
    ∀ s : LabelSettings,
      Beside s.table s.extra ({ s with extra := [] } : LabelSettings).toOptions s.toOptions := by
  constructor
  · intro s
    exact beside_lay s.wellKeyed_table s.full_table s.extra
  · intro s
    rw [LabelSettings.toOptions_eq, LabelSettings.toOptions_eq]
    exact beside_lay s.wellKeyed_table s.full_table s.extra

/-- The grid of an axis stands beside the visibility of its title. -/
theorem grid_kept :
    let s : AxisSettings :=
      { titleVisible := some true, extra := [("grid", .obj [("dash", .num 4)])] }
    (∀ own, Owns s.table own → own.head? ≠ some "grid") ∧
      (OptionTree.obj s.toOptions).find? ["grid", "dash"] = some (.num 4) := by
  intro s
  have apart : ∀ own, Owns s.table own → own.head? ≠ some "grid" := by
    intro own owns first
    have made := owns.isSome s.wellKeyed_table first
    cases made
  exact ⟨apart, (beside_toOptions.1 s).kept ["grid", "dash"] (.num 4) rfl rfl apart⟩

/--
No path of a typed setting is a beginning of that of the text of a title, or of the size of a font.
They are lost nevertheless, to the visibility of the title and to another key of the style.
-/
theorem siblings_lost :
    let axis : AxisSettings :=
      { titleVisible := some true, extra := [("title", .obj [("text", .str "Sales")])] }
    let label : LabelSettings :=
      { style := [("fill", .str "red")], extra := [("style", .obj [("fontSize", .num 9)])] }
    ((OptionTree.obj axis.extra).find? ["title", "text"] = some (.str "Sales") ∧
      (∀ own, Owns axis.table own → ¬ own <+: ["title", "text"]) ∧
      (OptionTree.obj axis.toOptions).find? ["title", "text"] = none) ∧
    (OptionTree.obj label.extra).find? ["style", "fontSize"] = some (.num 9) ∧
      (∀ own, Owns label.table own → ¬ own <+: ["style", "fontSize"]) ∧
      (OptionTree.obj label.toOptions).find? ["style", "fontSize"] = none := by
  intro axis label
  refine ⟨⟨rfl, ?_, rfl⟩, rfl, ?_, rfl⟩
  · intro own owns
    have alone : ∀ k v, (k, some v) ∈ axis.table →
        k = "title" ∧ v = .obj [("visible", .bool true)] := by
      simp [axis, AxisSettings.table]
    rw [owns.eq_of_alone alone]
    decide
  · intro own owns
    have alone : ∀ k v, (k, some v) ∈ label.table →
        k = "style" ∧ v = .obj [("fill", .str "red")] := by
      simp [label, LabelSettings.table]
    rw [owns.eq_of_alone alone]
    decide

end Charting
