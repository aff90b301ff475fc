import Charting.Options.Defaults
import Charting.Proofs.Options.Merging
import Charting.Proofs.Options.WellKeyed

/-!
# Grouping the sources of a merge

Three sources are laid over one another from the bottom up. Merging the upper two first gives the
same, except where the middle source replaces an object and the upper one puts an object in the
place: merged first, the upper two no longer hide what the lower source has there.
-/

namespace Charting

namespace OptionTree

variable {lower middle upper : OptionTree} {below between above : OptionMap}

/-! ## Where the grouping shows -/

/-- Wherever the middle tree has some other value in the place of an object of the lower tree, an
object of the upper tree takes nothing over from the lower one. -/
def Regroups (lower middle upper : OptionTree) : Prop :=
  ∀ path below value above, lower.find? path = some (.obj below) →
    middle.find? path = some value → value.object? = none →
    upper.find? path = some (.obj above) → mergeFields below above = above

theorem regroups_of_lower (h : lower.object? = none) : Regroups lower middle upper := by
  intro path below value above hlower
  exact absurd hlower (eq_of_find?_obj h)

theorem regroups_of_upper (h : upper.object? = none) : Regroups lower middle upper := by
  intro path below value above _ _ _ hupper
  exact absurd hupper (eq_of_find?_obj h)

theorem regroups_replaced (h : middle.object? = none) :
    Regroups (.obj below) middle (.obj above) ↔ mergeFields below above = above := by
  constructor
  · intro same
    exact same [] below middle above rfl rfl h rfl
  · intro same path below' value above' hlower hmiddle _ hupper
    cases path with
    | nil =>
        cases hlower
        cases hupper
        exact same
    | cons key rest =>
        rw [find?_cons_of_object?_eq_none h] at hmiddle
        cases hmiddle

theorem regroups_obj :
    Regroups (.obj below) (.obj between) (.obj above) ↔
      ∀ key lower middle upper, Entries.get? below key = some lower →
        Entries.get? between key = some middle → Entries.get? above key = some upper →
        Regroups lower middle upper := by
  constructor
  · intro h key lower middle upper hlower hmiddle hupper path
    have under := h (key :: path)
    simpa only [find?, get?, fields_obj, hlower, hmiddle, hupper, Option.bind_some] using under
  · intro h path below' value above' hlower hmiddle leaf hupper
    cases path with
    | nil =>
        cases hmiddle
        cases leaf
    | cons key rest =>
        simp only [find?, get?, fields_obj, Option.bind_eq_some_iff] at hlower hmiddle hupper
        obtain ⟨lower, foundLower, hlower⟩ := hlower
        obtain ⟨middle, foundMiddle, hmiddle⟩ := hmiddle
        obtain ⟨upper, foundUpper, hupper⟩ := hupper
        exact h key lower middle upper foundLower foundMiddle foundUpper rest below' value above'
          hlower hmiddle leaf hupper

/-! ## Merging in two orders -/

theorem keys_mergeFields_mergeFields (keyedBetween : Entries.WellKeyed between)
    (keyedAbove : Entries.WellKeyed above) :
    Entries.keys (mergeFields (mergeFields below between) above) =
      Entries.keys (mergeFields below (mergeFields between above)) := by
  rw [keys_mergeFields keyedAbove, keys_mergeFields keyedBetween,
    keys_mergeFields (wellKeyed_mergeFields keyedBetween), keys_mergeFields keyedAbove,
    List.filter_append, List.append_assoc, List.filter_filter]
  congr 2
  apply List.filter_congr
  intro key _
  by_cases hbelow : key ∈ Entries.keys below <;> simp [hbelow]

/-- Objects merge alike in both orders when the values under each common key do. -/
theorem mergeFields_mergeFields_iff (keyedBelow : Entries.WellKeyed below)
    (keyedBetween : Entries.WellKeyed between) (keyedAbove : Entries.WellKeyed above) :
    mergeFields (mergeFields below between) above = mergeFields below (mergeFields between above) ↔
      ∀ key lower middle upper, Entries.get? below key = some lower →
        Entries.get? between key = some middle → Entries.get? above key = some upper →
        (lower.merge middle).merge upper = lower.merge (middle.merge upper) := by
  have keyedUpper : Entries.WellKeyed (mergeFields between above) :=
    wellKeyed_mergeFields keyedBetween
  constructor
  · intro same key lower middle upper hlower hmiddle hupper
    have under := congrArg (Entries.get? · key) same
    simpa only [get?_mergeFields keyedAbove, get?_mergeFields keyedBetween,
      get?_mergeFields keyedUpper, hlower, hmiddle, hupper, Option.elim_some,
      Option.some.injEq] using under
  · intro same
    have keyed : Entries.WellKeyed (mergeFields (mergeFields below between) above) :=
      wellKeyed_mergeFields (wellKeyed_mergeFields keyedBelow)
    apply keyed.ext (keys_mergeFields_mergeFields keyedBetween keyedAbove)
    intro key
    rw [get?_mergeFields keyedAbove, get?_mergeFields keyedBetween, get?_mergeFields keyedUpper,
      get?_mergeFields keyedAbove]
    cases hupper : Entries.get? above key with
    | none => rfl
    | some upper =>
        cases hmiddle : Entries.get? between key with
        | none => rfl
        | some middle =>
            cases hlower : Entries.get? below key with
            | none => rfl
            | some lower => exact congrArg some (same key lower middle upper hlower hmiddle hupper)

theorem merge_merge_iff (keyedLower : lower.WellKeyed) (keyedMiddle : middle.WellKeyed)
    (keyedUpper : upper.WellKeyed) :
    (lower.merge middle).merge upper = lower.merge (middle.merge upper) ↔
      Regroups lower middle upper := by
  induction upper using childInduction generalizing lower middle with
  | node upper ih =>
      rcases object?_eq_none_or upper with leaf | ⟨above, rfl⟩
      · simp only [merge_of_object?_eq_none leaf, regroups_of_upper leaf]
      rcases object?_eq_none_or middle with leaf | ⟨between, rfl⟩
      · rcases object?_eq_none_or lower with bottom | ⟨below, rfl⟩
        · simp only [merge_of_object?_eq_none leaf, merge_obj_of_object?_eq_none leaf,
            merge_obj_of_object?_eq_none bottom, regroups_of_lower bottom]
        · rw [merge_of_object?_eq_none leaf, merge_obj_of_object?_eq_none leaf, obj_merge_obj,
            obj.injEq, regroups_replaced leaf]
          exact eq_comm
      · rcases object?_eq_none_or lower with bottom | ⟨below, rfl⟩
        · simp only [obj_merge_obj, merge_obj_of_object?_eq_none bottom, regroups_of_lower bottom]
        · rw [obj_merge_obj, obj_merge_obj, obj_merge_obj, obj_merge_obj, obj.injEq, regroups_obj,
            mergeFields_mergeFields_iff keyedLower.keys keyedMiddle.keys keyedUpper.keys]
          -- Both sides range over the keys of all three trees, and the children decide.
          refine forall₄_congr fun key lower middle upper => ?_
          refine imp_congr_right fun hlower => imp_congr_right fun hmiddle =>
            imp_congr_right fun hupper => ?_
          exact ih key upper hupper (keyedLower.child hlower) (keyedMiddle.child hmiddle)
            (keyedUpper.child hupper)

end OptionTree

namespace Options

variable {base defaults user : OptionMap}

/-- Three sources resolve to the same options as the first one with the other two merged, exactly
when they regroup. -/
theorem resolve_grouped (keyedBase : (OptionTree.obj base).WellKeyed)
    (keyedDefaults : (OptionTree.obj defaults).WellKeyed)
    (keyedUser : (OptionTree.obj user).WellKeyed) :
    ∃ three two : Options,
      resolve (.obj base) (.obj defaults) (.obj user) = .ok three ∧
      resolve (.obj base) ((OptionTree.obj defaults).merge (.obj user)) .null = .ok two ∧
      (three = two ↔ OptionTree.Regroups (.obj base) (.obj defaults) (.obj user)) := by
  refine ⟨⟨((OptionTree.obj base).merge (.obj defaults)).merge (.obj user)⟩,
    ⟨(OptionTree.obj base).merge ((OptionTree.obj defaults).merge (.obj user))⟩, ?_, ?_, ?_⟩
  · simp only [resolve, isConfiguration, ↓reduceIte, OptionTree.mergeObject,
      OptionTree.obj_merge_obj, OptionTree.nil_mergeFields keyedBase.keys]
  · simp only [resolve, isConfiguration, ↓reduceIte, OptionTree.mergeObject,
      OptionTree.obj_merge_obj, OptionTree.nil_mergeFields keyedBase.keys]
  · rw [Options.mk.injEq]
    exact OptionTree.merge_merge_iff keyedBase keyedDefaults keyedUser

/-! ## A legend that is turned off in between -/

/-- Options that speak of the legend only. -/
def ofLegend (legend : OptionTree) : OptionMap := [("legend", legend)]

def legendBelow : OptionTree := .shown true [("position", .str "bottom-center")]
def legendAside : OptionTree := .shown true [("position", .str "top-left")]

theorem wellKeyed_ofLegend {legend : OptionTree} (h : legend.WellKeyed) :
    (OptionTree.obj (ofLegend legend)).WellKeyed := by
  simp [ofLegend, OptionTree.WellKeyed, OptionTree.WellKeyedFields, Entries.WellKeyed,
    Entries.keys, h]

/-- A caller who says anew all that was said of the legend finds no difference. -/
theorem resolve_grouped_aside :
    resolve (.obj (ofLegend legendBelow)) (.obj (ofLegend (.bool false)))
        (.obj (ofLegend legendAside)) =
      resolve (.obj (ofLegend legendBelow))
        ((OptionTree.obj (ofLegend (.bool false))).merge (.obj (ofLegend legendAside))) .null := by
  have keyedBelow : legendBelow.WellKeyed := by
    simp [legendBelow, OptionTree.shown, OptionTree.WellKeyed, OptionTree.WellKeyedFields,
      Entries.WellKeyed, Entries.keys]
  have keyedAside : legendAside.WellKeyed := by
    simp [legendAside, OptionTree.shown, OptionTree.WellKeyed, OptionTree.WellKeyedFields,
      Entries.WellKeyed, Entries.keys]
  have keyedOff : (OptionTree.bool false).WellKeyed := by simp [OptionTree.WellKeyed]
  obtain ⟨three, two, hthree, htwo, same⟩ := resolve_grouped (wellKeyed_ofLegend keyedBelow)
    (wellKeyed_ofLegend keyedOff) (wellKeyed_ofLegend keyedAside)
  have regroups : OptionTree.Regroups (.obj (ofLegend legendBelow))
      (.obj (ofLegend (.bool false))) (.obj (ofLegend legendAside)) := by
    rw [OptionTree.regroups_obj]
    intro key lower middle upper hlower hmiddle hupper
    by_cases hk : "legend" = key
    · simp only [ofLegend, Entries.get?, hk, ↓reduceIte, Option.some.injEq] at hlower hmiddle hupper
      rw [← hlower, ← hmiddle, ← hupper]
      refine (OptionTree.regroups_replaced rfl).mpr ?_
      simp [OptionTree.mergeFields, Entries.update, OptionTree.merge]
    · simp [ofLegend, Entries.get?, hk] at hlower
  rw [hthree, htwo, same.mpr regroups]

/-- A caller who only turns the legend on again gets it with the position of the first source when
the other two are merged first, and without a position when they are not. -/
theorem resolve_ungrouped_shown :
    ∃ three two : Options,
      resolve (.obj (ofLegend legendBelow)) (.obj (ofLegend (.bool false)))
        (.obj (ofLegend (.shown true))) = .ok three ∧
      resolve (.obj (ofLegend legendBelow))
        ((OptionTree.obj (ofLegend (.bool false))).merge (.obj (ofLegend (.shown true)))) .null =
        .ok two ∧
      three ≠ two ∧ (three == two) = false := by
  refine ⟨⟨.obj (ofLegend (.shown true))⟩, ⟨.obj (ofLegend legendBelow)⟩, rfl, rfl, ?_, rfl⟩
  simp [ofLegend, legendBelow, OptionTree.shown]

end Options

end Charting
