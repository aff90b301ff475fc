import Charting.Proofs.Options.Grouping

/-!
# Resolving again

What was resolved already holds all that the later two sources say. Laid over it once more, the
defaults undo what the caller asked for, and the caller's options restore it, each key in its place.
-/

namespace Charting

namespace OptionTree

variable {t lower middle upper source value : OptionTree} {key : String}
  {target below between above : OptionMap}

theorem WellKeyed.fields (h : t.WellKeyed) : (OptionTree.obj t.fields).WellKeyed := by
  rcases object?_eq_none_or t with bare | ⟨entries, rfl⟩
  · have none_there : t.fields = [] := by simp [OptionTree.fields, bare]
    rw [none_there]
    simp [WellKeyed, WellKeyedFields, Entries.WellKeyed, Entries.keys]
  · exact h

/-- What is under a key of a well-keyed tree, or null, is well keyed. -/
theorem WellKeyed.childD (h : t.WellKeyed) (key : String) :
    ((Entries.get? t.fields key).getD .null).WellKeyed := by
  cases found : Entries.get? t.fields key with
  | none => simp [WellKeyed]
  | some child => exact h.fields.child found

/-- Merging with an object is merging with its fields, which other values have none of. -/
theorem merge_obj (keyed : Entries.WellKeyed above) :
    t.merge (.obj above) = .obj (mergeFields t.fields above) := by
  rcases object?_eq_none_or t with bare | ⟨below, rfl⟩
  · rw [merge_obj_of_object?_eq_none bare, OptionTree.fields, bare, Option.getD_none,
      nil_mergeFields keyed]
  · exact obj_merge_obj

theorem get?_mergeFields_of_get? (keyed : Entries.WellKeyed above)
    (h : Entries.get? above key = some value) :
    Entries.get? (mergeFields target above) key =
      some (((Entries.get? target key).getD .null).merge value) := by
  rw [get?_mergeFields keyed, h, Option.elim_some]
  cases Entries.get? target key with
  | none => exact congrArg some (leaf_merge rfl value).symm
  | some existing => rfl

theorem get?_mergeFields_of_get?_eq_none (keyed : Entries.WellKeyed above)
    (h : Entries.get? above key = none) :
    Entries.get? (mergeFields target above) key = Entries.get? target key := by
  rw [get?_mergeFields keyed, h, Option.elim_none]

/-! ## Taking in what is there already -/

theorem keys_subset_mergeFields (keyed : Entries.WellKeyed above) :
    Entries.keys above ⊆ Entries.keys (mergeFields target above) := by
  intro key present
  rw [keys_mergeFields keyed, List.mem_append, List.mem_filter, decide_eq_true_eq]
  by_cases known : key ∈ Entries.keys target
  · exact .inl known
  · exact .inr ⟨present, known⟩

theorem subset_keys_mergeFields (keyed : Entries.WellKeyed above) :
    Entries.keys target ⊆ Entries.keys (mergeFields target above) := by
  intro key present
  rw [keys_mergeFields keyed]
  exact List.mem_append_left _ present

theorem keys_mergeFields_of_subset (keyed : Entries.WellKeyed above)
    (known : Entries.keys above ⊆ Entries.keys target) :
    Entries.keys (mergeFields target above) = Entries.keys target := by
  have nothing_new : ((Entries.keys above).filter fun key =>
      decide (key ∉ Entries.keys target)) = [] :=
    List.filter_eq_nil_iff.mpr fun key present => by simpa using known present
  rw [keys_mergeFields keyed, nothing_new, List.append_nil]

/-- A source that has been laid over a tree can be laid over it again without a trace. -/
theorem merge_merge_self (keyed : t.WellKeyed) (keyedSource : source.WellKeyed) :
    (t.merge source).merge source = t.merge source := by
  induction source using childInduction generalizing t with
  | node source ih =>
      rcases object?_eq_none_or source with leaf | ⟨above, rfl⟩
      · simp only [merge_of_object?_eq_none leaf]
      have keyedAbove := keyedSource.keys
      simp only [merge_obj keyedAbove, fields_obj, obj.injEq]
      have keyedFields : Entries.WellKeyed (mergeFields t.fields above) :=
        wellKeyed_mergeFields keyed.fields.keys
      apply (wellKeyed_mergeFields keyedFields).ext
      · exact keys_mergeFields_of_subset keyedAbove (keys_subset_mergeFields keyedAbove)
      · intro key
        cases under : Entries.get? above key with
        | none => exact get?_mergeFields_of_get?_eq_none keyedAbove under
        | some child =>
            rw [get?_mergeFields_of_get? keyedAbove under,
              get?_mergeFields_of_get? keyedAbove under, Option.getD_some]
            exact congrArg some (ih key child under (keyed.childD key) (keyedSource.child under))

/--
Two sources laid over a merge of both change nothing. By induction on the upper one: under a key
that both have, the children do the same.
-/
theorem merge_merge_again (keyedLower : lower.WellKeyed) (keyedMiddle : middle.WellKeyed)
    (keyedUpper : upper.WellKeyed) :
    (((lower.merge middle).merge upper).merge middle).merge upper =
      (lower.merge middle).merge upper := by
  induction upper using childInduction generalizing lower middle with
  | node upper ih =>
      rcases object?_eq_none_or upper with leaf | ⟨above, rfl⟩
      · simp only [merge_of_object?_eq_none leaf]
      rcases object?_eq_none_or middle with leaf | ⟨between, rfl⟩
      · simp only [merge_of_object?_eq_none leaf, merge_obj_of_object?_eq_none leaf]
      have keyedBetween := keyedMiddle.keys
      have keyedAbove := keyedUpper.keys
      simp only [merge_obj keyedBetween, merge_obj keyedAbove, fields_obj, obj.injEq]
      let known := mergeFields (mergeFields lower.fields between) above
      have keyed : Entries.WellKeyed known :=
        wellKeyed_mergeFields (wellKeyed_mergeFields keyedLower.fields.keys)
      have betweenKnown : Entries.keys between ⊆ Entries.keys known :=
        List.Subset.trans (keys_subset_mergeFields keyedBetween)
          (subset_keys_mergeFields keyedAbove)
      have aboveKnown : Entries.keys above ⊆ Entries.keys known :=
        keys_subset_mergeFields keyedAbove
      have keysBetween : Entries.keys (mergeFields known between) = Entries.keys known :=
        keys_mergeFields_of_subset keyedBetween betweenKnown
      have refilled : Entries.WellKeyed (mergeFields (mergeFields known between) above) :=
        wellKeyed_mergeFields (wellKeyed_mergeFields keyed)
      apply refilled.ext
      · rw [keys_mergeFields_of_subset keyedAbove (keysBetween ▸ aboveKnown), keysBetween]
      · intro key
        have child := keyedLower.childD key
        cases hupper : Entries.get? above key with
        | none =>
            rw [get?_mergeFields_of_get?_eq_none keyedAbove hupper]
            cases hmiddle : Entries.get? between key with
            | none => exact get?_mergeFields_of_get?_eq_none keyedBetween hmiddle
            | some m =>
                rw [get?_mergeFields_of_get? keyedBetween hmiddle,
                  get?_mergeFields_of_get?_eq_none keyedAbove hupper,
                  get?_mergeFields_of_get? keyedBetween hmiddle, Option.getD_some]
                exact congrArg some (merge_merge_self child (keyedMiddle.child hmiddle))
        | some u =>
            rw [get?_mergeFields_of_get? keyedAbove hupper]
            cases hmiddle : Entries.get? between key with
            | none =>
                rw [get?_mergeFields_of_get?_eq_none keyedBetween hmiddle,
                  get?_mergeFields_of_get? keyedAbove hupper,
                  get?_mergeFields_of_get?_eq_none keyedBetween hmiddle, Option.getD_some]
                exact congrArg some (merge_merge_self child (keyedUpper.child hupper))
            | some m =>
                rw [get?_mergeFields_of_get? keyedBetween hmiddle,
                  get?_mergeFields_of_get? keyedAbove hupper,
                  get?_mergeFields_of_get? keyedBetween hmiddle, Option.getD_some,
                  Option.getD_some, Option.getD_some]
                exact congrArg some (ih key u hupper child (keyedMiddle.child hmiddle)
                  (keyedUpper.child hupper))

end OptionTree

namespace Options

variable {base defaults user : OptionTree}

/-- Resolved options are those of the last source over those of the others, whatever these are. -/
theorem resolve_eq (keyedBase : Entries.WellKeyed base.fields)
    (configured : isConfiguration user = true) :
    resolve base defaults user =
      .ok ⟨((OptionTree.obj base.fields).merge (.obj defaults.fields)).merge (.obj user.fields)⟩ := by
  rw [resolve, if_pos configured, OptionTree.mergeObject_obj, OptionTree.mergeObject_obj,
    OptionTree.mergeObject_obj, OptionTree.nil_mergeFields keyedBase, OptionTree.obj_merge_obj,
    OptionTree.obj_merge_obj]

/-- Options that were resolved for a caller resolve to themselves for the same caller. -/
theorem resolve_resolved (keyedBase : base.WellKeyed) (keyedDefaults : defaults.WellKeyed)
    (keyedUser : user.WellKeyed) (configured : user = .null ∨ ∃ fields, user = .obj fields) :
    ∃ resolved, resolve base defaults user = .ok resolved ∧
      resolve resolved.root defaults user = .ok resolved := by
  have taken : isConfiguration user = true := by
    rcases configured with rfl | ⟨fields, rfl⟩ <;> rfl
  let merged :=
    OptionTree.mergeFields (OptionTree.mergeFields base.fields defaults.fields) user.fields
  have keyed := keyedBase.fields.keys
  have keyedMerged : Entries.WellKeyed merged :=
    OptionTree.wellKeyed_mergeFields (OptionTree.wellKeyed_mergeFields keyed)
  have first : resolve base defaults user = .ok ⟨.obj merged⟩ := by
    rw [resolve_eq keyed taken, OptionTree.obj_merge_obj, OptionTree.obj_merge_obj]
  have second : resolve (.obj merged) defaults user = .ok _ := resolve_eq keyedMerged taken
  have again := OptionTree.merge_merge_again keyedBase.fields keyedDefaults.fields keyedUser.fields
  rw [OptionTree.obj_merge_obj, OptionTree.obj_merge_obj] at again
  refine ⟨⟨.obj merged⟩, first, second.trans ?_⟩
  rw [OptionTree.fields_obj, again]

/-- The default hides the legend and the caller shows it, so that resolving again has to hide it
once more in between. -/
theorem resolve_resolved_legend :
    ∃ resolved,
      resolve (.obj (ofLegend legendBelow)) (.obj (ofLegend (.bool false)))
        (.obj (ofLegend (.shown true))) = .ok resolved ∧
      resolve resolved.root (.obj (ofLegend (.bool false))) (.obj (ofLegend (.shown true))) =
        .ok resolved := by
  have keyedBelow : legendBelow.WellKeyed := by
    simp [legendBelow, OptionTree.shown, OptionTree.WellKeyed, OptionTree.WellKeyedFields,
      Entries.WellKeyed, Entries.keys]
  have keyedOff : (OptionTree.bool false).WellKeyed := by simp [OptionTree.WellKeyed]
  have keyedShown : (OptionTree.shown true).WellKeyed := by
    simp [OptionTree.shown, OptionTree.WellKeyed, OptionTree.WellKeyedFields, Entries.WellKeyed,
      Entries.keys]
  exact resolve_resolved (wellKeyed_ofLegend keyedBelow) (wellKeyed_ofLegend keyedOff)
    (wellKeyed_ofLegend keyedShown) (.inr ⟨_, rfl⟩)

end Options

end Charting
