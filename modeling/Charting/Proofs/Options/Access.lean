import Charting.Proofs.Options.Paths
import Charting.Proofs.Options.Resolving

/-!
# Reading after a write

A write is seen at its path and below it, leaves objects on the way there, and touches nothing aside.
A value that is no object could as well be merged in, nested under the keys of its path.
-/

namespace Charting

namespace OptionTree

variable {t value : OptionTree} {path other before rest : List String} {key : String}

/-! ## Dotted paths -/

theorem splitDots_eq_splitOn (text : List Char) : splitDots text = text.splitOn '.' := by
  induction text with
  | nil => rfl
  | cons c rest ih =>
      rw [splitDots, List.splitOn_cons_eq_if_modifyHead, ih]
      by_cases dot : c = '.'
      · simp [dot]
      · cases parts : rest.splitOn '.' with
        | nil => exact absurd parts (List.splitOn_ne_nil _ _)
        | cons part parts => simp [dot]

/-- The keys with dots between them are the path again. -/
theorem intercalate_segments (path : String) : String.intercalate "." (segments path) = path := by
  have text : (segments path).map String.toList = splitDots path.toList := by
    simp [segments, Function.comp_def]
  rw [← String.toList_inj, String.toList_intercalate, text, splitDots_eq_splitOn]
  exact List.intercalate_splitOn '.'

theorem segments_inj {path other : String} : segments path = segments other ↔ path = other := by
  refine ⟨fun same => ?_, congrArg segments⟩
  rw [← intercalate_segments path, same, intercalate_segments]

theorem segments_append (path rest : String) :
    segments (path ++ "." ++ rest) = segments path ++ segments rest := by
  have text : (path ++ "." ++ rest).toList = path.toList ++ '.' :: rest.toList := by simp
  rw [segments, text, splitDots_eq_splitOn, List.splitOn_append_cons_self, List.map_append,
    ← splitDots_eq_splitOn, ← splitDots_eq_splitOn, segments, segments]

/-! ## Reading -/

theorem find?_append (t : OptionTree) (path rest : List String) :
    t.find? (path ++ rest) = (t.find? path).bind fun inner => inner.find? rest := by
  induction path generalizing t with
  | nil => rfl
  | cons key more ih =>
      rw [List.cons_append, find?, find?, Option.bind_assoc]
      simp only [ih]

theorem find?_put_append :
    (t.put path value).find? (path ++ rest) = value.find? rest := by
  rw [find?_append, find?_put, Option.bind_some]

theorem find?_put_before :
    ∃ fields, (t.put (before ++ key :: rest) value).find? before = some (.obj fields) := by
  induction before generalizing t with
  | nil => exact ⟨_, rfl⟩
  | cons first more ih =>
      have step : (t.put (first :: (more ++ key :: rest)) value).get? first = some _ :=
        (get?_put_cons t first _ value first).trans (if_pos rfl)
      rw [List.cons_append, find?_cons_of_get? step]
      exact ih

/-- Where the paths part, the write is in another child; up to there both lead through objects that
the write may only have put in the place of something that has no children. -/
theorem find?_put_of_parted (aside : ¬path <+: other) (aside' : ¬other <+: path) :
    (t.put path value).find? other = t.find? other := by
  induction path generalizing t other with
  | nil => exact absurd List.nil_prefix aside
  | cons key rest ih =>
      cases other with
      | nil => exact absurd List.nil_prefix aside'
      | cons first more =>
          rw [find?, get?_put_cons, find?]
          by_cases same : key = first
          · subst same
            have below : ¬rest <+: more := fun h => aside (List.cons_prefix_cons.mpr ⟨rfl, h⟩)
            have above : ¬more <+: rest := fun h => aside' (List.cons_prefix_cons.mpr ⟨rfl, h⟩)
            rw [if_pos rfl, Option.bind_some, ih below above]
            cases found : t.get? key with
            | some child => rfl
            | none =>
                cases more with
                | nil => exact absurd List.nil_prefix above
                | cons => rfl
          · rw [if_neg same]

/-! ## Writing again -/

theorem put_eq_self (found : t.find? path = some value) : t.put path value = t := by
  rw [put_eq_alter]
  exact alter_eq_self found rfl

theorem put_put (later : OptionTree) : (t.put path value).put path later = t.put path later := by
  rw [put_eq_alter, put_eq_alter, put_eq_alter, alter_alter]

/--
What is read after a write: the value at its path and its parts below, an object at the root and at
every beginning of the path, and elsewhere what was there. Writing what is there changes nothing,
and of two writes to one path the later counts alone.
-/
theorem pointer?_setPath (t : OptionTree) (path : String) (value : OptionTree) :
    (t.setPath path value).pointer? path = some value ∧
    (∀ rest, (t.setPath path value).pointer? (path ++ "." ++ rest) = value.pointer? rest) ∧
    (∃ fields, t.setPath path value = .obj fields) ∧
    (∀ before, segments before <+: segments path → before ≠ path →
      ∃ fields, (t.setPath path value).pointer? before = some (.obj fields)) ∧
    (∀ other, ¬segments path <+: segments other → ¬segments other <+: segments path →
      (t.setPath path value).pointer? other = t.pointer? other) ∧
    (t.pointer? path = some value → t.setPath path value = t) ∧
    (∀ later, (t.setPath path value).setPath path later = t.setPath path later) := by
  refine ⟨find?_put t _ value, fun rest => ?_, ?_, ?_, fun other => find?_put_of_parted,
    put_eq_self, put_put⟩
  · rw [pointer?, segments_append]
    exact find?_put_append
  · rw [setPath]
    cases keys : segments path with
    | nil => exact absurd keys (segments_ne_nil path)
    | cons key rest => exact ⟨_, rfl⟩
  · rintro before ⟨more, split⟩ differ
    cases more with
    | nil => exact absurd (segments_inj.mp (by simpa using split)) differ
    | cons key rest =>
        rw [setPath, ← split]
        exact find?_put_before

/-- A title for the legend replaces the `false` that hid the legend, and the label stays. -/
theorem pointer?_setPath_labelled :
    (∃ legend, (labelled.setPath "legend.title" (.shown true)).pointer? "legend" =
      some (.obj legend)) ∧
    (labelled.setPath "legend.title" (.shown true)).pointer? "legend.title.visible" =
      some (.bool true) ∧
    (labelled.setPath "legend.title" (.shown true)).pointer? "label.position" =
      some (.str "top") ∧
    labelled.setPath "legend" (.bool false) = labelled := by
  obtain ⟨-, inside, -, above, aside, -, -⟩ :=
    pointer?_setPath labelled "legend.title" (.shown true)
  obtain ⟨-, -, -, -, -, again, -⟩ := pointer?_setPath labelled "legend" (.bool false)
  refine ⟨above "legend" (by decide +kernel) (by decide), inside "visible", ?_, again rfl⟩
  exact aside "label.position" (by decide +kernel) (by decide +kernel)

/-! ## A write as a merge -/

/-- The value alone, under the keys of a path. -/
def nest (value : OptionTree) : List String → OptionTree
  | [] => value
  | key :: rest => .obj [(key, nest value rest)]

theorem empty_put : (OptionTree.obj []).put path value = nest value path := by
  induction path with
  | nil => rfl
  | cons key rest ih =>
      rw [put, nest, fields_obj, Entries.update, Option.getD_none, ih]

theorem put_eq_merge (leaf : value.object? = none) : t.put path value = t.merge (nest value path) := by
  induction path generalizing t with
  | nil => exact (merge_of_object?_eq_none leaf).symm
  | cons key rest ih =>
      have single : Entries.WellKeyed [(key, nest value rest)] := by
        simp [Entries.WellKeyed, Entries.keys]
      rw [put, nest, merge_obj single, mergeFields_cons, mergeFields_nil]
      congr 2
      funext child
      cases child with
      | none => exact empty_put
      | some existing => exact ih

/-- Setting an option to a value that is no object is merging it in. -/
theorem setPath_eq_merge (t : OptionTree) (path : String) (leaf : value.object? = none) :
    t.setPath path value = t.merge (nest value (segments path)) :=
  put_eq_merge leaf

theorem setPath_eq_merge_labelled :
    labelled.setPath "legend.title.text" (.str "Years") =
      labelled.merge (.obj [("legend", .obj [("title", .obj [("text", .str "Years")])])]) :=
  setPath_eq_merge labelled "legend.title.text" rfl

end OptionTree

end Charting
