import Charting.ConversionTag.Items
import Charting.Proofs.Invocations
import Mathlib.Data.List.Forall2

/-!
# One tag for each two neighbours

Every two adjacent elements get one tag between them. Its text and its arrow are switched on and off
on their own, and only a text that a function of the caller makes has anything to do with the world.
-/

namespace Charting

/-! ## What is asked of the caller -/

namespace TagSpec

variable {α : Type} {spec : TagSpec α} {elements : List (Element α)}

/-- What a function of the caller is told about an element: the number that is compared, or null. -/
def valueOf (spec : TagSpec α) (e : Element α) : OptionTree :=
  match e.datum.number? spec.field with
  | some value => .num value
  | none => .null

/-- The invocations that the texts of the tags need: one for each two neighbours, in their order. -/
def invocations (spec : TagSpec α) (elements : List (Element α)) : List Invocation :=
  match spec.formatter with
  | some formatter =>
    if spec.visible && spec.valueVisible then
      (ConversionTag.adjacent elements).map fun (before, after) =>
        ⟨formatter, [spec.valueOf before, spec.valueOf after]⟩
    else []
  | none => []

theorem invocations_eq_map {formatter : Callback} (custom : spec.formatter = some formatter)
    (on : spec.visible = true) (visible : spec.valueVisible = true) :
    spec.invocations elements = (ConversionTag.adjacent elements).map fun pair =>
      ⟨formatter, [spec.valueOf pair.1, spec.valueOf pair.2]⟩ := by
  simp [invocations, custom, on, visible]

theorem invocations_eq_nil
    (quiet : spec.visible = false ∨ spec.valueVisible = false ∨ spec.formatter = none) :
    spec.invocations elements = [] := by
  rw [invocations]
  rcases quiet with off | hidden | plain
  · split <;> simp [off]
  · split <;> simp [hidden]
  · rw [plain]

end TagSpec

namespace TagItem

/-- The text that an answer stands for: itself if it is a text, and else its JSON. -/
def phrase : OptionTree → String
  | .str text => text
  | answer => answer.toJson.render

section Describing

variable {σ α : Type} {spec : TagSpec α} {formatter : Callback}

theorem describe_eq_phrase (invoke : Invoke σ) (custom : spec.formatter = some formatter)
    (before after : Element α) :
    describe invoke spec before.datum after.datum =
      phrase <$> invoke formatter [spec.valueOf before, spec.valueOf after] := by
  have told : ∀ e : Element α,
      ((e.datum.number? spec.field).map OptionTree.num).getD .null = spec.valueOf e := by
    intro e
    rw [TagSpec.valueOf]
    cases e.datum.number? spec.field <;> rfl
  rw [describe, custom, map_eq_pure_bind]
  simp only [told]
  congr 1
  funext answer
  cases answer <;> rfl

theorem describe_eq_percentage (invoke : Invoke σ) (plain : spec.formatter = none)
    (before after : Element α) :
    describe invoke spec before.datum after.datum =
      pure (percentage (before.datum.number? spec.field) (after.datum.number? spec.field)) := by
  rw [describe, plain]

/-- A share is no dash, since it ends in a percent sign. -/
theorem percentage_eq_dash_iff (first second : Option Float) :
    percentage first second = "-" ↔
      first = none ∨ second = none ∨ ∃ value, first = some value ∧ (value == 0) = true := by
  have share : ∀ text : String, text ++ "%" ≠ "-" := by
    intro text same
    have ends := congrArg (fun s : String => s.toList.getLast?) same
    simp at ends
  cases first with
  | none => simp [percentage]
  | some before =>
      cases second with
      | none => simp [percentage]
      | some after => cases zero : before == 0 <;> simp [percentage, zero, share]

end Describing

/-! ## What a tag is -/

variable {σ α : Type} [Add α] [Sub α] [Div α] [LT α] [DecidableLT α] [BEq α] [Quantity α]
  {spec : TagSpec α}

/-- The gap between two boxes, less the spacing on both sides, ends after it starts. -/
def HasRoom (spec : TagSpec α) (before after : Box α) : Prop :=
  if spec.transpose then before.maxX + spec.spacing < after.minX - spec.spacing
  else before.maxY + spec.spacing < after.minY - spec.spacing

/-- The tag between two elements. -/
structure Between (spec : TagSpec α) (before after : Element α) (item : TagItem α) : Prop where
  fromIndex : item.fromIndex = before.index
  toIndex : item.toIndex = after.index
  text : item.text.isSome = true ↔ spec.valueVisible = true
  arrow : item.arrow.isSome = true ↔
    spec.arrowVisible = true ∧ HasRoom spec before.box after.box
  dash : spec.valueVisible = true → spec.formatter = none →
    (item.text = some "-" ↔ before.datum.number? spec.field = none ∨
      after.datum.number? spec.field = none ∨
        ∃ value, before.datum.number? spec.field = some value ∧ (value == 0) = true)

theorem arrowBox?_isSome_iff (before after : Box α) :
    (arrowBox? spec (place spec before after)).isSome = true ↔
      spec.arrowVisible = true ∧ HasRoom spec before after := by
  have gap : (place spec before after).gapStart < (place spec before after).gapEnd ↔
      HasRoom spec before after := by
    rw [place, HasRoom]
    split <;> rfl
  rw [← gap, arrowBox?]
  cases spec.arrowVisible with
  | false => simp
  | true =>
      by_cases room : (place spec before after).gapStart < (place spec before after).gapEnd
      · simp only [room, decide_true, Bool.and_self, ↓reduceIte, and_self, iff_true]
        split <;> rfl
      · simp [room]

/-- The tag between two elements with some text. -/
def withText (spec : TagSpec α) (before after : Element α) (text : Option String) : TagItem α where
  fromIndex := before.index
  toIndex := after.index
  text
  arrow := arrowBox? spec (place spec before.box after.box)
  textX := (textAt spec (place spec before.box after.box)).1
  textY := (textAt spec (place spec before.box after.box)).2

theorem withText_between {before after : Element α} {text : Option String}
    (shown : text.isSome = true ↔ spec.valueVisible = true)
    (dash : spec.valueVisible = true → spec.formatter = none → text =
      some (percentage (before.datum.number? spec.field) (after.datum.number? spec.field))) :
    (withText spec before after text).Between spec before after where
  fromIndex := rfl
  toIndex := rfl
  text := shown
  arrow := arrowBox?_isSome_iff before.box after.box
  dash visible plain := by
    rw [withText, dash visible plain, Option.some.injEq]
    exact percentage_eq_dash_iff _ _

end TagItem

namespace ConversionTag

variable {σ α : Type} [Add α] [Sub α] [Div α] [LT α] [DecidableLT α] [BEq α] [Quantity α]
  {invoke : Invoke σ} {spec : TagSpec α} {elements : List (Element α)}

/-- A tag is its text, whose making is all that may touch the world, with all the rest. -/
theorem between_eq (before after : Element α) :
    between invoke spec before after = TagItem.withText spec before after <$>
      if spec.valueVisible then some <$> TagItem.describe invoke spec before.datum after.datum
      else pure none := by
  rw [between]
  split <;> rw [map_eq_pure_bind] <;> rfl

/-- The tag whose text a function of the caller has answered. -/
def answered (spec : TagSpec α) (pair : Element α × Element α) (answer : OptionTree) : TagItem α :=
  TagItem.withText spec pair.1 pair.2 (some (TagItem.phrase answer))

/-- The tag whose text takes no function of the caller. -/
def unasked (spec : TagSpec α) (pair : Element α × Element α) : TagItem α :=
  TagItem.withText spec pair.1 pair.2 (if spec.valueVisible then
    some (TagItem.percentage (pair.1.datum.number? spec.field) (pair.2.datum.number? spec.field))
  else none)

theorem between_eq_answered {formatter : Callback} (custom : spec.formatter = some formatter)
    (visible : spec.valueVisible = true) (before after : Element α) :
    between invoke spec before after = answered spec (before, after) <$>
      invoke formatter [spec.valueOf before, spec.valueOf after] := by
  rw [between_eq, if_pos visible, TagItem.describe_eq_phrase invoke custom]
  simp only [Functor.map_map]
  rfl

theorem between_eq_unasked (quiet : spec.valueVisible = false ∨ spec.formatter = none)
    (before after : Element α) :
    between invoke spec before after = pure (unasked spec (before, after)) := by
  rw [between_eq, unasked]
  cases visible : spec.valueVisible with
  | false => rfl
  | true =>
      rcases quiet with hidden | plain
      · cases visible.symm.trans hidden
      · rw [if_pos rfl, if_pos rfl, TagItem.describe_eq_percentage invoke plain]
        rfl

/-! ## The tags of a scene -/

/-- One item for each two neighbours, with the answers for their texts if the caller was asked. -/
structure ItemsOf (spec : TagSpec α) (elements : List (Element α)) (answers : List OptionTree)
    (items : List (TagItem α)) : Prop where
  pairs : List.Forall₂ (fun pair => TagItem.Between spec pair.1 pair.2) (adjacent elements) items
  texts : spec.valueVisible = true → spec.formatter.isSome = true →
    items.map TagItem.text = answers.map fun answer => some (TagItem.phrase answer)

theorem forall₂_zipWith {β γ δ : Type} {R : β → δ → Prop} {made : β → γ → δ}
    (each : ∀ b c, R b (made b c)) {bs : List β} {cs : List γ} (same : bs.length = cs.length) :
    List.Forall₂ R bs (List.zipWith made bs cs) := by
  induction bs generalizing cs with
  | nil => exact .nil
  | cons b rest ih =>
      cases cs with
      | nil => cases same
      | cons c more => exact .cons (each b c) (ih (Nat.succ.inj same))

/-- Custom tags are made of the answers to the invocations, which are made in their order. -/
theorem items_of_custom {formatter : Callback} (custom : spec.formatter = some formatter)
    (on : spec.visible = true) (visible : spec.valueVisible = true) (w : σ) :
    ∃ items answers w',
      ((adjacent elements).mapM fun pair => between invoke spec pair.1 pair.2).run w =
        (items, w') ∧
      (invoke.all (spec.invocations elements)).run w = (answers, w') ∧
      ItemsOf spec elements answers items := by
  have due : spec.invocations elements = (adjacent elements).map fun pair =>
      ⟨formatter, [spec.valueOf pair.1, spec.valueOf pair.2]⟩ :=
    TagSpec.invocations_eq_map custom on visible
  have made : ((adjacent elements).mapM fun pair => between invoke spec pair.1 pair.2) =
      List.zipWith (answered spec) (adjacent elements) <$>
        invoke.all (spec.invocations elements) := by
    rw [due]
    exact Invoke.mapM_eq_all (fun pair => between_eq_answered custom visible pair.1 pair.2) _
  have long : ((invoke.all (spec.invocations elements)).run w).1.length =
      (adjacent elements).length := by
    rw [Invoke.length_run_all, due, List.length_map]
  rw [made]
  refine ⟨_, _, _, rfl, rfl, forall₂_zipWith (fun pair answer => ?_) long.symm, fun _ _ => ?_⟩
  · refine TagItem.withText_between (by simp [visible]) fun _ plain => ?_
    cases custom.symm.trans plain
  · rw [List.map_zipWith]
    exact zipWith_right (Nat.le_of_eq long) _

theorem items_of_quiet (quiet : spec.valueVisible = false ∨ spec.formatter = none) (w : σ) :
    ∃ items,
      ((adjacent elements).mapM fun pair => between invoke spec pair.1 pair.2).run w =
        (items, w) ∧
      (invoke.all (spec.invocations elements)).run w = ([], w) ∧
      ItemsOf spec elements [] items := by
  have made : ((adjacent elements).mapM fun pair => between invoke spec pair.1 pair.2) =
      pure ((adjacent elements).map (unasked spec)) := by
    simp only [between_eq_unasked quiet]
    exact List.mapM_pure
  rw [made, TagSpec.invocations_eq_nil (.inr quiet)]
  refine ⟨_, rfl, rfl, ?_, fun visible custom => ?_⟩
  · refine List.forall₂_map_right_iff.mpr (List.forall₂_same.mpr fun pair _ => ?_)
    refine TagItem.withText_between ?_ fun visible _ => if_pos visible
    cases spec.valueVisible <;> simp
  · rcases quiet with hidden | plain
    · cases hidden.symm.trans visible
    · simp [plain] at custom

theorem items_of_visible (invoke : Invoke σ) (elements : List (Element α))
    (on : spec.visible = true) (w : σ) :
    ∃ items answers w',
      ((adjacent elements).mapM fun pair => between invoke spec pair.1 pair.2).run w =
        (items, w') ∧
      (invoke.all (spec.invocations elements)).run w = (answers, w') ∧
      ItemsOf spec elements answers items := by
  by_cases quiet : spec.valueVisible = false ∨ spec.formatter = none
  · obtain ⟨items, made⟩ := items_of_quiet quiet w
    exact ⟨items, [], w, made⟩
  · obtain ⟨visible, custom⟩ := not_or.mp quiet
    obtain ⟨formatter, custom⟩ := Option.ne_none_iff_exists'.mp custom
    exact items_of_custom custom on (by simpa using visible) w

/--
There are tags unless they are hidden, and then one for each two neighbours, in their order. For the
texts of custom tags the caller's function is invoked once for each of them, in the same order, and
its answers are their texts; for no other tags is anything invoked.
-/
theorem attach_adjacent (invoke : Invoke σ) (elements : List (Element α)) (spec : TagSpec α)
    (w : σ) :
    ∃ (tags : Option (ConversionTag α)) (answers : List OptionTree) (w' : σ),
      (attach invoke elements spec).run w = (tags, w') ∧
      (invoke.all (spec.invocations elements)).run w = (answers, w') ∧
      (tags = none ↔ spec.visible = false) ∧
      ∀ tag, tags = some tag → tag.spec = spec ∧ ItemsOf spec elements answers tag.items := by
  rw [attach]
  cases on : spec.visible with
  | false =>
      rw [TagSpec.invocations_eq_nil (.inl on)]
      exact ⟨none, [], w, rfl, rfl, by simp, nofun⟩
  | true =>
      obtain ⟨items, answers, w', made, asked, follow⟩ :=
        items_of_visible invoke elements on w
      refine ⟨some { spec, items }, answers, w', ?_, asked, by simp, ?_⟩
      · rw [if_pos rfl, StateT.run_bind, made]
        rfl
      · rintro _ ⟨rfl⟩
        exact ⟨rfl, follow⟩

end ConversionTag

end Charting
