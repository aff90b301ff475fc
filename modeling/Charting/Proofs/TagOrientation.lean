import Charting.Proofs.Number.Exact
import Charting.Proofs.TagItems

/-!
# Tags between columns and between rows

A canvas of columns that is turned by a quarter is a canvas of rows. In exact numbers the tags turn
with it: attaching them after the turn gives what turning the attached ones gives, with the same
texts and the same invocations of the caller's functions.
-/

namespace Charting

/-! ## Turning by a quarter -/

section Turning

variable (h : ℚ)

/-- The box after every point `(x, y)` has gone to `(h - y, x)`. -/
def Box.turned (box : Box ℚ) : Box ℚ where
  minX := h - box.maxY
  minY := box.minX
  maxX := h - box.minY
  maxY := box.maxX

def Element.turned (e : Element ℚ) : Element ℚ := { e with box := e.box.turned h }

/-- The settings for the turned elements. Down has become left, so an offset goes the other way. -/
def TagSpec.turned (spec : TagSpec ℚ) : TagSpec ℚ :=
  { spec with
    transpose := false
    offset := -spec.offset }

/-- The placement after the turn: the gap is the same, and the line was a height and is now an x. -/
def TagItem.Placement.turned (p : TagItem.Placement ℚ) : TagItem.Placement ℚ :=
  { p with cross := h - p.cross }

/-- The same tag with its arrow and the position of its text turned. -/
def TagItem.turned (item : TagItem ℚ) : TagItem ℚ :=
  { item with
    arrow := item.arrow.map (Box.turned h)
    textX := h - item.textY
    textY := item.textX }

end Turning

/-! ## One tag -/

namespace TagItem

open Quantity

variable {h : ℚ} {spec : TagSpec ℚ}

theorem place_turned (columns : spec.transpose = true) (before after : Box ℚ) :
    place spec.turned (before.turned h) (after.turned h) = (place spec before after).turned h := by
  -- the lower of two edges before the turn is the one further left after it
  have lower (y z : ℚ) : min (h - y) (h - z) = h - max y z := min_sub_sub_left h y z
  have across (y z : ℚ) : half (h - y + (h - z)) + -spec.offset =
      h - (half (z + y) + spec.offset) := by
    rw [half_eq_div_two, half_eq_div_two]
    ring
  rw [place, place, if_neg (by simp [TagSpec.turned]), if_pos columns]
  simp only [Placement.turned, TagSpec.turned, Box.turned, least_eq_min, greatest_eq_max, lower,
    across]

theorem arrowBox?_turned (columns : spec.transpose = true) (p : Placement ℚ) :
    arrowBox? spec.turned (p.turned h) = (arrowBox? spec p).map (Box.turned h) := by
  have sides (c s : ℚ) : h - c - s = h - (c + s) ∧ h - c + s = h - (c - s) := by
    constructor <;> ring
  rw [arrowBox?, arrowBox?, if_pos columns]
  simp only [TagSpec.turned, Placement.turned, Bool.false_eq_true, if_false, (sides _ _).1,
    (sides _ _).2]
  rw [apply_ite (Option.map (Box.turned h))]
  rfl

theorem textAt_turned (columns : spec.transpose = true) (p : Placement ℚ) :
    textAt spec.turned (p.turned h) = (h - (textAt spec p).2, (textAt spec p).1) := by
  rw [textAt, textAt, if_pos columns]
  rfl

theorem withText_turned (columns : spec.transpose = true) (before after : Element ℚ)
    (text : Option String) :
    withText spec.turned (before.turned h) (after.turned h) text =
      (withText spec before after text).turned h := by
  have placed : place spec.turned (before.turned h).box (after.turned h).box =
      (place spec before.box after.box).turned h := place_turned columns before.box after.box
  rw [withText, placed, arrowBox?_turned columns, textAt_turned columns]
  rfl

end TagItem

/-! ## The tags of a scene -/

namespace ConversionTag

variable {σ : Type} {h : ℚ} {spec : TagSpec ℚ}

theorem between_turned (invoke : Invoke σ) (columns : spec.transpose = true)
    (before after : Element ℚ) :
    between invoke spec.turned (before.turned h) (after.turned h) =
      TagItem.turned h <$> between invoke spec before after := by
  have made : TagItem.withText spec.turned (before.turned h) (after.turned h) =
      fun text => (TagItem.withText spec before after text).turned h :=
    funext (TagItem.withText_turned columns before after)
  rw [between_eq, between_eq, Functor.map_map, made]
  rfl

/-- What is made of the result of each piece of work may as well be made after all of them. -/
theorem mapM_eq_map_mapM {α β γ : Type} {f : α → StateM σ β} {g : α → StateM σ γ} {made : β → γ}
    (each : ∀ a, g a = made <$> f a) (items : List α) :
    items.mapM g = List.map made <$> items.mapM f := by
  induction items with
  | nil => rfl
  | cons item rest ih =>
      rw [List.mapM_cons, List.mapM_cons, each item, ih]
      simp only [map_bind, bind_map_left, map_pure, List.map_cons]

/--
Tags that are attached after the turn are the tags attached before it, turned: the same elements
and texts, and an arrow wherever there was one. The world is left the same too.
-/
theorem attach_turned (invoke : Invoke σ) (h : ℚ) (elements : List (Element ℚ)) (spec : TagSpec ℚ)
    (visible : spec.visible = true) (columns : spec.transpose = true) (w : σ) :
    ∃ items w',
      (attach invoke elements spec).run w = (some { spec, items }, w') ∧
      (attach invoke (elements.map (Element.turned h)) spec.turned).run w =
        (some { spec := spec.turned, items := items.map (TagItem.turned h) }, w') := by
  let tags := (adjacent elements).mapM fun pair => between invoke spec pair.1 pair.2
  have turned : ((adjacent (elements.map (Element.turned h))).mapM fun pair =>
      between invoke spec.turned pair.1 pair.2) = List.map (TagItem.turned h) <$> tags := by
    rw [adjacent_map, List.mapM_map]
    exact mapM_eq_map_mapM (fun (before, after) => between_turned invoke columns before after) _
  refine ⟨(tags.run w).1, (tags.run w).2, ?_, ?_⟩
  · rw [attach, if_pos visible]
    rfl
  · rw [attach, if_pos (show spec.turned.visible = true from visible), turned]
    rfl

/-- Three columns, the last two of them without a gap. -/
def threeColumns : List (Element ℚ) := [
  { index := 0, datum := [("count", .num (.int 200))], box := ⟨20, 0, 80, 200⟩ },
  { index := 1, datum := [("count", .num (.int 50))], box := ⟨120, 150, 180, 200⟩ },
  { index := 2, datum := [], box := ⟨180, 200, 240, 200⟩ }]

/-- Tags with texts of the caller that stand a little below the middle of the shorter column. -/
def loweredTags : TagSpec ℚ where
  visible := true
  field := "count"
  transpose := true
  animation := true
  size := 32
  spacing := 8
  offset := 5
  arrowVisible := true
  arrowHeadSize := 12
  arrowStyle := []
  valueVisible := true
  valueStyle := []
  formatter := some ⟨0⟩

/-- A function of the caller that numbers the tags. -/
def numbering : Invoke Nat := fun _ _ n => (.num n.toFloat, n + 1)

/-- The tags between the columns; there is no room for an arrow between the last two. -/
def threeTags : List (TagItem ℚ) := [
  { fromIndex := 0, toIndex := 1, text := some "0.0", arrow := some ⟨88, 164, 112, 196⟩,
    textX := 100, textY := 180 },
  { fromIndex := 1, toIndex := 2, text := some "1.0", arrow := none, textX := 180, textY := 205 }]

/-- The same tags on the canvas that is turned. -/
def turnedTags : List (TagItem ℚ) := [
  { fromIndex := 0, toIndex := 1, text := some "0.0", arrow := some ⟨4, 88, 36, 112⟩,
    textX := 20, textY := 100 },
  { fromIndex := 1, toIndex := 2, text := some "1.0", arrow := none, textX := -5, textY := 180 }]

theorem attach_turned_threeColumns :
    loweredTags.visible = true ∧ loweredTags.transpose = true ∧
      (attach numbering threeColumns loweredTags).run 0 =
        (some { spec := loweredTags, items := threeTags }, 2) ∧
      (attach numbering (threeColumns.map (Element.turned 200)) loweredTags.turned).run 0 =
        (some { spec := loweredTags.turned, items := turnedTags }, 2) := by
  obtain ⟨items, calls, columns, rows⟩ :=
    attach_turned numbering 200 threeColumns loweredTags rfl rfl 0
  have listed : (((attach numbering threeColumns loweredTags).run 0).1.map ConversionTag.items,
      ((attach numbering threeColumns loweredTags).run 0).2) = (some threeTags, 2) := by
    decide +kernel
  have turned : threeTags.map (TagItem.turned 200) = turnedTags := by decide +kernel
  rw [columns, Option.map_some, Prod.mk.injEq, Option.some.injEq] at listed
  obtain ⟨rfl, rfl⟩ := listed
  rw [turned] at rows
  exact ⟨rfl, rfl, columns, rows⟩

end ConversionTag

end Charting
