import Charting.Layout.Headless
import Charting.Proofs.ConversionTag
import Mathlib.Data.List.Basic

/-!
# Rows in a drawing

Laying out changes nothing about the rows: there is one element for each, in their order and with
its number, one label for each that has the first label field, and one tag for each two neighbours.
-/

namespace Charting

namespace Geometry

/-- The geometry has two fields that place it, and its label has a field to show. -/
structure Placed (g : Geometry) : Prop where
  fields : 2 ≤ g.positionFields.length
  label : ∀ handle, g.label = .bound handle → ∃ field, handle.descriptor.fields.head? = some field

end Geometry

namespace Layout

section Elements

variable {α : Type} [Add α] [Sub α] [Mul α] [Div α] [LT α] [DecidableLT α] [BEq α] [Quantity α]
  (read : Float → α) {plan : Plan}

theorem length_boxes (placed : plan.geometry.Placed) :
    (boxes read plan).length = plan.data.length := by
  obtain ⟨fields, -⟩ := placed
  rw [boxes]
  split
  · split
    · rw [intervalBoxes, bars, List.length_mapIdx, List.length_map]
    · rw [pointBoxes, points, List.length_mapIdx, List.length_map]
  · rename_i none_placed
    match named : plan.geometry.positionFields with
    | [] | [_] => simp [named] at fields
    | x :: y :: rest => exact absurd named (none_placed x y rest)

theorem elements_rows (placed : plan.geometry.Placed) :
    (elements read plan).map (fun e => (e.datum, e.index)) = plan.data.zipIdx := by
  have rows : (plan.data.zip (boxes read plan)).map Prod.fst = plan.data :=
    List.map_fst_zip (Nat.le_of_eq (length_boxes read placed).symm)
  conv_rhs => rw [← rows]
  rw [elements, List.mapIdx_eq_zipIdx_map, List.map_map, List.zipIdx_map]
  rfl

end Elements

/-- The label that a row has for a field. -/
def rowLabel? (field : String) (row : Datum × Nat) : Option (Nat × String) :=
  (Entries.get? row.1 field).map fun value => (row.2, value.display)

theorem placeLabels_rows {handle : LabelHandle} {field : String} {elements : List Element}
    (first : handle.descriptor.fields.head? = some field) :
    (placeLabels (.bound handle) elements).map (fun label => (label.elementIndex, label.text)) =
      (elements.map fun e => (e.datum, e.index)).filterMap (rowLabel? field) := by
  rw [placeLabels, List.map_filterMap, List.filterMap_map]
  refine List.filterMap_congr fun e _ => ?_
  simp only [placeLabel?, first, Option.bind_some, Function.comp_apply, rowLabel?]
  cases Entries.get? e.datum field <;> rfl

end Layout

/-! ## Tags -/

namespace ConversionTag

variable {σ : Type} {invoke : Invoke σ}

/-- The elements that the tags lie between, by their numbers. -/
def ends (tag : ConversionTag) : List (Nat × Nat) :=
  tag.items.map fun item => (item.fromIndex, item.toIndex)

theorem ends_between (spec : TagSpec) (before after : Element) (w : σ) :
    (((between invoke spec before after).run w).1.fromIndex,
      ((between invoke spec before after).run w).1.toIndex) = (before.index, after.index) := by
  rw [between]
  split <;> rfl

/-- What work in a world makes of each item, if it does not depend on the world. -/
theorem map_run_mapM {α β γ : Type} {f : α → StateM σ β} {g : β → γ} {h : α → γ}
    (each : ∀ a w, g ((f a).run w).1 = h a) (items : List α) (w : σ) :
    ((items.mapM f).run w).1.map g = items.map h := by
  induction items generalizing w with
  | nil => rfl
  | cons item rest ih =>
      rw [List.mapM_cons, List.map_cons, ← each item w, ← ih ((f item).run w).2]
      rfl

theorem ends_attach {elements : List Element} {spec : TagSpec} {tag : ConversionTag} {w w' : σ}
    (attached : (attach invoke elements spec).run w = (some tag, w')) :
    tag.ends = adjacent (elements.map Element.index) := by
  rw [run_attach] at attached
  split at attached
  · let tags := (adjacent elements).mapM fun (before, after) => between invoke spec before after
    obtain ⟨made, -⟩ := Prod.mk.inj attached
    obtain rfl := Option.some.inj made
    calc
      (tags.run w).1.map (fun item => (item.fromIndex, item.toIndex)) =
          (adjacent elements).map (Prod.map Element.index Element.index) :=
        map_run_mapM (fun _ w => ends_between spec _ _ w) _ w
      _ = adjacent (elements.map Element.index) := (adjacent_map Element.index elements).symm
  · cases attached

theorem adjacent_range (n : Nat) :
    adjacent (List.range n) = (List.range (n - 1)).map fun i => (i, i + 1) := by
  apply List.ext_getElem
  · simp [adjacent]
  · intro i h h'
    simp [adjacent, Nat.add_comm]

end ConversionTag

end Charting
