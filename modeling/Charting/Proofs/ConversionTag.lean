import Charting.ConversionTag.Items
import Charting.Proofs.Options.Merging

/-!
# Conversion tags

The tags of a scene have the settings that the caller gave, each with its own fallback. They depend
on the world only through the caller's functions: if these answer alike in two worlds, the tags are
the same.
-/

namespace Charting

/-! ## Settings -/

/-- The caller decides each of the settings by a value of its kind. -/
theorem TagSpec.resolve_own (field : String) (transpose animation : Bool) {overrides : OptionTree}
    (keyed : Entries.WellKeyed overrides.fields) :
    let spec := resolve field transpose animation overrides
    spec.visible = ((overrides.get? "visible").bind OptionTree.bool?).getD true ∧
      spec.field = ((overrides.get? "field").bind OptionTree.string?).getD field ∧
      spec.transpose = ((overrides.get? "transpose").bind OptionTree.bool?).getD transpose ∧
      spec.animation = ((overrides.get? "animation").bind OptionTree.bool?).getD animation ∧
      spec.size = ((overrides.get? "size").bind OptionTree.number?).getD 32 ∧
      spec.spacing = ((overrides.get? "spacing").bind OptionTree.number?).getD 8 ∧
      spec.offset = ((overrides.get? "offset").bind OptionTree.number?).getD 0 := by
  let below : OptionTree := defaults.merge (.obj [("field", .str field),
    ("transpose", .bool transpose), ("animation", .bool animation)])
  have read {α : Type} {f : OptionTree → Option α} {key : String} {leaf : OptionTree} {fallback : α}
      (alone : OptionTree.segments key = [key])
      (known : Entries.get? below.fields key = some leaf) (bare : leaf.object? = none)
      (reads : f leaf = some fallback) :
      (((below.mergeObject overrides).pointer? key).bind f).getD fallback =
        ((overrides.get? key).bind f).getD fallback := by
    have merged : below.mergeObject overrides =
        .obj (OptionTree.mergeFields below.fields overrides.fields) :=
      OptionTree.mergeObject_obj overrides
    rw [OptionTree.pointer?_of_key alone, merged, OptionTree.get?, OptionTree.fields_obj,
      OptionTree.getD_mergeFields keyed known bare reads]
    rfl
  exact ⟨read rfl rfl rfl rfl, read rfl rfl rfl rfl, read rfl rfl rfl rfl, read rfl rfl rfl rfl,
    read rfl rfl rfl rfl, read rfl rfl rfl rfl, read rfl rfl rfl rfl⟩

/-! ## Two worlds -/

variable {σ τ α β : Type} {R : σ → τ → Prop}

/-- Two works give the same in related worlds, and leave them related. -/
def Alike (R : σ → τ → Prop) (x : StateM σ α) (y : StateM τ α) : Prop :=
  ∀ w w', R w w' → (x.run w).1 = (y.run w').1 ∧ R (x.run w).2 (y.run w').2

theorem alike_pure (a : α) : Alike R (pure a) (pure a) := fun _ _ related => ⟨rfl, related⟩

theorem Alike.bind {x : StateM σ α} {y : StateM τ α} {f : α → StateM σ β} {g : α → StateM τ β}
    (first : Alike R x y) (rest : ∀ a, Alike R (f a) (g a)) : Alike R (x >>= f) (y >>= g) := by
  intro w w' related
  obtain ⟨same, related'⟩ := first w w' related
  have left : (x >>= f).run w = (f (x.run w).1).run (x.run w).2 := rfl
  have right : (y >>= g).run w' = (g (y.run w').1).run (y.run w').2 := rfl
  rw [left, right, ← same]
  exact rest _ _ _ related'

theorem Alike.mapM {f : α → StateM σ β} {g : α → StateM τ β} (h : ∀ a, Alike R (f a) (g a))
    (items : List α) : Alike R (items.mapM f) (items.mapM g) := by
  induction items with
  | nil => exact alike_pure []
  | cons item rest ih =>
      rw [List.mapM_cons, List.mapM_cons]
      exact (h item).bind fun b => ih.bind fun bs => alike_pure (b :: bs)

variable {invoke : Invoke σ} {invoke' : Invoke τ}

/-- Only the function that makes the texts has to answer alike. -/
theorem TagItem.describe_alike {spec : TagSpec}
    (h : ∀ f ∈ spec.formatter, ∀ args, Alike R (invoke f args) (invoke' f args))
    (before after : Datum) :
    Alike R (TagItem.describe invoke spec before after)
      (TagItem.describe invoke' spec before after) := by
  rw [TagItem.describe, TagItem.describe]
  cases custom : spec.formatter with
  | none => exact alike_pure _
  | some formatter =>
      refine (h formatter custom _).bind fun answer => ?_
      cases answer <;> exact alike_pure _

theorem ConversionTag.between_alike {spec : TagSpec}
    (h : ∀ f ∈ spec.formatter, ∀ args, Alike R (invoke f args) (invoke' f args))
    (before after : Element) :
    Alike R (ConversionTag.between invoke spec before after)
      (ConversionTag.between invoke' spec before after) := by
  rw [ConversionTag.between, ConversionTag.between]
  split
  · refine Alike.bind ?_ fun text => alike_pure _
    rw [map_eq_pure_bind, map_eq_pure_bind]
    exact (TagItem.describe_alike h _ _).bind fun text => alike_pure (some text)
  · exact alike_pure _

theorem ConversionTag.attach_alike {spec : TagSpec}
    (h : ∀ f ∈ spec.formatter, ∀ args, Alike R (invoke f args) (invoke' f args))
    (elements : List Element) :
    Alike R (ConversionTag.attach invoke elements spec)
      (ConversionTag.attach invoke' elements spec) := by
  rw [ConversionTag.attach, ConversionTag.attach]
  split
  · exact (Alike.mapM (fun (before, after) => between_alike h before after) _).bind fun items =>
      alike_pure _
  · exact alike_pure none

/-! ## Attaching -/

namespace ConversionTag

variable {elements : List Element} {spec : TagSpec} {w w' : σ}

theorem run_attach :
    (attach invoke elements spec).run w =
      if spec.visible then
        let (items, w') := ((adjacent elements).mapM fun (before, after) =>
          between invoke spec before after).run w
        (some { spec, items }, w')
      else (none, w) := by
  rw [attach]
  split <;> rfl

/-- Tags are attached unless they are hidden, with the settings that they were given. -/
theorem spec_attach {tag : Option ConversionTag}
    (attached : (attach invoke elements spec).run w = (tag, w')) :
    tag.map ConversionTag.spec = if spec.visible then some spec else none := by
  rw [run_attach] at attached
  cases visible : spec.visible with
  | true =>
      rw [if_pos visible] at attached
      obtain ⟨rfl, -⟩ := Prod.mk.inj attached
      rfl
  | false =>
      rw [if_neg (by simp [visible])] at attached
      cases attached
      rfl

end ConversionTag

end Charting
