import Charting.Proofs.Options.WellKeyed
import Mathlib

/-!
# Trees that are the same

Agreement is how a program compares trees. It holds between trees that are the same, whatever the
order of their keys, and it holds of no tree with a NaN in it, not even of the tree and itself.
-/

namespace Charting

namespace OptionTree

/-- The same number, be it NaN. The two zeros are the same. -/
def SameNumber (x y : Float) : Prop := x = y ∨ (x = 0 ∧ y = -0) ∨ (x = -0 ∧ y = 0)

/-- Numbers are equal when they are the same and not NaN. -/
theorem beq_iff_sameNumber {x y : Float} :
    (x == y) = true ↔ SameNumber x y ∧ y.isNaN = false := by
  have zero : (0 : Float) ≠ Float.nan := Float.beq_self_iff.mp rfl
  have negative : (-0 : Float) ≠ Float.nan := Float.beq_self_iff.mp rfl
  rw [Float.beq_iff_ne_nan_and_eq, Float.isNaN_eq_decide_eq_nan, decide_eq_false_iff_not]
  constructor
  · rintro ⟨-, number, same⟩
    exact ⟨same, number⟩
  · rintro ⟨same, number⟩
    refine ⟨?_, number, same⟩
    rcases same with rfl | ⟨rfl, -⟩ | ⟨rfl, -⟩
    · exact number
    · exact zero
    · exact negative

/-- Values of the same kind throughout, with the same keys in any order, the same numbers and the
same functions. -/
inductive Same : OptionTree → OptionTree → Prop
  | null : Same .null .null
  | bool (b : Bool) : Same (.bool b) (.bool b)
  | num {x y : Float} (value : SameNumber x y) : Same (.num x) (.num y)
  | str (s : String) : Same (.str s) (.str s)
  | arr {xs ys : List OptionTree} (items : List.Forall₂ Same xs ys) : Same (.arr xs) (.arr ys)
  | obj {m n : OptionMap}
      (fields : ∀ key, Option.Rel Same (Entries.get? m key) (Entries.get? n key)) :
      Same (.obj m) (.obj n)
  | fn (f : Callback) : Same (.fn f) (.fn f)

theorem same_bool {a b : Bool} : Same (.bool a) (.bool b) ↔ a = b :=
  ⟨fun h => by cases h; rfl, fun h => h ▸ .bool a⟩

theorem same_num {x y : Float} : Same (.num x) (.num y) ↔ SameNumber x y :=
  ⟨fun h => by cases h; assumption, .num⟩

theorem same_str {s t : String} : Same (.str s) (.str t) ↔ s = t :=
  ⟨fun h => by cases h; rfl, fun h => h ▸ .str s⟩

theorem same_arr {xs ys : List OptionTree} : Same (.arr xs) (.arr ys) ↔ List.Forall₂ Same xs ys :=
  ⟨fun h => by cases h; assumption, .arr⟩

theorem same_obj {m n : OptionMap} :
    Same (.obj m) (.obj n) ↔
      ∀ key, Option.Rel Same (Entries.get? m key) (Entries.get? n key) :=
  ⟨fun h => by cases h; assumption, .obj⟩

theorem same_fn {f g : Callback} : Same (.fn f) (.fn g) ↔ f = g :=
  ⟨fun h => by cases h; rfl, fun h => h ▸ .fn f⟩

/-! ## Every value of a tree -/

mutual
/-- The tree and all values in it pass. -/
def every (p : OptionTree → Bool) : OptionTree → Bool
  | .arr items => p (.arr items) && everyItem p items
  | .obj fields => p (.obj fields) && everyField p fields
  | t => p t

def everyItem (p : OptionTree → Bool) : List OptionTree → Bool
  | [] => true
  | item :: rest => item.every p && everyItem p rest

def everyField (p : OptionTree → Bool) : List (String × OptionTree) → Bool
  | [] => true
  | (_, value) :: rest => value.every p && everyField p rest
end

/-- No object in the tree has a key twice. -/
def keyed (t : OptionTree) : Bool :=
  t.every fun
    | .obj fields => decide (Entries.keys fields).Nodup
    | _ => true

/-- No number in the tree is NaN. -/
def freeOfNaN (t : OptionTree) : Bool :=
  t.every fun
    | .num x => !x.isNaN
    | _ => true

variable {t u : OptionTree} {key : String} {p : OptionTree → Bool}

theorem everyItem_iff {items : List OptionTree} :
    everyItem p items = true ↔ ∀ item ∈ items, item.every p = true := by
  induction items with
  | nil => simp [everyItem]
  | cons item rest ih => simp [everyItem, ih]

theorem everyField_iff {fields : OptionMap} :
    everyField p fields = true ↔ ∀ key value, (key, value) ∈ fields → value.every p = true := by
  induction fields with
  | nil => simp [everyField]
  | cons field rest ih =>
      obtain ⟨k, v⟩ := field
      simp only [everyField, Bool.and_eq_true, ih, List.mem_cons, Prod.mk.injEq]
      constructor
      · rintro ⟨first, others⟩ key value (⟨rfl, rfl⟩ | h)
        · exact first
        · exact others key value h
      · intro h
        exact ⟨h k v (.inl ⟨rfl, rfl⟩), fun key value member => h key value (.inr member)⟩

/-- What holds of values without parts, and of a tree when it holds of its parts, holds of all. -/
theorem partInduction {motive : OptionTree → Prop}
    (leaf : ∀ t, t.array? = none → t.object? = none → motive t)
    (arr : ∀ items, (∀ item ∈ items, motive item) → motive (.arr items))
    (obj : ∀ fields, (∀ key value, (key, value) ∈ fields → motive value) → motive (.obj fields))
    (t : OptionTree) : motive t := by
  cases t with
  | arr items => exact arr items fun item member => partInduction leaf arr obj item
  | obj fields => exact obj fields fun key value member => partInduction leaf arr obj value
  | _ => exact leaf _ rfl rfl
termination_by sizeOf t
decreasing_by
  · have := List.sizeOf_lt_of_mem member
    simp only [OptionTree.arr.sizeOf_spec]
    omega
  · have := List.sizeOf_lt_of_mem member
    simp only [Prod.mk.sizeOf_spec] at this
    simp only [OptionTree.obj.sizeOf_spec]
    omega

theorem Same.refl (t : OptionTree) : Same t t := by
  induction t using partInduction with
  | leaf t array object =>
      cases t with
      | null => exact .null
      | bool b => exact .bool b
      | num x => exact .num (.inl rfl)
      | str s => exact .str s
      | fn f => exact .fn f
      | arr => cases array
      | obj => cases object
  | arr items ih => exact .arr (List.forall₂_same.mpr ih)
  | obj fields ih =>
      refine .obj fun key => ?_
      cases found : Entries.get? fields key with
      | none => exact .none
      | some value => exact .some (ih key value (Entries.mem_of_get? found))

/-! ## Parts of trees that pass -/

theorem every_arr {items : List OptionTree} :
    (OptionTree.arr items).every p = true ↔
      p (.arr items) = true ∧ ∀ item ∈ items, item.every p = true := by
  rw [every, Bool.and_eq_true, everyItem_iff]

theorem every_obj {fields : OptionMap} :
    (OptionTree.obj fields).every p = true ↔
      p (.obj fields) = true ∧ ∀ key value, (key, value) ∈ fields → value.every p = true := by
  rw [every, Bool.and_eq_true, everyField_iff]

theorem keyed_arr {items : List OptionTree} :
    (OptionTree.arr items).keyed = true ↔ ∀ item ∈ items, item.keyed = true := by
  simp [keyed, every_arr]

theorem keyed_obj {fields : OptionMap} :
    (OptionTree.obj fields).keyed = true ↔
      Entries.WellKeyed fields ∧ ∀ key value, (key, value) ∈ fields → value.keyed = true := by
  simp [keyed, every_obj, Entries.WellKeyed]

theorem freeOfNaN_arr {items : List OptionTree} :
    (OptionTree.arr items).freeOfNaN = true ↔ ∀ item ∈ items, item.freeOfNaN = true := by
  simp [freeOfNaN, every_arr]

theorem freeOfNaN_obj {fields : OptionMap} :
    (OptionTree.obj fields).freeOfNaN = true ↔
      ∀ key value, (key, value) ∈ fields → value.freeOfNaN = true := by
  simp [freeOfNaN, every_obj]

/-! ## Agreement -/

theorem agreesItems_iff {xs ys : List OptionTree}
    (each : ∀ x ∈ xs, ∀ y ∈ ys, agrees x y = true ↔ Same x y ∧ y.freeOfNaN = true) :
    agreesItems xs ys = true ↔ List.Forall₂ Same xs ys ∧ ∀ y ∈ ys, y.freeOfNaN = true := by
  induction xs generalizing ys with
  | nil => cases ys <;> simp [agreesItems]
  | cons x xs ih =>
      cases ys with
      | nil => simp [agreesItems]
      | cons y ys =>
          have rest : agreesItems xs ys = true ↔
              List.Forall₂ Same xs ys ∧ ∀ y ∈ ys, y.freeOfNaN = true :=
            ih fun x hx y hy => each x (List.mem_cons_of_mem _ hx) y (List.mem_cons_of_mem _ hy)
          rw [agreesItems, Bool.and_eq_true, rest, each x List.mem_cons_self y List.mem_cons_self,
            List.forall₂_cons, List.forall_mem_cons, and_and_and_comm]

theorem perm_keys_of_same {m n : OptionMap} (keyed : Entries.WellKeyed m)
    (keyed' : Entries.WellKeyed n)
    (same : ∀ key, Option.Rel Same (Entries.get? m key) (Entries.get? n key)) :
    (Entries.keys m).Perm (Entries.keys n) := by
  refine (List.perm_ext_iff_of_nodup keyed keyed').mpr fun key => ?_
  rw [Entries.mem_keys_iff, Entries.mem_keys_iff]
  have here := same key
  generalize Entries.get? m key = v, Entries.get? n key = v' at here
  cases here <;> simp

theorem agreesObj_iff {m n : OptionMap} (keyed : Entries.WellKeyed m)
    (keyed' : Entries.WellKeyed n)
    (each : ∀ key x y, (key, x) ∈ m → (key, y) ∈ n →
      (agrees x y = true ↔ Same x y ∧ y.freeOfNaN = true)) :
    agrees (.obj m) (.obj n) = true ↔
      Same (.obj m) (.obj n) ∧ (OptionTree.obj n).freeOfNaN = true := by
  rw [same_obj, freeOfNaN_obj]
  constructor
  · intro agree
    obtain ⟨_, same, -, found⟩ := agrees_obj agree
    cases same
    have perm := agrees_keys keyed agree
    constructor
    · intro key
      cases hv : Entries.get? m key with
      | none =>
          have missing : key ∉ Entries.keys n := fun member =>
            Entries.get?_eq_none_iff.mp hv (perm.mem_iff.mpr member)
          rw [Entries.get?_eq_none_iff.mpr missing]
          exact .none
      | some v =>
          obtain ⟨v', hv', agree⟩ := found key v hv
          rw [hv']
          have members := And.intro (Entries.mem_of_get? hv) (Entries.mem_of_get? hv')
          exact .some ((each key v v' members.1 members.2).mp agree).1
    · intro key v' member
      have hv' := keyed'.get?_eq_some_iff.mpr member
      have present : key ∈ Entries.keys n := List.mem_map.mpr ⟨_, member, rfl⟩
      obtain ⟨v, hv⟩ := Option.isSome_iff_exists.mp
        (Entries.mem_keys_iff.mp (perm.mem_iff.mpr present))
      obtain ⟨_, found', agree⟩ := found key v hv
      obtain rfl := Option.some.inj (hv'.symm.trans found')
      exact ((each key v v' (Entries.mem_of_get? hv) member).mp agree).2
  · rintro ⟨same, free⟩
    have size : m.length = n.length := by
      simpa [Entries.keys] using (perm_keys_of_same keyed keyed' same).length_eq
    simp only [agrees, Bool.and_eq_true, beq_iff_eq]
    refine ⟨size, agreesFields_iff.mpr fun key v member => ?_⟩
    have hv := keyed.get?_eq_some_iff.mpr member
    cases hv' : Entries.get? n key with
    | none =>
        have := same key
        rw [hv, hv'] at this
        cases this
    | some v' =>
        have := same key
        rw [hv, hv', Option.rel_some_some] at this
        have member' := Entries.mem_of_get? hv'
        exact ⟨v', rfl, (each key v v' member member').mpr ⟨this, free key v' member'⟩⟩

/-- Values of different kinds. -/
theorem agrees_iff_of_unlike (disagree : agrees t u = false) (differ : ¬Same t u) :
    agrees t u = true ↔ Same t u ∧ u.freeOfNaN = true := by
  simp [disagree, differ]

/-- Values without parts. -/
theorem agreesLeaf_iff (array : t.array? = none) (object : t.object? = none) :
    agrees t u = true ↔ Same t u ∧ u.freeOfNaN = true := by
  cases t with
  | arr => cases array
  | obj => cases object
  | null =>
      cases u with
      | null => simp [agrees, Same.null, freeOfNaN, every]
      | _ => exact agrees_iff_of_unlike rfl (by rintro ⟨⟩)
  | bool a =>
      cases u with
      | bool b => simp [agrees, same_bool, freeOfNaN, every]
      | _ => exact agrees_iff_of_unlike rfl (by rintro ⟨⟩)
  | num x =>
      cases u with
      | num y => simp [agrees, same_num, freeOfNaN, every, beq_iff_sameNumber]
      | _ => exact agrees_iff_of_unlike rfl (by rintro ⟨⟩)
  | str s =>
      cases u with
      | str t => simp [agrees, same_str, freeOfNaN, every]
      | _ => exact agrees_iff_of_unlike rfl (by rintro ⟨⟩)
  | fn f =>
      cases u with
      | fn g => simp [agrees, same_fn, freeOfNaN, every]
      | _ => exact agrees_iff_of_unlike rfl (by rintro ⟨⟩)

/-- Trees agree when they are the same and no number in them is NaN. -/
theorem agrees_iff (keyed : t.keyed = true) (keyed' : u.keyed = true) :
    agrees t u = true ↔ Same t u ∧ u.freeOfNaN = true := by
  induction t using partInduction generalizing u with
  | leaf t array object => exact agreesLeaf_iff array object
  | arr items ih =>
      cases u with
      | arr others =>
          rw [agrees, same_arr, freeOfNaN_arr]
          exact agreesItems_iff fun x hx y hy =>
            ih x hx (keyed_arr.mp keyed x hx) (keyed_arr.mp keyed' y hy)
      | _ => exact agrees_iff_of_unlike rfl (by rintro ⟨⟩)
  | obj fields ih =>
      cases u with
      | obj others =>
          obtain ⟨here, below⟩ := keyed_obj.mp keyed
          obtain ⟨here', below'⟩ := keyed_obj.mp keyed'
          exact agreesObj_iff here here' fun key x y hx hy =>
            ih key x hx (below key x hx) (below' key y hy)
      | _ => exact agrees_iff_of_unlike rfl (by rintro ⟨⟩)

end OptionTree

end Charting
