import Charting.Options.Tree

/-!
# Invocations of the caller's functions

All that work does to the world may be that it invokes functions of the caller. Which ones, with
what and in which order is told by a list of invocations: the work does what making them one after
the other does.
-/

namespace Charting

/-- A function of the caller, and what it is given. -/
structure Invocation where
  callback : Callback
  args : List OptionTree

/-! ## Answers beside what was asked -/

section Zipping

variable {α β γ : Type} {xs : List α} {ys : List β}

theorem zipWith_left (long : xs.length ≤ ys.length) (f : α → γ) :
    List.zipWith (fun x _ => f x) xs ys = xs.map f := calc
  _ = ((xs.zip ys).map Prod.fst).map f := by
    rw [List.map_map, ← List.map_uncurry_zip_eq_zipWith]
    rfl
  _ = xs.map f := by rw [List.map_fst_zip long]

theorem zipWith_right (long : ys.length ≤ xs.length) (f : β → γ) :
    List.zipWith (fun _ y => f y) xs ys = ys.map f := by
  rw [List.zipWith_comm]
  exact zipWith_left long f

end Zipping

/-! ## Work that invokes -/

namespace Invoke

variable {σ α β : Type} {invoke : Invoke σ}

/-- Makes some invocations, each of them once and in their order, and returns what they answered. -/
def all (invoke : Invoke σ) (invocations : List Invocation) : StateM σ (List OptionTree) :=
  invocations.mapM fun invocation => invoke invocation.callback invocation.args

theorem all_cons (invocation : Invocation) (rest : List Invocation) :
    invoke.all (invocation :: rest) = do
      let answer ← invoke invocation.callback invocation.args
      let answers ← invoke.all rest
      return answer :: answers :=
  List.mapM_cons

theorem length_run_all (invocations : List Invocation) (w : σ) :
    ((invoke.all invocations).run w).1.length = invocations.length := by
  induction invocations generalizing w with
  | nil => rfl
  | cons invocation rest ih =>
      rw [all_cons, List.length_cons, ← ih]
      rfl

theorem mapM_eq_all {f : α → StateM σ β} {due : α → Invocation} {made : α → OptionTree → β}
    (each : ∀ a, f a = made a <$> invoke (due a).callback (due a).args) (items : List α) :
    items.mapM f = List.zipWith made items <$> invoke.all (items.map due) := by
  induction items with
  | nil => rfl
  | cons item rest ih =>
      rw [List.mapM_cons, each item, ih, List.map_cons, all_cons]
      simp only [map_bind, bind_map_left, map_pure, List.zipWith_cons_cons]

/-- Work that makes one invocation for each item and does not look at the answers. -/
theorem mapM_eq_all_of_const {f : α → StateM σ β} {due : α → Invocation} {made : α → β}
    (each : ∀ a, f a = (fun _ => made a) <$> invoke (due a).callback (due a).args)
    (items : List α) :
    items.mapM f = (fun _ => items.map made) <$> invoke.all (items.map due) := by
  rw [mapM_eq_all each]
  funext w
  -- as many answers as items, so that no item goes without one
  have long : items.length ≤ ((invoke.all (items.map due)).run w).1.length := by
    simp [length_run_all]
  exact Prod.ext (zipWith_left long made) rfl

end Invoke

end Charting
