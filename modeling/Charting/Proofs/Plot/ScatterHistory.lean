import Charting.Plot.Scatter
import Charting.Proofs.Layer.Behaviour
import Charting.Proofs.Plot.Binding

/-!
# Scatter plots have no history

A scatter plot has no rules, so its options stay as they were at first.
-/

namespace Charting.Plot.Scatter

/-- How the scatter plot plans a chart; nothing is ever rewritten. -/
def behaviour : Behaviour Unit where
  scale options := ScaleSet.cartesian options Scale.unconstrained
  geometry := Geometry.ofChart .point "circle" "pointLabel" (fun _ => false) (fun _ made => made)
  fit _ options := options
  judge _ _ := ()
  settle _ options := options

variable {start options : Options} {viewport viewport' : Viewport} {data data' : List Datum}
  {plan : Plan}

theorem eq_of_adapted (h : behaviour.Adapted start viewport options) : options = start := by
  cases h <;> rfl

/-- The size and the rows have no part in whether a chart can be planned. -/
theorem plan?_of_plan? (h : behaviour.plan? options viewport data = .ok plan) :
    ∃ plan', behaviour.plan? options viewport' data' = .ok plan' := by
  obtain ⟨scales, geometry, hs, hg, -⟩ := Behaviour.plan?_eq_ok.mp h
  exact ⟨_, Behaviour.plan?_eq_ok.mpr ⟨scales, geometry, hs, hg, rfl⟩⟩

theorem lawful (start : Options) : behaviour.Lawful start where
  fit_fit _ _ := rfl
  fit_settle _ _ _ := rfl
  settle_settle _ _ _ := rfl
  settle_of_agrees _ _ := rfl
  events adapted := by rw [eq_of_adapted adapted]
  plans adapted adapted' h := by
    rw [eq_of_adapted adapted] at h
    rw [eq_of_adapted adapted']
    exact plan?_of_plan? h
  judged _ _ := rfl
  drawable first settled drawn := by
    cases first.symm.trans settled
    exact ⟨_, drawn⟩

variable {σ : Type}

theorem describes (renderer : Plan → Attempt σ Scene) (start : Options) :
    behaviour.Describes start events { plot := plot σ, renderer } where
  beforeInit _ _ := rfl
  scale _ _ := rfl
  coordinate _ _ := rfl
  geometry options w :=
    run_bindKind (plot σ).toGeometryHooks rfl rfl .point "circle" options w
  animation _ _ _ := rfl
  eventTable _ := rfl
  fits _ h := h.eq_of_no_rules rfl
  settles _ _ _ h := h.eq_of_no_rules rfl

end Charting.Plot.Scatter
