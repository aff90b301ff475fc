import Charting.Responsive

/-!
# Running rules
-/

namespace Charting

variable {σ : Type}

/-- A rule that fails leaves the options as it found them, and the world as it left it. -/
theorem Rule.run_attempt (rule : Rule σ) (context : RuleContext) (options : Options) (w : σ) :
    ((rule.attempt context).run options).run w =
      match ((rule.method context).run.run options).run w with
      | ((.ok (), after), w₁) => ((true, after), w₁)
      | ((.error _, _), w₁) => ((false, options), w₁) := by
  simp only [Rule.attempt, StateT.run_bind, StateT.run_get, pure_bind]
  rcases ((rule.method context).run.run options).run w with ⟨⟨_ | _, _⟩, _⟩ <;> rfl

theorem Rule.run_attempt_ofFunction (name : String) (stage : RuleStage)
    (f : RuleContext → Options → Except Failure Options) (context : RuleContext)
    (options : Options) (w : σ) :
    (((⟨name, stage, fun context => OptionsM.ofFunction (f context)⟩ : Rule σ).attempt
        context).run options).run w =
      match f context options with
      | .ok after => ((true, after), w)
      | .error _ => ((false, options), w) := by
  rw [Rule.run_attempt]
  have unfolded : ((OptionsM.ofFunction (f context) : OptionsM σ Unit).run.run options).run w =
      (((match f context options with
        | .ok after => set after
        | .error e => throw e) : OptionsM σ Unit).run.run options).run w := rfl
  rw [unfolded]
  cases f context options <;> rfl

/-! ## What rules leave alone -/

variable {τ : Type} {part : σ → τ}

theorem Rule.attempt_ofFunction_spares (name : String) (stage : RuleStage)
    (f : RuleContext → Options → Except Failure Options) (context : RuleContext)
    (options : Options) (w : σ) :
    part ((((⟨name, stage, fun context => OptionsM.ofFunction (f context)⟩ : Rule σ).attempt
      context).run options).run w).2 = part w := by
  rw [Rule.run_attempt_ofFunction]
  cases f context options <;> rfl

/-- Rules that touch nothing touch nothing together. -/
theorem RuleSet.apply_spares {rules : RuleSet σ}
    (each : ∀ rule ∈ rules.all, ∀ context options w,
      part (((rule.attempt context).run options).run w).2 = part w)
    (stage : RuleStage) (context : RuleContext) (options : Options) (w : σ) :
    part (((rules.apply stage context).run options).run w).2 = part w := by
  have staged : ∀ rule ∈ rules.ofStage stage, ∀ options w,
      part (((rule.attempt context).run options).run w).2 = part w := fun rule among =>
    each rule (List.mem_filter.mp among).1 context
  rw [RuleSet.apply]
  generalize 0 = completed
  generalize rules.ofStage stage = due at staged
  induction due generalizing completed options w with
  | nil => rfl
  | cons rule rest ih =>
      have first := staged rule List.mem_cons_self options w
      rw [List.foldlM_cons, StateT.run_bind, ← first]
      exact ih _ _ _ fun rule among => staged rule (List.mem_cons_of_mem _ among)

end Charting
