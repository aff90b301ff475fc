import Charting.Proofs.Responsive

/-!
# The trials of rules

When the rules of a stage run, each of them has one trial. It finds the options that the completed
trials before it left, and what it writes into them lasts only if it completes. The outcome of the
whole run can be read off its trials.
-/

namespace Charting

variable {σ : Type}

/-- The trial of a rule: how it ended, and the options and the world as they were by then. -/
structure Trial (σ : Type) where
  rule : Rule σ
  outcome : Except Failure Unit
  written : Options
  world : σ

namespace Trial

variable {context : RuleContext} {options : Options} {w : σ} {trial : Trial σ}
  {trials : List (Trial σ)}

def completed (trial : Trial σ) : Bool := trial.outcome.isOk

/-- The options that trials leave: those of the last completed one, or else those from before. -/
def left (options : Options) (trials : List (Trial σ)) : Options :=
  ((trials.filter completed).getLast?.map written).getD options

/-- The world that trials leave, in which a failed rule is not taken back. -/
def worldLeft (w : σ) (trials : List (Trial σ)) : σ := (trials.getLast?.map world).getD w

/-- Each trial is what its rule does with the options and the world that the earlier trials left. -/
def Played (context : RuleContext) (options : Options) (w : σ) (trials : List (Trial σ)) : Prop :=
  ∀ earlier trial later, trials = earlier ++ trial :: later →
    ((trial.rule.method context).run.run (left options earlier)).run (worldLeft w earlier) =
      ((trial.outcome, trial.written), trial.world)

theorem left_cons (options : Options) (trial : Trial σ) (trials : List (Trial σ)) :
    left options (trial :: trials) = left (left options [trial]) trials := by
  cases h : trial.completed <;>
    cases last : (trials.filter completed).getLast? <;>
    simp [left, h, last, List.getLast?_cons]

theorem worldLeft_cons (w : σ) (trial : Trial σ) (trials : List (Trial σ)) :
    worldLeft w (trial :: trials) = worldLeft trial.world trials := by
  cases last : trials.getLast? <;> simp [worldLeft, last, List.getLast?_cons]

theorem played_nil : Played context options w [] := by
  intro earlier trial later split
  simp at split

theorem Played.cons
    (first : ((trial.rule.method context).run.run options).run w =
      ((trial.outcome, trial.written), trial.world))
    (rest : Played context (left options [trial]) trial.world trials) :
    Played context options w (trial :: trials) := by
  intro earlier other later split
  cases earlier with
  | nil =>
      obtain ⟨rfl, -⟩ := List.cons.inj split
      exact first
  | cons head earlier =>
      obtain ⟨rfl, split'⟩ := List.cons.inj split
      rw [left_cons, worldLeft_cons]
      exact rest earlier other later split'

end Trial

namespace Rule

/-- The trial of a rule that finds these options in this world. -/
def trial (rule : Rule σ) (context : RuleContext) (options : Options) (w : σ) : Trial σ :=
  let ran := ((rule.method context).run.run options).run w
  { rule, outcome := ran.1.1, written := ran.1.2, world := ran.2 }

theorem trial_played (rule : Rule σ) (context : RuleContext) (options : Options) (w : σ) :
    let trial := rule.trial context options w
    ((trial.rule.method context).run.run options).run w =
      ((trial.outcome, trial.written), trial.world) := rfl

/-- One step of the run: the rule completes or not, and leaves what its trial leaves. -/
theorem run_attempt_trial (rule : Rule σ) (context : RuleContext) (options : Options) (w : σ) :
    ((rule.attempt context).run options).run w =
      let trial := rule.trial context options w
      ((trial.completed, Trial.left options [trial]), trial.world) := by
  rw [Rule.run_attempt]
  rcases ran : ((rule.method context).run.run options).run w with ⟨⟨e | _, written⟩, w₁⟩ <;>
    simp [trial, ran, Trial.completed, Trial.left, Except.isOk, Except.toBool]

end Rule

namespace RuleSet

theorem all_foldl_withRule (rules : RuleSet σ) (added : List (Rule σ)) :
    (added.foldl withRule rules).all = rules.all ++ added := by
  induction added generalizing rules with
  | nil => simp
  | cons rule rest ih => simp [ih, withRule]

/-- By induction on the rules that are due, each of which finds what the one before it left. -/
theorem run_attempts (due : List (Rule σ)) (context : RuleContext) (completed : Nat)
    (options : Options) (w : σ) :
    ∃ trials : List (Trial σ), trials.map Trial.rule = due ∧ Trial.Played context options w trials ∧
      ((due.foldlM (fun completed rule => do
        return if ← rule.attempt context then completed + 1 else completed) completed :
          StateT Options (StateM σ) Nat).run options).run w =
        ((completed + trials.countP Trial.completed, Trial.left options trials),
          Trial.worldLeft w trials) := by
  induction due generalizing completed options w with
  | nil => exact ⟨[], rfl, Trial.played_nil, rfl⟩
  | cons rule rest ih =>
      have ran := rule.run_attempt_trial context options w
      have first := rule.trial_played context options w
      have named : (rule.trial context options w).rule = rule := rfl
      generalize rule.trial context options w = trial at ran first named
      obtain ⟨trials, rules, played, run⟩ :=
        ih (if trial.completed then completed + 1 else completed) (Trial.left options [trial])
          trial.world
      refine ⟨trial :: trials, by rw [List.map_cons, named, rules], .cons first played, ?_⟩
      rw [List.foldlM_cons, bind_assoc, StateT.run_bind, StateT.run_bind, ran]
      simp only [pure_bind]
      have count : (if trial.completed then completed + 1 else completed) +
          trials.countP Trial.completed = completed + (trial :: trials).countP Trial.completed := by
        rw [List.countP_cons]
        split <;> omega
      rw [Trial.left_cons options trial trials, Trial.worldLeft_cons w trial trials, ← count]
      exact run

/--
A run of the rules of a stage is one trial for each of them, in the order in which they were
registered and whatever the options say by then. A trial finds the options of the last completed
trial before it, the run leaves those of the last completed one, and the completed trials are
counted.
-/
theorem apply_tries_rules (added : List (Rule σ)) (stage : RuleStage) (context : RuleContext)
    (options : Options) (w : σ) :
    ∃ trials : List (Trial σ),
      trials.map Trial.rule = added.filter (fun rule => rule.stage == stage) ∧
      Trial.Played context options w trials ∧
      (((added.foldl withRule {}).apply stage context).run options).run w =
        ((trials.countP Trial.completed, Trial.left options trials), Trial.worldLeft w trials) := by
  obtain ⟨trials, rules, played, run⟩ :=
    run_attempts ((added.foldl withRule {}).ofStage stage) context 0 options w
  have due : (added.foldl withRule {}).ofStage stage =
      added.filter fun rule => rule.stage == stage := by
    rw [ofStage, all_foldl_withRule, List.nil_append]
  refine ⟨trials, rules.trans due, played, run.trans ?_⟩
  rw [Nat.zero_add]

/-- Rules that are switched off by one of them, and one that fails after it has written. -/
example :
    let writing (flag : String) (value : Bool) (outcome : Except Failure Unit) : Rule Unit :=
      ⟨flag, .afterRender, fun _ => do
        modify (·.set flag (.bool value))
        ExceptT.mk (pure outcome)⟩
    let rules : List (Rule Unit) := [writing "responsive" false (.ok ()),
      writing "lost" true (.error .malformedJson), writing "kept" true (.ok ())]
    (((rules.foldl withRule {}).apply .afterRender ⟨{}, [], none⟩).run
        ⟨.obj [("responsive", .bool true)]⟩).run () =
      ((2, ⟨.obj [("responsive", .bool false), ("kept", .bool true)]⟩), ()) := rfl

end RuleSet

end Charting
