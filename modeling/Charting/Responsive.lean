import Charting.Scene

/-!
# Responsive rules

A rule adapts the options to the size of the container. Rules run before and after drawing, in the
order in which they were registered; one that fails leaves the options as it found them, and the
others still run.
-/

namespace Charting

inductive RuleStage where
  | preRender
  | afterRender
deriving DecidableEq, Repr

def RuleStage.name : RuleStage → String
  | .preRender => "preRender"
  | .afterRender => "afterRender"

/-- Work on the options in the world `σ`; what it wrote before it failed stays written. -/
abbrev OptionsM (σ α : Type) := ExceptT Failure (StateT Options (StateM σ)) α

/-- A change that depends on the options alone, and writes nothing when it fails. -/
def OptionsM.ofFunction {σ : Type} (f : Options → Except Failure Options) : OptionsM σ Unit := do
  match f (← get) with
  | .ok options => set options
  | .error e => throw e

/--
What a rule may look at. The rules of a pass start from the same context, and one that overwrites
it for those after it leaves a note in the world: there is no other way from one to the next.
-/
structure RuleContext where
  viewport : Viewport
  data : List Datum
  scene : Option Scene

structure Rule (σ : Type) where
  name : String
  stage : RuleStage
  method : RuleContext → OptionsM σ Unit

/-- The rules of a plot type, in the order of registration. -/
structure RuleSet (σ : Type) where
  all : List (Rule σ) := []

namespace RuleSet

variable {σ : Type}

def withRule (rules : RuleSet σ) (rule : Rule σ) : RuleSet σ := ⟨rules.all ++ [rule]⟩

def ofStage (rules : RuleSet σ) (stage : RuleStage) : List (Rule σ) :=
  rules.all.filter fun rule => rule.stage == stage

end RuleSet

/-- Rules run only if the options say so, and not while padding is automatic. -/
def Options.isResponsive (options : Options) : Bool :=
  options.bool? "responsive" == some true && options.string? "padding" != some "auto"

namespace Rule

variable {σ : Type}

/-- Runs a rule, restores the options if it fails, and says whether it completed. -/
def attempt (context : RuleContext) (rule : Rule σ) : StateT Options (StateM σ) Bool := do
  let before ← get
  match ← (rule.method context).run with
  | .ok () => return true
  | .error _ =>
    set before
    return false

end Rule

/-- Runs the rules of a stage and counts those that completed. -/
def RuleSet.apply {σ : Type} (rules : RuleSet σ) (stage : RuleStage) (context : RuleContext) :
    StateT Options (StateM σ) Nat :=
  (rules.ofStage stage).foldlM
    (fun completed rule => do
      return if ← rule.attempt context then completed + 1 else completed)
    0

end Charting
