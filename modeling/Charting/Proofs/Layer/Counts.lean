import Charting.Proofs.Layer.Fresh
import Charting.Proofs.Layer.Scenes

/-!
# What the renderer counts

The operations on a layer follow each other in one world, in which the renderer keeps its counts.
They are those of the scenes that it has drawn: a call that it refused is not among them.
-/

namespace Charting

/-- The scenes that were drawn, in their order. -/
def drawnScenes (calls : List Call) : List Scene :=
  (drawings calls).filterMap fun drawing => drawing.2.toOption

theorem drawnScenes_append (calls more : List Call) :
    drawnScenes (calls ++ more) = drawnScenes calls ++ drawnScenes more := by
  rw [drawnScenes, drawings_append, List.filterMap_append]
  rfl

namespace Layout.Headless

/-- The counts after some scenes. -/
def tally (counts : Headless) (scenes : List Scene) : Headless := scenes.foldl record counts

theorem tally_append (counts : Headless) (scenes more : List Scene) :
    counts.tally (scenes ++ more) = (counts.tally scenes).tally more := List.foldl_append

/-- All scenes are counted, and the last one is measured. -/
theorem tally_eq (counts : Headless) (scenes : List Scene) :
    counts.tally scenes = {
      renders := counts.renders + scenes.length
      lastElements := (scenes.getLast?.map (·.elements.length)).getD counts.lastElements
      lastLabels := (scenes.getLast?.map (·.labels.length)).getD counts.lastLabels } := by
  induction scenes generalizing counts with
  | nil => rfl
  | cons scene rest ih =>
      have first : counts.tally (scene :: rest) = (counts.record scene).tally rest := rfl
      rw [first, ih, List.getLast?_cons]
      cases rest.getLast? <;> simp +arith [record]

/-- The renderer counts what it answers with, if it does. -/
theorem run_beside_eq {σ : Type} (plan : Plan) (x : Headless × σ) :
    (beside plan).run.run x = (draw plan, (x.1.tally (draw plan).toOption.toList, x.2)) := by
  have split : (beside plan).run.run x =
      (((render plan).run.run x.1).1, (((render plan).run.run x.1).2, x.2)) := rfl
  rw [split, render]
  cases draw plan <;> rfl

end Layout.Headless

/-- The hooks of a plot type, and the factories in them, do not touch a part of the world. -/
structure Collaborators.HooksSpare {σ τ : Type} (c : Collaborators σ) (part : σ → τ) : Prop where
  beforeInit : ∀ options w, part ((c.plot.beforeInit.run.run options).run w).2 = part w
  rules : ∀ stage context options w,
    part (((c.plot.rules.apply stage context).run options).run w).2 = part w
  scale : ∀ options w, part ((c.plot.scale options).run.run w).2 = part w
  coordinate : ∀ options w, part ((c.plot.coordinate options).run w).2 = part w
  geometry : ∀ options w, part ((c.plot.addGeometry c.factories options).run.run w).2 = part w
  animation : ∀ options geometry w, part ((c.plot.animation options geometry).run w).2 = part w
  eventTable : ∀ w, part (c.plot.eventTable.run w).2 = part w
  overlay : ∀ scene options w, part ((c.plot.attachOverlay scene options).run w).2 = part w

theorem Collaborators.HooksSpare.noted {σ τ : Type} {c : Collaborators σ} {part : σ → τ}
    (h : c.HooksSpare part) : c.noted.HooksSpare fun w => part w.1 where
  beforeInit options w := h.beforeInit options w.1
  rules stage context options w := by
    have logged := Logs.rules c.plot.rules stage context options w.1 w.2
    exact (congrArg (fun ran => part ran.2.1) logged).trans (h.rules stage context options w.1)
  scale options w := h.scale options w.1
  coordinate options w := h.coordinate options w.1
  geometry options w := h.geometry options w.1
  animation options geometry w := h.animation options geometry w.1
  eventTable w := h.eventTable w.1
  overlay scene options w := h.overlay scene options w.1

/-- A plot type that keeps nothing spares everything, if its rules and its overlay do. -/
theorem Behaviour.Describes.hooksSpare {κ σ τ : Type} {part : σ → τ} {b : Behaviour κ} {start : Options}
    {table : List EventRow} {c : Collaborators σ} (desc : b.Describes start table c)
    (rules : ∀ stage context options w,
      part (((c.plot.rules.apply stage context).run options).run w).2 = part w)
    (overlay : ∀ scene options w, part ((c.plot.attachOverlay scene options).run w).2 = part w) :
    c.HooksSpare part where
  beforeInit options w := by rw [desc.beforeInit]
  rules := rules
  scale options w := by rw [desc.scale]
  coordinate options w := by rw [desc.coordinate]
  geometry options w := by rw [desc.geometry]
  animation options geometry w := by rw [desc.animation]
  eventTable w := by rw [desc.eventTable]
  overlay := overlay

namespace Layer

section Sparing

variable {σ τ : Type} {c : Collaborators σ} {part : σ → τ} {l l' : Layer} {w w' : σ}

theorem Compiles.spares {r} (hooks : c.HooksSpare part) (h : Compiles c l w r l' w') :
    part w' = part w := by
  have scaled {r w₁} (scale : (c.plot.scale l.options).run.run w = (r, w₁)) : part w₁ = part w := by
    rw [← hooks.scale l.options w, scale]
  have bound {scales coordinate r w₁ w₂ w₃}
      (scale : (c.plot.scale l.options).run.run w = (.ok scales, w₁))
      (coordinates : (c.plot.coordinate l.options).run w₁ = (coordinate, w₂))
      (bind : (c.plot.addGeometry c.factories l.options).run.run w₂ = (r, w₃)) :
      part w₃ = part w := by
    rw [← scaled scale, ← hooks.coordinate l.options w₁, coordinates,
      ← hooks.geometry l.options w₂, bind]
  cases h with
  | noScales scale => exact scaled scale
  | noGeometry scale coordinates bind => exact bound scale coordinates bind
  | @planned _ _ made _ _ _ w₃ _ scale coordinates bind animate =>
      rw [← bound scale coordinates bind, ← hooks.animation l.options made w₃, animate]

theorem AppliesRules.spares {stage r} (hooks : c.HooksSpare part)
    (h : AppliesRules c stage l w r l' w') : part w' = part w := by
  cases h with
  | refused => rfl
  | gated => rfl
  | applied seen on rules => rw [← hooks.rules stage l.ruleContext l.options w, rules]

theorem Overlays.spares (hooks : c.HooksSpare part) (h : Overlays c l w l' w') :
    part w' = part w := by
  cases h with
  | bare => rfl
  | laid seen attach => rw [← hooks.overlay _ l.options w, attach]

end Sparing

/-! ## Runs -/

variable {σ : Type} {c : Collaborators (Layout.Headless × σ)} {start l l' : Layer}
  {counts : Layout.Headless} {steps : List Step}

/-- The counts are those from before and of the scenes that the log tells of. -/
def Tallied (counts : Layout.Headless) (w : (Layout.Headless × σ) × List Call) : Prop :=
  w.1.1 = counts.tally (drawnScenes w.2)

theorem Tallied.stays {w w' : (Layout.Headless × σ) × List Call} (h : Tallied counts w)
    (same : w'.1.1 = w.1.1) (calls : Adds (fun call => call.drawing? = none) w w') :
    Tallied counts w' := by
  rw [Tallied, same, drawnScenes, calls.drawings]
  exact h

theorem Tallied.renders {r} {w w' : (Layout.Headless × σ) × List Call}
    (headless : c.renderer = Layout.Headless.beside) (render : Renders c.noted l w r l' w')
    (h : Tallied counts w) : Tallied counts w' := by
  have counted {plan answer w₁}
      (answered : (c.noted.renderer plan).run.run w = (answer, w₁)) : Tallied counts w₁ := by
    obtain ⟨run, log⟩ := run_noting (fun answer => [.render plan answer]) (c.renderer plan).run
      answered
    rw [headless] at run
    obtain ⟨answer_eq, counts_eq⟩ := Prod.mk.inj
      ((Layout.Headless.run_beside_eq plan w.1).symm.trans run)
    rw [Tallied, ← counts_eq, log, drawnScenes_append, Layout.Headless.tally_append, ← answer_eq]
    rw [Tallied] at h
    rw [h]
    cases Layout.draw plan <;> rfl
  cases render with
  | unplanned => exact h
  | failed planned answer => exact counted answer
  | drawn planned answer => exact counted answer

theorem preserves_tallied (hooks : c.HooksSpare Prod.fst)
    (headless : c.renderer = Layout.Headless.beside) :
    Preserves c.noted fun _ w => Tallied counts w where
  init {l w _ _ _} _ init h := by
    obtain ⟨run, log⟩ := run_noting (fun _ => [.beforeInit]) _ init
    exact h.stays ((congrArg (·.2.1) run).symm.trans (hooks.beforeInit l.options w.1))
      (.of_call log rfl)
  rules rules h := by
    have same := rules.spares hooks.noted
    exact h.stays same rules.undrawn
  compiles compile h := by
    have same := compile.spares hooks.noted
    exact h.stays same compile.undrawn
  events {_ w _ _} _ events h := by
    obtain ⟨run, log⟩ := run_noting (fun _ => [.events]) _ events
    exact h.stays ((congrArg (·.2.1) run).symm.trans (hooks.eventTable w.1)) (.of_call log rfl)
  renders render h := h.renders headless render
  overlays overlay h := by
    have same := overlay.spares hooks.noted
    exact h.stays same overlay.undrawn
  feeds _ _ h := h

/-- The runs of a layer from a world: each operation finds the world that the one before left. -/
inductive Runs {σ : Type} (c : Collaborators σ) (start : Layer) (first : σ) :
    List Step → Layer → σ → Prop
  | start : Runs c start first [] start first
  | perform {steps op l w r l' w'} (before : Runs c start first steps l w)
      (run : (op.perform c).exec l w = ((r, l'), w')) :
      Runs c start first (steps ++ [⟨op, op.calls c l w⟩]) l' w'

theorem Runs.next {σ : Type} {c : Collaborators σ} {first w : σ}
    (before : Runs c start first steps l w) (op : Operation) :
    Runs c start first (steps ++ [⟨op, op.calls c l w⟩]) ((op.perform c).exec l w).1.2
      ((op.perform c).exec l w).2 := .perform before rfl

theorem Runs.reachable {σ : Type} {c : Collaborators σ} {first w : σ}
    (h : Runs c start first steps l w) : Reachable c start l := by
  induction h with
  | start => exact .start
  | perform _ run ih => exact .perform ih run

/-- By induction on the run: every operation counts the scenes that it draws. -/
theorem Runs.tallied {first w : Layout.Headless × σ} (hooks : c.HooksSpare Prod.fst)
    (headless : c.renderer = Layout.Headless.beside) (h : Runs c start first steps l w) :
    w.1 = first.1.tally (drawnScenes (allCalls steps)) := by
  induction h with
  | start => rfl
  | @perform steps op l w r l' w' before run ih =>
      have noted := op.exec_noted c l w
      rw [run] at noted
      have performs : Performs c.noted op l (w, []) r l' (w', op.calls c l w) := .of_exec noted
      have none_drawn : Tallied w.1 (w, []) := rfl
      have tallied := (preserves_tallied hooks headless).performs performs none_drawn
      rw [allCalls_concat, drawnScenes_append, Layout.Headless.tally_append, ← ih]
      exact tallied

end Layer

end Charting
