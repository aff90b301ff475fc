import Charting.Layout.Headless
import Charting.Proofs.Layer.Operations

/-!
# Plot types as functions

What is left of a plot type, with the standard factories, when its hooks look at the options only
and its rules replace what they wrote before: how it plans a chart, and how it rewrites the options
for a size and for a scene.
-/

namespace Charting

/-- How a plot type plans a chart and how its rules rewrite the options, as functions. -/
structure Behaviour (κ : Type) where
  scale : Options → Except Failure ScaleSet
  geometry : Options → Except Failure Geometry
  /-- What the rules before drawing write for a size. -/
  fit : Viewport → Options → Options
  /-- What the rules after drawing find in a scene. -/
  judge : List Datum → Scene → κ
  /-- What they write for it. -/
  settle : κ → Options → Options

namespace Behaviour

variable {κ σ : Type} (b : Behaviour κ) (start : Options)

def plan? (options : Options) (viewport : Viewport) (data : List Datum) : Except Failure Plan := do
  let scales ← b.scale options
  let geometry ← b.geometry options
  return {
    viewport
    options
    scales
    coordinate := {}
    geometry := Layer.silence options geometry
    data }

theorem plan?_eq_ok {b : Behaviour κ} {options : Options} {viewport : Viewport}
    {data : List Datum} {plan : Plan} :
    b.plan? options viewport data = .ok plan ↔
      ∃ scales geometry, b.scale options = .ok scales ∧ b.geometry options = .ok geometry ∧
        plan = {
          viewport
          options
          scales
          coordinate := {}
          geometry := Layer.silence options geometry
          data } := by
  simp only [plan?, Outcome.bind_eq_ok, Outcome.pure_eq_ok, exists_and_left]

/-- Options as rules leave them for a size. -/
inductive Adapted (viewport : Viewport) : Options → Prop
  | fitted : Adapted viewport (b.fit viewport start)
  | settled (found : κ) : Adapted viewport (b.settle found (b.fit viewport start))

/-- Rewriting replaces what was written, and leaves alone what planning and drawing depend on. -/
structure Lawful : Prop where
  fit_fit : ∀ v v', b.fit v (b.fit v' start) = b.fit v start
  fit_settle : ∀ v v' found,
    b.fit v (b.settle found (b.fit v' start)) = b.settle found (b.fit v start)
  settle_settle : ∀ v found found',
    b.settle found (b.settle found' (b.fit v start)) = b.settle found (b.fit v start)
  settle_of_agrees : ∀ {v options found}, b.Adapted start v options →
    (options == b.settle found options) = true → b.settle found options = options
  events : ∀ {v options}, b.Adapted start v options → options.get? "events" = start.get? "events"
  /-- If any of the options can be planned, all of them can. -/
  plans : ∀ {v v' options options' data data' plan},
    b.Adapted start v options → b.Adapted start v' options' →
      b.plan? options v data = .ok plan → ∃ plan', b.plan? options' v' data' = .ok plan'
  /-- What the rules find in a scene is not changed by what they write. -/
  judged : ∀ {v found data first plan}, b.plan? (b.fit v start) v data = .ok first →
    b.plan? (b.settle found (b.fit v start)) v data = .ok plan →
      b.judge data (Layout.scene plan) = b.judge data (Layout.scene first)
  /-- A chart that can be drawn in the end can be drawn at first. -/
  drawable : ∀ {v found data first plan scene}, b.plan? (b.fit v start) v data = .ok first →
    b.plan? (b.settle found (b.fit v start)) v data = .ok plan →
      Layout.draw plan = .ok scene → ∃ scene', Layout.draw first = .ok scene'

variable {b start}

theorem Lawful.fit_adapted (h : b.Lawful start) {v v' : Viewport} {options : Options}
    (adapted : b.Adapted start v' options) : b.Adapted start v (b.fit v options) := by
  cases adapted with
  | fitted =>
      rw [h.fit_fit]
      exact .fitted
  | settled found =>
      rw [h.fit_settle]
      exact .settled found

theorem Lawful.settle_adapted (h : b.Lawful start) {v : Viewport} {options : Options} (found : κ)
    (adapted : b.Adapted start v options) :
    b.settle found options = b.settle found (b.fit v start) := by
  cases adapted with
  | fitted => rfl
  | settled found' => exact h.settle_settle v found found'

/-- The scene of any of the options for a size and some rows leads to the same findings. -/
theorem Lawful.judge_adapted (h : b.Lawful start) {v : Viewport} {options : Options}
    {data : List Datum} {first plan : Plan} (adapted : b.Adapted start v options)
    (planned : b.plan? (b.fit v start) v data = .ok first)
    (planned' : b.plan? options v data = .ok plan) :
    b.judge data (Layout.scene plan) = b.judge data (Layout.scene first) := by
  cases adapted with
  | fitted =>
      rw [planned] at planned'
      cases planned'
      rfl
  | settled found => exact h.judged planned planned'

/-- The plot type of some collaborators behaves so, and its hooks keep nothing. -/
structure Describes (b : Behaviour κ) (start : Options) (table : List EventRow)
    (c : Collaborators σ) : Prop where
  beforeInit : ∀ options w, (c.plot.beforeInit.run.run options).run w = ((.ok (), options), w)
  scale : ∀ options w, (c.plot.scale options).run.run w = (b.scale options, w)
  coordinate : ∀ options w, (c.plot.coordinate options).run w = ({}, w)
  geometry : ∀ options w,
    (c.plot.addGeometry c.factories options).run.run w = (b.geometry options, w)
  animation : ∀ options geometry w, (c.plot.animation options geometry).run w = (geometry, w)
  eventTable : ∀ w, c.plot.eventTable.run w = (table, w)
  fits : ∀ {l w count l' w'}, (l.options = start ∨ ∃ v, b.Adapted start v l.options) →
    Layer.AppliesRules c .preRender l w (.ok count) l' w' →
      l' = { l with options := b.fit l.viewport l.options } ∧ w' = w
  settles : ∀ {l scene plan w count l' w'}, b.Adapted start l.viewport l.options →
    b.plan? l.options l.viewport l.data = .ok plan → l.scene = some scene →
      Layer.AppliesRules c .afterRender l w (.ok count) l' w' →
        l' = { l with options := b.settle (b.judge l.data scene) l.options } ∧ w' = w

end Behaviour

/-- Every answer of the renderer is the scene of the plan; it may fail when it likes. -/
def Collaborators.Faithful {σ : Type} (c : Collaborators σ) : Prop :=
  ∀ {plan w scene w'}, (c.renderer plan).run.run w = (.ok scene, w') →
    Layout.draw plan = .ok scene

/-- The renderer answers with the scene of the plan whenever the plan has one. -/
def Collaborators.Plain {σ : Type} (c : Collaborators σ) : Prop :=
  ∀ plan w, ((c.renderer plan).run.run w).1 = Layout.draw plan

theorem Collaborators.Plain.faithful {σ : Type} {c : Collaborators σ} (h : c.Plain) :
    c.Faithful := by
  intro plan w scene w' answer
  rw [← h plan w, answer]

theorem Layout.Headless.render_plain (plot : PlotType Layout.Headless) :
    Collaborators.Plain { plot, renderer := Layout.Headless.render } := by
  intro plan counts
  show ((Layout.Headless.render plan).run.run counts).1 = Layout.draw plan
  rw [Layout.Headless.render]
  cases Layout.draw plan <;> rfl

/-- The renderer does not touch what a part of the world shows. -/
def Collaborators.Spares {σ τ : Type} (c : Collaborators σ) (part : σ → τ) : Prop :=
  ∀ plan w, part ((c.renderer plan).run.run w).2 = part w

theorem Layout.eq_scene_of_draw {plan : Plan} {scene : Scene}
    (h : Layout.draw plan = .ok scene) : scene = Layout.scene plan := by
  rw [Layout.draw] at h
  cases valid : (Layout.scene plan).validate with
  | error e =>
      rw [valid] at h
      cases h
  | ok _ =>
      rw [valid] at h
      cases h
      rfl

end Charting
