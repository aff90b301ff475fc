import Charting.Proofs.Layer.Record
import Charting.Proofs.Plot.ColumnLabels

/-!
# What a held scene shows

A scene is held together with the geometry that it was drawn from, whatever fails. The size and the
rows of the layer may have moved on: an operation stores them before it plans, and when it cannot
plan, it leaves the scene of the earlier ones.
-/

namespace Charting

namespace Operation

def viewport? : Operation → Option Viewport
  | .resize viewport => some viewport
  | _ => none

def data? : Operation → Option (List Datum)
  | .changeData data => some data
  | _ => none

/-- What operations ask for, the later before the earlier, and otherwise what there was. -/
def latest {α : Type} (asks : Operation → Option α) (ops : List Operation) (before : α) : α :=
  ops.foldl (fun a op => (asks op).getD a) before

theorem latest_append {α : Type} (asks : Operation → Option α) (ops more : List Operation)
    (before : α) : latest asks (ops ++ more) before = latest asks more (latest asks ops before) :=
  List.foldl_append

end Operation

/-- The operation of a step, unless it was refused: then it has not called anybody. -/
def Step.taken (step : Step) : List Operation := if step.calls = [] then [] else [step.op]

theorem Step.latest_taken {α : Type} (asks : Operation → Option α) (step : Step) (before : α) :
    Operation.latest asks step.taken before =
      if step.calls = [] then before else (asks step.op).getD before := by
  rw [Step.taken]
  split <;> rfl

/-- The operations that were taken up since the last drawing. -/
def undrawn (steps : List Step) : List Operation :=
  steps.foldl (fun ops step => if drawings step.calls = [] then ops ++ step.taken else []) []

theorem undrawn_concat (steps : List Step) (step : Step) :
    undrawn (steps ++ [step]) =
      if drawings step.calls = [] then undrawn steps ++ step.taken else [] := by
  simp [undrawn]

namespace Layer

variable {σ : Type} {c : Collaborators σ} {op : Operation} {start l l' : Layer}
  {steps : List Step} {scene : Scene}

theorem Compiles.geometry_of_error {w w' : σ} {e} (h : Compiles c l w (.error e) l' w') :
    l'.geometry = l.geometry := by
  cases h <;> rfl

theorem Compiles.isSome_geometry {w w' : σ} (h : Compiles c l w (.ok ()) l' w') :
    ∃ geometry, l'.geometry = some geometry := by
  cases h
  exact ⟨_, rfl⟩

theorem Prepares.isSome_geometry {w w' : σ} (h : Prepares c op l w l' w') :
    ∃ geometry, l'.geometry = some geometry := by
  cases h with
  | render init rules compile events => exact compile.isSome_geometry
  | resize valid rendered rules compile => exact compile.isSome_geometry
  | changeData rendered compile => exact compile.isSome_geometry

theorem Prepares.rendered {w w' : σ} (h : Prepares c op l w l' w') : l'.rendered = true := by
  cases h with
  | render init rules compile events => rfl
  | resize valid rendered rules compile =>
      rw [compile.eq_with, rules.eq_with]
      exact rendered
  | changeData rendered compile =>
      rw [compile.eq_with]
      exact rendered

theorem Draws.rendered {w w' : σ} {r} (h : Draws c l w r l' w') : l'.rendered = l.rendered :=
  congrArg (·.2.2) h.gate

/-! ## Drawing -/

/-- The layer holds what came of the last drawing, and what it was drawn from. -/
def ShowsLast (calls : List Call) (l : Layer) : Prop :=
  ∃ plan answer, (drawings calls).getLast? = some (plan, answer) ∧ l.scene = answer.toOption ∧
    l.geometry = some plan.geometry ∧ l.viewport = plan.viewport ∧ l.data = plan.data

section Drawing

variable {w w' : σ × List Call}

theorem ShowsLast.stays (h : ShowsLast w.2 l)
    (calls : Adds (fun call => call.drawing? = none) w w')
    (same : l'.scene = l.scene ∧ l'.geometry = l.geometry ∧ l'.viewport = l.viewport ∧
      l'.data = l.data) : ShowsLast w'.2 l' := by
  obtain ⟨plan, answer, last, held⟩ := h
  refine ⟨plan, answer, by rw [calls.drawings, last], ?_⟩
  obtain ⟨scene, geometry, viewport, data⟩ := same
  rw [scene, geometry, viewport, data]
  exact held

theorem Renders.showsLast {r geometry} (h : Renders c.noted l w r l' w')
    (planned : l.geometry = some geometry) : ShowsLast w'.2 l' := by
  obtain ⟨answer, log, seen⟩ := h.adds planned
  refine ⟨l.planWith geometry, answer, ?_, seen, ?_⟩
  · rw [log, drawings_append]
    exact List.getLast?_concat
  · rw [h.eq_with]
    exact ⟨planned, rfl, rfl⟩

theorem ShowsLast.rules {stage r} (h : ShowsLast w.2 l)
    (rules : AppliesRules c.noted stage l w r l' w') : ShowsLast w'.2 l' :=
  h.stays rules.undrawn (by rw [rules.eq_with]; exact ⟨rfl, rfl, rfl, rfl⟩)

theorem ShowsLast.overlays (h : ShowsLast w.2 l) (overlay : Overlays c.noted l w l' w') :
    ShowsLast w'.2 { l' with stage := .afterRender } :=
  h.stays overlay.undrawn (by rw [overlay.eq_with]; exact ⟨rfl, rfl, rfl, rfl⟩)

/-- However a drawing ends, the scene that is left is that of the last call to the renderer. -/
theorem Draws.showsLast {r geometry} (h : Draws c.noted l w r l' w')
    (planned : l.geometry = some geometry) : ShowsLast w'.2 l' := by
  cases h with
  | undrawn render => exact render.showsLast planned
  | kept render rules same overlay =>
      exact ((render.showsLast planned).rules rules).overlays overlay
  | unplanned render rules changed compile =>
      -- planning has failed, so the geometry is still the one of the scene
      refine ((render.showsLast planned).rules rules).stays compile.undrawn ?_
      refine ⟨?_, compile.geometry_of_error, ?_, ?_⟩ <;> rw [compile.eq_with]
  | lost render rules changed compile redraw =>
      obtain ⟨geometry', planned'⟩ := compile.isSome_geometry
      exact redraw.showsLast planned'
  | redrawn render rules changed compile redraw overlay =>
      obtain ⟨geometry', planned'⟩ := compile.isSome_geometry
      exact (redraw.showsLast planned').overlays overlay

/-! ## Stopping early -/

/-- An operation that draws nothing leaves the scene, and the geometry of the scene. -/
theorem Stops.leaves {r} (h : Stops c.noted op l w r l' w') :
    l'.scene = l.scene ∧ l'.geometry = l.geometry ∧ l'.rendered = l.rendered ∧
      Adds (fun call => call.drawing? = none) w w' := by
  cases h with
  | uninitialized init =>
      obtain ⟨-, log⟩ := run_noting (fun _ => [.beforeInit]) _ init
      exact ⟨rfl, rfl, rfl, .of_call log rfl⟩
  | unplanned init rules compile =>
      obtain ⟨-, log⟩ := run_noting (fun _ => [.beforeInit]) _ init
      rw [compile.eq_with, compile.geometry_of_error, rules.eq_with]
      have first : Adds (fun call => call.drawing? = none) w _ := .of_call log rfl
      exact ⟨rfl, rfl, rfl, first.trans (rules.undrawn.trans compile.undrawn)⟩
  | empty => exact ⟨rfl, rfl, rfl, .refl⟩
  | early => exact ⟨rfl, rfl, rfl, .refl⟩
  | unresized valid rendered rules compile =>
      rw [compile.eq_with, compile.geometry_of_error, rules.eq_with]
      exact ⟨rfl, rfl, rfl, rules.undrawn.trans compile.undrawn⟩
  | stored unrendered => exact ⟨rfl, rfl, rfl, .refl⟩
  | unfed rendered compile =>
      rw [compile.eq_with, compile.geometry_of_error]
      exact ⟨rfl, rfl, rfl, compile.undrawn⟩
  | refused rules =>
      rw [rules.eq_with]
      exact ⟨rfl, rfl, rfl, rules.undrawn⟩
  | ruled rules =>
      rw [rules.eq_with]
      exact ⟨rfl, rfl, rfl, rules.undrawn⟩

/-- A rendered layer takes the size and the rows of an operation, unless it refuses them. -/
theorem Stops.asks {r} {w : σ} (h : Stops c.noted op l (w, []) r l' w')
    (rendered : l.rendered = true) :
    l'.viewport = Operation.latest Operation.viewport? (Step.taken ⟨op, w'.2⟩) l.viewport ∧
      l'.data = Operation.latest Operation.data? (Step.taken ⟨op, w'.2⟩) l.data := by
  simp only [Step.latest_taken]
  cases h with
  | uninitialized init => simp [Operation.viewport?, Operation.data?]
  | unplanned init rules compile =>
      rw [compile.eq_with, rules.eq_with]
      simp [Operation.viewport?, Operation.data?]
  | empty => exact ⟨rfl, rfl⟩
  | early => exact ⟨rfl, rfl⟩
  | unresized valid rendered rules compile =>
      have called : w'.2 ≠ [] := List.ne_nil_of_length_pos
        (Nat.lt_of_le_of_lt rules.adds.length_le compile.length_lt)
      rw [compile.eq_with, rules.eq_with, if_neg called, if_neg called]
      exact ⟨rfl, rfl⟩
  | stored unrendered => simp [rendered] at unrendered
  | unfed rendered compile =>
      have called : w'.2 ≠ [] := List.ne_nil_of_length_pos compile.length_lt
      rw [compile.eq_with, if_neg called, if_neg called]
      exact ⟨rfl, rfl⟩
  | refused rules =>
      rw [rules.eq_with]
      simp [Operation.viewport?, Operation.data?]
  | ruled rules =>
      rw [rules.eq_with]
      simp [Operation.viewport?, Operation.data?]

end Drawing

/-! ## Held scenes -/

/-- The plan that the scene was drawn from last, against what the layer holds now. -/
structure Shows (steps : List Step) (l : Layer) (scene : Scene) (plan : Plan) : Prop where
  drawn : (drawings (allCalls steps)).getLast? = some (plan, .ok scene)
  geometry : l.geometry = some plan.geometry
  viewport : l.viewport = Operation.latest Operation.viewport? (undrawn steps) plan.viewport
  data : l.data = Operation.latest Operation.data? (undrawn steps) plan.data

theorem ShowsLast.shows {calls : List Call} (h : ShowsLast calls l) (seen : l.scene = some scene) :
    ∃ plan, Shows (steps ++ [⟨op, calls⟩]) l scene plan := by
  obtain ⟨plan, answer, last, held, geometry, viewport, data⟩ := h
  have ok : answer = .ok scene := by
    rw [seen] at held
    cases answer with
    | error e => cases held
    | ok scene' => exact congrArg Except.ok (Option.some.inj held).symm
  have drew : drawings calls ≠ [] := fun none_drawn => by simp [none_drawn] at last
  have nothing : undrawn (steps ++ [⟨op, calls⟩]) = [] := by
    simp [undrawn_concat, drew]
  refine ⟨plan, ?_, geometry, ?_, ?_⟩
  · rw [allCalls_concat, drawings_append, List.getLast?_append, last, ok]
    rfl
  · rw [nothing, viewport]
    rfl
  · rw [nothing, data]
    rfl

theorem Shows.stops {r plan} {w : σ} {w' : σ × List Call} (h : Shows steps l scene plan)
    (rendered : l.rendered = true) (stops : Stops c.noted op l (w, []) r l' w') :
    Shows (steps ++ [⟨op, w'.2⟩]) l' scene plan := by
  obtain ⟨-, geometry, -, calls⟩ := stops.leaves
  obtain ⟨viewport, data⟩ := stops.asks rendered
  have silent : drawings w'.2 = [] := calls.drawings
  refine ⟨?_, geometry.trans h.geometry, ?_, ?_⟩
  · rw [allCalls_concat, drawings_append, silent, List.append_nil]
    exact h.drawn
  · rw [undrawn_concat, if_pos silent, Operation.latest_append, ← h.viewport, viewport]
  · rw [undrawn_concat, if_pos silent, Operation.latest_append, ← h.data, data]

/-- By induction on the record: every step draws anew, or leaves the scene with its geometry. -/
theorem Recorded.shows (bare : start.scene = none)
    (h : Recorded c start steps l) (seen : l.scene = some scene) :
    l.rendered = true ∧ ∃ plan, Shows steps l scene plan := by
  refine h.invariant (P := fun steps l => ∀ scene, l.scene = some scene →
    l.rendered = true ∧ ∃ plan, Shows steps l scene plan) ?_ ?_ scene seen
  · simp [bare]
  · rintro steps op l w r l' w' (stops | ⟨l₁, w₁, prepared, drawn⟩) held scene seen
    · obtain ⟨same, -, flag, -⟩ := stops.leaves
      obtain ⟨rendered, plan, shows⟩ := held scene (same ▸ seen)
      exact ⟨flag.trans rendered, plan, shows.stops rendered stops⟩
    · obtain ⟨geometry, planned⟩ := prepared.isSome_geometry
      exact ⟨drawn.rendered.trans prepared.rendered, (drawn.showsLast planned).shows seen⟩

/-- A scene that is held was drawn for the geometry that is held with it. -/
theorem Recorded.geometry_of_scene {description : Description}
    (created : create c.plot description = .ok start) (h : Recorded c start steps l)
    (seen : l.scene = some scene) :
    ∃ plan, (drawings (allCalls steps)).getLast? = some (plan, .ok scene) ∧
      l.geometry = some plan.geometry := by
  obtain ⟨-, options, -, rfl⟩ := create_eq_ok.mp created
  obtain ⟨-, plan, shows⟩ := h.shows rfl seen
  exact ⟨plan, shows.drawn, shows.geometry⟩

/--
A layer with a scene has the size and the rows that the scene was drawn for, except for what was
asked of it since by operations that were taken up and did not get as far as drawing.
-/
theorem Recorded.changes_since_drawn {description : Description}
    (created : create c.plot description = .ok start) (h : Recorded c start steps l)
    (seen : l.scene = some scene) :
    ∃ plan, (drawings (allCalls steps)).getLast? = some (plan, .ok scene) ∧
      l.viewport = Operation.latest Operation.viewport? (undrawn steps) plan.viewport ∧
      l.data = Operation.latest Operation.data? (undrawn steps) plan.data := by
  obtain ⟨-, options, -, rfl⟩ := create_eq_ok.mp created
  obtain ⟨-, plan, shows⟩ := h.shows rfl seen
  exact ⟨plan, shows.drawn, shows.viewport, shows.data⟩

/-! ## A scene that is left behind -/

/-- Columns for which no labels can be had. -/
def labelless : Collaborators Layout.Headless :=
  { Plot.Column.headless with
    factories :=
      { Factories.standard with component := fun kind _ => throw (.unsupportedComponent kind) } }

/-- The column with the label false: its rules ask for a label after the drawing, in vain. -/
def halfDrawn : Layer :=
  ((Operation.render.perform labelless).exec Plot.Column.newUnlabelled {}).1.2

def narrowing : Operation := .resize { width := 200, height := 100 }

/-- The same column in a smaller container: it cannot be planned for it. -/
def narrowed : Layer := ((narrowing.perform labelless).exec halfDrawn { renders := 1 }).1.2

def narrowedSteps : List Step :=
  [⟨.render, Operation.render.calls labelless Plot.Column.newUnlabelled {}⟩,
    ⟨narrowing, narrowing.calls labelless halfDrawn { renders := 1 }⟩]

theorem create_labelless :
    create labelless.plot Plot.Column.unlabelled = .ok Plot.Column.newUnlabelled :=
  Plot.Column.create_newUnlabelled

theorem recorded_narrowed :
    Recorded labelless Plot.Column.newUnlabelled narrowedSteps narrowed :=
  have drawn : Recorded labelless Plot.Column.newUnlabelled ([] ++ [_]) halfDrawn :=
    .perform .start (LayerM.exec_of_outcome rfl)
  .perform drawn (LayerM.exec_of_outcome rfl)

theorem narrowed_scene : ∃ scene, narrowed.scene = some scene :=
  Option.isSome_iff_exists.mp (by decide +kernel)

theorem geometry_of_scene_narrowed :
    ∃ scene, narrowed.scene = some scene ∧ ∃ plan,
      (drawings (allCalls narrowedSteps)).getLast? = some (plan, .ok scene) ∧
        narrowed.geometry = some plan.geometry := by
  obtain ⟨scene, seen⟩ := narrowed_scene
  exact ⟨scene, seen, Recorded.geometry_of_scene create_labelless recorded_narrowed seen⟩

theorem changes_since_drawn_narrowed :
    ∃ scene, narrowed.scene = some scene ∧ ∃ plan,
      (drawings (allCalls narrowedSteps)).getLast? = some (plan, .ok scene) ∧
        narrowed.viewport =
          Operation.latest Operation.viewport? (undrawn narrowedSteps) plan.viewport ∧
        narrowed.data = Operation.latest Operation.data? (undrawn narrowedSteps) plan.data := by
  obtain ⟨scene, seen⟩ := narrowed_scene
  exact ⟨scene, seen, Recorded.changes_since_drawn create_labelless recorded_narrowed seen⟩

/-- The column still shows a scene after it has been narrowed, but none was drawn for that size. -/
theorem narrowed_stale :
    create labelless.plot Plot.Column.unlabelled = .ok Plot.Column.newUnlabelled ∧
      Recorded labelless Plot.Column.newUnlabelled narrowedSteps narrowed ∧
      narrowed.scene.isSome = true ∧
      ∀ drawing ∈ drawings (allCalls narrowedSteps), drawing.1.viewport ≠ narrowed.viewport := by
  refine ⟨create_labelless, recorded_narrowed, ?_, ?_⟩ <;> decide +kernel

end Layer

end Charting
