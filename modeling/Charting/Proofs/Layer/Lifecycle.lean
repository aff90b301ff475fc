import Charting.Proofs.Layer.CallOrder

/-!
# The lifecycle of a layer

A layer counts as rendered from the first rendering that got past its first pass of planning,
whatever became of the drawing. Before that it is not resized, and new rows are only stored. Its
events are those that the last such rendering has parsed.
-/

namespace Charting

theorem Viewport.isValid_iff {viewport : Viewport} :
    viewport.isValid = true ↔ ¬(viewport.width = 0 ∨ viewport.height = 0) := by
  simp only [Viewport.isValid, Bool.and_eq_true, decide_eq_true_eq, not_or, UInt32.lt_iff_toNat_lt,
    ← UInt32.toNat_inj, UInt32.toNat_zero]
  omega

namespace Layer

variable {σ : Type} {c : Collaborators σ} {op : Operation} {start l l' : Layer} {w w' : σ}
  {r : Except Failure Unit}

/-! ## Renderings -/

/-- A rendering up to the end of its first pass of planning. -/
def planFirst (c : Collaborators σ) : LayerM σ Unit := do
  LayerM.onOptions c.plot.beforeInit
  enter .beforeInit
  let _ ← applyResponsive c .preRender
  compile c

def parseEvents (c : Collaborators σ) (planned : Layer) (w : σ) : EventBindings :=
  .bind c.plot.name (c.plot.eventTable.run w).1 c.plot.names (planned.options.get? "events")

theorem exec_render : (render c).exec l w =
    match (planFirst c).exec l w with
    | ((.ok _, planned), w₁) =>
      (draw c).exec
        { planned with events := parseEvents c planned w₁, stage := .parseEvents, rendered := true }
        (c.plot.eventTable.run w₁).2
    | ((.error e, l₁), w₁) => ((.error e, l₁), w₁) := by
  have split : render c = (do
      planFirst c
      bindEvents c
      modify fun layer => { layer with rendered := true }
      draw c) := by
    simp only [render, planFirst, bind_assoc]
  rw [split, LayerM.exec_bind]
  rcases (planFirst c).exec l w with ⟨⟨e | _, planned⟩, w₁⟩
  · rfl
  · simp only [bindEvents, enter, LayerM.exec_bind, LayerM.exec_modify]
    rfl

end Layer

/-- What a rendering parses that gets past its first pass of planning; the others parse nothing. -/
def Operation.parsed? {σ : Type} (c : Collaborators σ) (l : Layer) (w : σ) :
    Operation → Option EventBindings
  | .render =>
    match (Layer.planFirst c).exec l w with
    | ((.ok _, planned), w₁) => some (Layer.parseEvents c planned w₁)
    | ((.error _, _), _) => none
  | _ => none

namespace Layer

variable {σ : Type} {c : Collaborators σ} {op : Operation} {start l l' : Layer} {w w' : σ}
  {r : Except Failure Unit}

/-! ## What an operation leaves of the gate -/

theorem gate_planFirst (h : (planFirst c).exec l w = ((r, l'), w')) : l'.gate = l.gate := by
  rw [planFirst, LayerM.exec_bind, LayerM.exec_onOptions] at h
  rcases init : (c.plot.beforeInit.run.run l.options).run w with ⟨⟨e | _, options⟩, w₀⟩
  · simp only [init] at h
    cases h
    rfl
  · simp only [init, enter, LayerM.exec_modify_bind] at h
    rw [LayerM.exec_bind] at h
    rcases ruled : (applyResponsive c .preRender).exec
      { l with options, stage := .beforeInit } w₀ with ⟨⟨e | _, l₁⟩, w₁⟩
    · rw [ruled] at h
      cases h
      exact (AppliesRules.of_exec ruled).gate
    · rw [ruled] at h
      exact (Compiles.of_exec h).gate.trans (AppliesRules.of_exec ruled).gate

theorem gate_render (h : (render c).exec l w = ((r, l'), w')) :
    let parsed := Operation.parsed? c l w .render
    l'.gate = (l.viewport, parsed.getD l.events, parsed.isSome || l.rendered) := by
  rw [exec_render] at h
  rw [Operation.parsed?]
  rcases first : (planFirst c).exec l w with ⟨⟨e | _, planned⟩, w₁⟩
  · rw [first] at h
    cases h
    exact gate_planFirst first
  · rw [first] at h
    have size : planned.viewport = l.viewport := congrArg Prod.fst (gate_planFirst first)
    rw [(Draws.of_exec h).gate, gate, size]
    rfl

/-- The other operations can only change the size, and only to a valid one. -/
theorem Performs.gate (h : Performs c op l w r l' w') (other : op ≠ .render) :
    ∃ viewport, l'.gate = (viewport, l.events, l.rendered) ∧
      (l.viewport.isValid = true → viewport.isValid = true) := by
  rcases h with stops | ⟨l₁, w₁, prepared, drawn⟩
  · cases stops with
    | uninitialized | unplanned => exact absurd rfl other
    | empty | early | stored => exact ⟨_, rfl, id⟩
    | unresized valid rendered rules compile =>
        exact ⟨_, compile.gate.trans rules.gate, fun _ => valid⟩
    | unfed rendered compile => exact ⟨_, compile.gate, id⟩
    | refused rules | ruled rules => exact ⟨_, rules.gate, id⟩
  · cases prepared with
    | render => exact absurd rfl other
    | resize valid rendered rules compile =>
        exact ⟨_, drawn.gate.trans (compile.gate.trans rules.gate), fun _ => valid⟩
    | changeData rendered compile => exact ⟨_, drawn.gate.trans compile.gate, id⟩

/-- Only a rendering that is planned binds events, and from then on the layer is rendered. -/
theorem gate_perform (run : (op.perform c).exec l w = ((r, l'), w')) :
    let parsed := op.parsed? c l w
    ∃ viewport, l'.gate = (viewport, parsed.getD l.events, parsed.isSome || l.rendered) ∧
      (l.viewport.isValid = true → viewport.isValid = true) := by
  cases op with
  | render => exact ⟨_, gate_render run, id⟩
  | resize | changeData | applyResponsive => exact (Performs.of_exec run).gate (by simp)

end Layer

/-! ## Histories -/

/-- An operation, with the layer and the world that it was performed in. -/
structure Turn (σ : Type) where
  op : Operation
  layer : Layer
  world : σ

/-- What the renderings among the turns have parsed, in their order. -/
def parsings {σ : Type} (c : Collaborators σ) (turns : List (Turn σ)) : List EventBindings :=
  turns.filterMap fun turn => turn.op.parsed? c turn.layer turn.world

theorem parsings_concat {σ : Type} (c : Collaborators σ) (turns : List (Turn σ)) (turn : Turn σ) :
    parsings c (turns ++ [turn]) =
      parsings c turns ++ (turn.op.parsed? c turn.layer turn.world).toList := by
  rw [parsings, List.filterMap_append, ← parsings]
  cases parsed : turn.op.parsed? c turn.layer turn.world <;> simp [parsed]

namespace Layer

/-- The states of a layer with the turns that led to them, each of them taken in any world. -/
inductive History {σ : Type} (c : Collaborators σ) (start : Layer) : List (Turn σ) → Layer → Prop
  | start : History c start [] start
  | perform {turns op l w r l' w'} (before : History c start turns l)
      (run : (op.perform c).exec l w = ((r, l'), w')) :
      History c start (turns ++ [⟨op, l, w⟩]) l'

variable {σ : Type} {c : Collaborators σ} {start l l' : Layer} {w : σ} {w' : σ × List Call}
  {r : Except Failure Unit} {turns : List (Turn σ)} {viewport : Viewport} {e : Failure}

theorem History.gate (h : History c start turns l) (valid : start.viewport.isValid = true)
    (unheard : start.events = {}) (unrendered : start.rendered = false) :
    ∃ viewport, viewport.isValid = true ∧
      l.gate = (viewport, (parsings c turns).getLast?.getD {}, !(parsings c turns).isEmpty) := by
  -- by induction on the turns, of which only a rendering that parses adds to the list
  induction h with
  | start => exact ⟨_, valid, by rw [Layer.gate, unheard, unrendered]; rfl⟩
  | @perform turns op l w r l' w' before run ih =>
      obtain ⟨viewport, valid, gate⟩ := ih
      obtain ⟨viewport', gate', valid'⟩ := gate_perform run
      simp only [Layer.gate, Prod.mk.injEq] at gate
      obtain ⟨rfl, events, rendered⟩ := gate
      refine ⟨viewport', valid' valid, ?_⟩
      rw [gate', parsings_concat, events, rendered]
      cases op.parsed? c l w <;> simp

/-! ## Refused sizes -/

/-- Why a size is refused after renderings that have parsed these, if it is. -/
def refusal? (parsed : List EventBindings) (viewport : Viewport) : Option Failure :=
  if viewport.width = 0 ∨ viewport.height = 0 then some (.invalidViewport viewport)
  else if parsed.isEmpty then some (.invalidStage "resize" "render")
  else none

theorem refusal?_eq_none {parsed : List EventBindings} (h : refusal? parsed viewport = none) :
    viewport.isValid = true ∧ (!parsed.isEmpty) = true := by
  rw [refusal?] at h
  split at h
  · cases h
  · rename_i sides
    split at h
    · cases h
    · rename_i heard
      exact ⟨Viewport.isValid_iff.mpr sides, by simpa using heard⟩

theorem exec_resize_refused {parsed : List EventBindings} (gate : l.rendered = !parsed.isEmpty)
    (refused : refusal? parsed viewport = some e) :
    (resize c viewport).exec l w = ((.error e, l), w) := by
  rw [refusal?] at refused
  rw [resize]
  split at refused
  · rename_i zero
    have invalid : viewport.isValid = false := by
      simpa using mt Viewport.isValid_iff.mp (not_not_intro zero)
    cases refused
    rw [invalid]
    exact LayerM.exec_throw_bind _ _
  · rename_i sides
    split at refused
    · rename_i unheard
      have unrendered : l.rendered = false := by rw [gate, unheard]; rfl
      cases refused
      rw [Viewport.isValid_iff.mpr sides]
      simp only [Bool.not_true, Bool.false_eq_true, ↓reduceIte, LayerM.exec_get_bind, unrendered,
        Bool.not_false]
      exact LayerM.exec_throw_bind _ _
    · cases refused

theorem Performs.follows_resize (h : Performs c.noted (.resize viewport) l (w, []) r l' w')
    (valid : viewport.isValid = true) (rendered : l.rendered = true) :
    ∃ due, Follows (Call.failure? (.ok ())) due w'.2 r := by
  have makes : ∃ due stage stage',
      Makes (Call.failure? (.ok ())) due stage [] r stage' w'.2 := by
    rcases h with stops | ⟨l₁, w₁, prepared, drawn⟩
    · cases stops with
      | empty invalid => simp [valid] at invalid
      | early _ unrendered => simp [rendered] at unrendered
      | unresized _ _ rules compile => exact ⟨_, _, _, rules.makes.trans compile.makes⟩
    · obtain ⟨geometry, planned⟩ := prepared.isSome_geometry
      cases prepared with
      | resize _ _ rules compile =>
          exact ⟨_, _, _, (rules.makes.trans compile.makes).trans (drawn.makes planned)⟩
  obtain ⟨due, _, _, calls, log, follows, -⟩ := makes
  rw [log]
  exact ⟨due, follows⟩

/-! ## The gate -/

/--
The size of a layer is valid. A new size is refused if a side is zero, or else if no rendering has
got past its first pass of planning, which leaves the layer as it is; any other failure is that of
a collaborator. New rows before such a rendering are stored, and nothing else. The events are those
that the last such rendering has parsed.
-/
theorem History.lifecycle {description : Description}
    (created : create c.plot description = .ok start) (h : History c start turns l) :
    (0 < l.viewport.width ∧ 0 < l.viewport.height) ∧
      (∀ viewport w e, ((resize c viewport).exec l w).1.1 = .error e ↔
        refusal? (parsings c turns) viewport = some e ∨
          ∃ call ∈ (Operation.resize viewport).calls c l w, call.failure? (.ok ()) = some e) ∧
      (∀ viewport w e, refusal? (parsings c turns) viewport = some e →
        (resize c viewport).exec l w = ((.error e, l), w) ∧
          (Operation.resize viewport).calls c l w = []) ∧
      (parsings c turns = [] → ∀ data w,
        (changeData c data).exec l w = ((.ok (), { l with data }), w)) ∧
      l.events = (parsings c turns).getLast?.getD {} ∧
      ∀ (op : Operation) w,
        ((op.perform c).exec l w).1.2.events = (op.parsed? c l w).getD l.events := by
  obtain ⟨valid, options, -, rfl⟩ := create_eq_ok.mp created
  obtain ⟨viewport, valid, gate⟩ := h.gate valid rfl rfl
  simp only [Layer.gate, Prod.mk.injEq] at gate
  obtain ⟨rfl, events, rendered⟩ := gate
  have refused {viewport e} (refusal : refusal? (parsings c turns) viewport = some e) (w : σ) :
      (resize c viewport).exec l w = ((.error e, l), w) ∧
        (Operation.resize viewport).calls c l w = [] := by
    refine ⟨exec_resize_refused rendered refusal, ?_⟩
    rw [Operation.calls, Operation.perform, exec_resize_refused rendered refusal]
  refine ⟨?_, ?_, fun viewport w e refusal => refused refusal w, ?_, events, ?_⟩
  · simpa [Viewport.isValid] using valid
  · intro viewport w e
    cases refusal : refusal? (parsings c turns) viewport with
    | some e' =>
        obtain ⟨run, calls⟩ := refused refusal w
        simp [run, calls]
    | none =>
        obtain ⟨sides, heard⟩ := refusal?_eq_none refusal
        have noted := Operation.exec_noted c (.resize viewport) l w
        obtain ⟨due, follows⟩ :=
          (Performs.of_exec noted).follows_resize sides (rendered.trans heard)
        exact follows.error_iff.trans (by simp)
  · intro unheard data w
    have unrendered : l.rendered = false := by rw [rendered, unheard]; rfl
    simp only [changeData, LayerM.exec_modify_bind, LayerM.exec_get_bind, unrendered,
      Bool.false_eq_true, ↓reduceIte]
    exact LayerM.exec_pure ()
  · intro op w
    have run := LayerM.exec_of_outcome (rfl : ((op.perform c).exec l w).1.1 = _)
    obtain ⟨viewport, gate, -⟩ := gate_perform run
    exact congrArg (·.2.1) gate

def halfDrawnTurns : List (Turn Layout.Headless) := [⟨.render, Plot.Column.newUnlabelled, {}⟩]

theorem history_halfDrawn : History labelless Plot.Column.newUnlabelled halfDrawnTurns halfDrawn :=
  .perform .start (LayerM.exec_of_outcome rfl)

/--
The column whose rules ask for a label in vain is planned once before its rendering fails: its
events are bound, and only a size without a side is still refused.
-/
theorem lifecycle_halfDrawn :
    ((render labelless).exec Plot.Column.newUnlabelled {}).1.1 =
        .error (.unsupportedComponent "label") ∧
      (parsings labelless halfDrawnTurns).length = 1 ∧
      halfDrawn.events = (parsings labelless halfDrawnTurns).getLast?.getD {} ∧
      refusal? (parsings labelless halfDrawnTurns) { width := 200, height := 100 } = none ∧
      ∀ w, (resize labelless { width := 0 }).exec halfDrawn w =
        ((.error (.invalidViewport { width := 0 }), halfDrawn), w) := by
  obtain ⟨-, -, refused, -, events, -⟩ := history_halfDrawn.lifecycle create_labelless
  exact ⟨by decide +kernel, by decide +kernel, events, by decide +kernel,
    fun w => (refused _ w _ rfl).1⟩

/-! ## A renderer that wants more room -/

/-- The headless renderer with a least width of its own; it calls anything narrower invalid. -/
def renderWide (plan : Plan) : Attempt Layout.Headless Scene :=
  if plan.viewport.width < 300 then throw (.invalidViewport plan.viewport)
  else Layout.Headless.render plan

def wideColumns : Collaborators Layout.Headless :=
  { Plot.Column.headless with renderer := renderWide }

def drawnWide : Layer := ((render wideColumns).exec Plot.Column.newUnlabelled {}).1.2

/-- The drawn column after the container has become too narrow for the renderer. -/
def narrowedWide : Except Failure Unit × Layer :=
  ((resize wideColumns { width := 200, height := 100 }).exec drawnWide {}).1

/--
A size with two sides is called invalid as well, if that is how the renderer fails. Then the layer
has the new size, and its scene is gone.
-/
theorem narrowedWide_invalid :
    create wideColumns.plot Plot.Column.unlabelled = .ok Plot.Column.newUnlabelled ∧
      ((render wideColumns).exec Plot.Column.newUnlabelled {}).1.1 = .ok () ∧
      drawnWide.rendered = true ∧
      narrowedWide.1 = .error (.invalidViewport { width := 200, height := 100 }) ∧
      narrowedWide.2.viewport ≠ drawnWide.viewport ∧
      drawnWide.scene.isSome = true ∧ narrowedWide.2.scene.isSome = false := by
  refine ⟨Plot.Column.create_newUnlabelled, ?_, ?_, ?_, ?_, ?_, ?_⟩ <;> decide +kernel

end Layer

end Charting
