import Charting.Proofs.Failure
import Charting.Proofs.Layer.Exits

/-!
# Operations and what they reach

An operation either ends before anything is drawn, or prepares the layer and draws it. The states of
a layer are those that any sequence of operations leaves, in whatever world each of them runs.
-/

namespace Charting

/-- What the owner of a layer may ask of it. -/
inductive Operation where
  | render
  | resize (viewport : Viewport)
  | changeData (data : List Datum)
  | applyResponsive (stage : RuleStage)

namespace Operation

variable {σ : Type}

def perform (c : Collaborators σ) : Operation → LayerM σ Unit
  | .render => Layer.render c
  | .resize viewport => Layer.resize c viewport
  | .changeData data => Layer.changeData c data
  | .applyResponsive stage => do
    let _ ← Layer.applyResponsive c stage

/-- The operation draws, if nothing goes wrong; new rows are only stored before the first plan. -/
def draws : Operation → Layer → Bool
  | .render, _ => true
  | .resize _, _ => true
  | .changeData _, l => l.rendered
  | .applyResponsive _, _ => false

end Operation

namespace Layer

variable {σ : Type} {c : Collaborators σ} {op : Operation} {l l' : Layer} {w w' : σ}

/-- The ways in which an operation gets as far as drawing, and the layer that is drawn. -/
inductive Prepares (c : Collaborators σ) : Operation → Layer → σ → Layer → σ → Prop
  | render {l w options w₀ count l₁ w₁ l₂ w₂ table w₃}
      (init : (c.plot.beforeInit.run.run l.options).run w = ((.ok (), options), w₀))
      (rules : AppliesRules c .preRender { l with options, stage := .beforeInit } w₀
        (.ok count) l₁ w₁)
      (compile : Compiles c l₁ w₁ (.ok ()) l₂ w₂)
      (events : c.plot.eventTable.run w₂ = (table, w₃)) :
      Prepares c .render l w
        { l₂ with
          events := .bind c.plot.name table c.plot.names (l₂.options.get? "events")
          stage := .parseEvents
          rendered := true } w₃
  | resize {viewport l w count l₁ w₁ l₂ w₂} (valid : viewport.isValid = true)
      (rendered : l.rendered = true)
      (rules : AppliesRules c .preRender { l with viewport } w (.ok count) l₁ w₁)
      (compile : Compiles c l₁ w₁ (.ok ()) l₂ w₂) :
      Prepares c (.resize viewport) l w l₂ w₂
  | changeData {data l w l₁ w₁} (rendered : l.rendered = true)
      (compile : Compiles c { l with data } w (.ok ()) l₁ w₁) :
      Prepares c (.changeData data) l w l₁ w₁

/-- The ways in which an operation ends without drawing. -/
inductive Stops (c : Collaborators σ) : Operation → Layer → σ → Except Failure Unit → Layer → σ → Prop
  | uninitialized {l w e options w₀}
      (init : (c.plot.beforeInit.run.run l.options).run w = ((.error e, options), w₀)) :
      Stops c .render l w (.error e) { l with options } w₀
  | unplanned {l w options w₀ count l₁ w₁ e l₂ w₂}
      (init : (c.plot.beforeInit.run.run l.options).run w = ((.ok (), options), w₀))
      (rules : AppliesRules c .preRender { l with options, stage := .beforeInit } w₀
        (.ok count) l₁ w₁)
      (compile : Compiles c l₁ w₁ (.error e) l₂ w₂) :
      Stops c .render l w (.error e) l₂ w₂
  | empty {viewport l w} (invalid : viewport.isValid = false) :
      Stops c (.resize viewport) l w (.error (.invalidViewport viewport)) l w
  | early {viewport l w} (valid : viewport.isValid = true) (unrendered : l.rendered = false) :
      Stops c (.resize viewport) l w (.error (.invalidStage "resize" Stage.render.name)) l w
  | unresized {viewport l w count l₁ w₁ e l₂ w₂} (valid : viewport.isValid = true)
      (rendered : l.rendered = true)
      (rules : AppliesRules c .preRender { l with viewport } w (.ok count) l₁ w₁)
      (compile : Compiles c l₁ w₁ (.error e) l₂ w₂) :
      Stops c (.resize viewport) l w (.error e) l₂ w₂
  | stored {data l w} (unrendered : l.rendered = false) :
      Stops c (.changeData data) l w (.ok ()) { l with data } w
  | unfed {data l w e l₁ w₁} (rendered : l.rendered = true)
      (compile : Compiles c { l with data } w (.error e) l₁ w₁) :
      Stops c (.changeData data) l w (.error e) l₁ w₁
  | refused {stage l w e l₁ w₁} (rules : AppliesRules c stage l w (.error e) l₁ w₁) :
      Stops c (.applyResponsive stage) l w (.error e) l₁ w₁
  | ruled {stage l w count l₁ w₁} (rules : AppliesRules c stage l w (.ok count) l₁ w₁) :
      Stops c (.applyResponsive stage) l w (.ok ()) l₁ w₁

/-- Every run of an operation stops early or draws what it has prepared. -/
def Performs (c : Collaborators σ) (op : Operation) (l : Layer) (w : σ)
    (r : Except Failure Unit) (l' : Layer) (w' : σ) : Prop :=
  Stops c op l w r l' w' ∨ ∃ l₁ w₁, Prepares c op l w l₁ w₁ ∧ Draws c l₁ w₁ r l' w'

/-- The earlier rules need no scene, so they are not refused. -/
theorem AppliesRules.preRender_ok {r} (h : AppliesRules c .preRender l w r l' w') :
    ∃ count, r = .ok count := by
  cases h with
  | refused after => cases after
  | gated => exact ⟨_, rfl⟩
  | applied => exact ⟨_, rfl⟩

theorem performs_render {r} (h : (render c).exec l w = ((r, l'), w')) :
    Performs c .render l w r l' w' := by
  rw [render, LayerM.exec_bind, LayerM.exec_onOptions] at h
  rcases init : (c.plot.beforeInit.run.run l.options).run w with ⟨⟨e | _, options⟩, w₀⟩
  · simp only [init] at h
    cases h
    exact .inl (.uninitialized init)
  · simp only [init, enter, LayerM.exec_modify_bind] at h
    rw [LayerM.exec_bind] at h
    rcases ruled : (applyResponsive c .preRender).exec
      { l with options, stage := .beforeInit } w₀ with ⟨⟨r₁, l₁⟩, w₁⟩
    have rules := AppliesRules.of_exec ruled
    obtain ⟨count, rfl⟩ := rules.preRender_ok
    simp only [ruled] at h
    rw [LayerM.exec_bind] at h
    rcases planned : (compile c).exec l₁ w₁ with ⟨⟨e | _, l₂⟩, w₂⟩
    · rw [planned] at h
      cases h
      exact .inl (.unplanned init rules (.of_exec planned))
    · simp only [planned] at h
      rcases events : c.plot.eventTable.run w₂ with ⟨table, w₃⟩
      rw [LayerM.exec_bind, bindEvents, LayerM.exec_call_bind, LayerM.run_ask, events] at h
      simp only [enter, LayerM.exec_modify_bind, LayerM.exec_modify] at h
      exact .inr ⟨_, _, .render init rules (.of_exec planned) events, .of_exec h⟩

theorem performs_resize {viewport r} (h : (resize c viewport).exec l w = ((r, l'), w')) :
    Performs c (.resize viewport) l w r l' w' := by
  simp only [resize] at h
  split at h
  · rename_i invalid
    rw [LayerM.exec_throw_bind] at h
    cases h
    exact .inl (.empty (by simpa using invalid))
  · rename_i valid
    simp only [LayerM.exec_get_bind] at h
    split at h
    · rename_i unrendered
      rw [LayerM.exec_throw_bind] at h
      cases h
      exact .inl (.early (by simpa using valid) (by simpa using unrendered))
    · rename_i rendered
      simp only [LayerM.exec_modify_bind] at h
      rw [LayerM.exec_bind] at h
      rcases ruled : (applyResponsive c .preRender).exec { l with viewport } w
        with ⟨⟨r₁, l₁⟩, w₁⟩
      have rules := AppliesRules.of_exec ruled
      obtain ⟨count, rfl⟩ := rules.preRender_ok
      simp only [ruled] at h
      rw [LayerM.exec_bind] at h
      rcases planned : (compile c).exec l₁ w₁ with ⟨⟨e | _, l₂⟩, w₂⟩
      · rw [planned] at h
        cases h
        exact .inl (.unresized (by simpa using valid) (by simpa using rendered) rules
          (.of_exec planned))
      · simp only [planned] at h
        exact .inr ⟨_, _, .resize (by simpa using valid) (by simpa using rendered) rules
          (.of_exec planned), .of_exec h⟩

theorem performs_changeData {data r} (h : (changeData c data).exec l w = ((r, l'), w')) :
    Performs c (.changeData data) l w r l' w' := by
  simp only [changeData, LayerM.exec_modify_bind, LayerM.exec_get_bind] at h
  split at h
  · rename_i rendered
    rw [LayerM.exec_bind] at h
    rcases planned : (compile c).exec { l with data } w with ⟨⟨e | _, l₁⟩, w₁⟩
    · rw [planned] at h
      cases h
      exact .inl (.unfed rendered (.of_exec planned))
    · simp only [planned] at h
      exact .inr ⟨_, _, .changeData rendered (.of_exec planned), .of_exec h⟩
  · rename_i unrendered
    cases h
    exact .inl (.stored (by simpa using unrendered))

theorem performs_applyResponsive {stage r}
    (h : ((Operation.applyResponsive stage).perform c).exec l w = ((r, l'), w')) :
    Performs c (.applyResponsive stage) l w r l' w' := by
  rw [Operation.perform, LayerM.exec_bind] at h
  rcases ruled : (applyResponsive c stage).exec l w with ⟨⟨e | count, l₁⟩, w₁⟩
  · rw [ruled] at h
    cases h
    exact .inl (.refused (.of_exec ruled))
  · rw [ruled] at h
    cases h
    exact .inl (.ruled (.of_exec ruled))

theorem Performs.of_exec {r} (h : (op.perform c).exec l w = ((r, l'), w')) :
    Performs c op l w r l' w' := by
  cases op with
  | render => exact performs_render h
  | resize viewport => exact performs_resize h
  | changeData data => exact performs_changeData h
  | applyResponsive stage => exact performs_applyResponsive h

theorem Performs.drawn (h : Performs c op l w (.ok ()) l' w') (draws : op.draws l = true) :
    ∃ l₁ w₁, Prepares c op l w l₁ w₁ ∧ Draws c l₁ w₁ (.ok ()) l' w' := by
  rcases h with stops | drawn
  · cases stops with
    | stored unrendered => simp [Operation.draws, unrendered] at draws
    | ruled => cases draws
  · exact drawn

/-! ## What every operation preserves -/

/-- Each part of an operation preserves a property of the layer and its world, however it ends. -/
structure Preserves (c : Collaborators σ) (P : Layer → σ → Prop) : Prop where
  init : ∀ {l w r options w'} (stage : Stage),
    (c.plot.beforeInit.run.run l.options).run w = ((r, options), w') → P l w →
      P { l with options, stage } w'
  rules : ∀ {stage l w r l' w'}, AppliesRules c stage l w r l' w' → P l w → P l' w'
  compiles : ∀ {l w r l' w'}, Compiles c l w r l' w' → P l w → P l' w'
  events : ∀ {l w table w'} (events : EventBindings),
    c.plot.eventTable.run w = (table, w') → P l w →
      P { l with events, stage := .parseEvents, rendered := true } w'
  renders : ∀ {l w r l' w'}, Renders c l w r l' w' → P l w → P l' w'
  overlays : ∀ {l w l' w'}, Overlays c l w l' w' → P l w → P { l' with stage := .afterRender } w'
  feeds : ∀ {l w} (viewport : Viewport) (data : List Datum), P l w → P { l with viewport, data } w

namespace Preserves

variable {P : Layer → σ → Prop}

theorem draws {r} (kept : Preserves c P) (h : Draws c l w r l' w') (holds : P l w) : P l' w' := by
  cases h with
  | undrawn render => exact kept.renders render holds
  | kept render rules same overlay =>
      exact kept.overlays overlay (kept.rules rules (kept.renders render holds))
  | unplanned render rules changed compile =>
      exact kept.compiles compile (kept.rules rules (kept.renders render holds))
  | lost render rules changed compile redraw =>
      have planned := kept.compiles compile (kept.rules rules (kept.renders render holds))
      exact kept.renders redraw planned
  | redrawn render rules changed compile redraw overlay =>
      have planned := kept.compiles compile (kept.rules rules (kept.renders render holds))
      exact kept.overlays overlay (kept.renders redraw planned)

theorem stops {r} (kept : Preserves c P) (h : Stops c op l w r l' w') (holds : P l w) :
    P l' w' := by
  cases h with
  | uninitialized init => exact kept.init _ init holds
  | unplanned init rules compile =>
      exact kept.compiles compile (kept.rules rules (kept.init _ init holds))
  | empty => exact holds
  | early => exact holds
  | unresized valid rendered rules compile =>
      exact kept.compiles compile (kept.rules rules (kept.feeds _ _ holds))
  | stored unrendered => exact kept.feeds _ _ holds
  | unfed rendered compile => exact kept.compiles compile (kept.feeds _ _ holds)
  | refused rules => exact kept.rules rules holds
  | ruled rules => exact kept.rules rules holds

theorem prepares (kept : Preserves c P) (h : Prepares c op l w l' w') (holds : P l w) :
    P l' w' := by
  cases h with
  | render init rules compile events =>
      have opened := kept.rules rules (kept.init _ init holds)
      exact kept.events _ events (kept.compiles compile opened)
  | resize valid rendered rules compile =>
      exact kept.compiles compile (kept.rules rules (kept.feeds _ _ holds))
  | changeData rendered compile => exact kept.compiles compile (kept.feeds _ _ holds)

/-- What the parts preserve, the operations made of them preserve. -/
theorem performs {r} (kept : Preserves c P) (h : Performs c op l w r l' w') (holds : P l w) :
    P l' w' := by
  rcases h with stops | ⟨l₁, w₁, prepared, drawn⟩
  · exact kept.stops stops holds
  · exact kept.draws drawn (kept.prepares prepared holds)

end Preserves

/-! ## States -/

theorem create_eq_ok {plot : PlotType σ} {description : Description} :
    create plot description = .ok l ↔ description.viewport.isValid = true ∧
      ∃ options, Options.resolve .baseDefaults plot.defaults description.options = .ok options ∧
        l = { viewport := description.viewport, data := description.data, options } := by
  rw [create]
  cases valid : description.viewport.isValid with
  | false => simp
  | true => simp only [↓reduceIte, Outcome.bind_eq_ok, Outcome.pure_eq_ok, true_and]

/-- The states that operations take a layer to, each of them run in any world. -/
inductive Reachable (c : Collaborators σ) (start : Layer) : Layer → Prop
  | start : Reachable c start start
  | perform {op : Operation} {l w r l' w'} (reached : Reachable c start l)
      (run : (op.perform c).exec l w = ((r, l'), w')) : Reachable c start l'

/-- What holds at the start and survives every operation holds of every state. -/
theorem Reachable.invariant {start : Layer} {P : Layer → Prop} (h : Reachable c start l)
    (holds : P start)
    (kept : ∀ {op : Operation} {l w r l' w'}, Performs c op l w r l' w' → P l → P l') : P l := by
  induction h with
  | start => exact holds
  | perform _ run ih => exact kept (.of_exec run) ih

end Layer

end Charting
