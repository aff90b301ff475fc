import Charting.Proofs.Layer.Execution

/-!
# The exits of planning and drawing

Every way in which a part of an operation can end, with the calls that were made, the layer that is
left and the outcome. A statement about all runs is proved by going through these exits, and nothing
else opens the operations themselves.
-/

namespace Charting.Layer

variable {σ : Type} {c : Collaborators σ} {l l' : Layer} {w w' : σ}

/-! ## Planning -/

/-- The exits of `compile`. Scales and coordinate system are kept when there is no geometry. -/
inductive Compiles (c : Collaborators σ) (l : Layer) (w : σ) :
    Except Failure Unit → Layer → σ → Prop
  | noScales {e w₁} (scale : (c.plot.scale l.options).run.run w = (.error e, w₁)) :
      Compiles c l w (.error e) l w₁
  | noGeometry {scales coordinate e w₁ w₂ w₃}
      (scale : (c.plot.scale l.options).run.run w = (.ok scales, w₁))
      (coordinates : (c.plot.coordinate l.options).run w₁ = (coordinate, w₂))
      (bind : (c.plot.addGeometry c.factories l.options).run.run w₂ = (.error e, w₃)) :
      Compiles c l w (.error e) { l with scales, coordinate, stage := .coordinate } w₃
  | planned {scales coordinate made geometry w₁ w₂ w₃ w₄}
      (scale : (c.plot.scale l.options).run.run w = (.ok scales, w₁))
      (coordinates : (c.plot.coordinate l.options).run w₁ = (coordinate, w₂))
      (bind : (c.plot.addGeometry c.factories l.options).run.run w₂ = (.ok made, w₃))
      (animate : (c.plot.animation l.options made).run w₃ = (geometry, w₄)) :
      Compiles c l w (.ok ())
        { l with
          scales
          coordinate
          geometry := some (silence l.options geometry)
          stage := .animation } w₄

theorem Compiles.of_exec {r} (h : (compile c).exec l w = ((r, l'), w')) :
    Compiles c l w r l' w' := by
  simp only [compile, enter, LayerM.exec_get_bind, LayerM.exec_call_bind,
    LayerM.exec_modify_bind, LayerM.exec_modify] at h
  rcases scale : (c.plot.scale l.options).run.run w with ⟨_ | scales, w₁⟩
  · rw [scale] at h
    cases h
    exact .noScales scale
  · rw [scale] at h
    rcases coordinates : (c.plot.coordinate l.options).run w₁ with ⟨coordinate, w₂⟩
    simp only [LayerM.run_ask, coordinates] at h
    rcases bind : (c.plot.addGeometry c.factories l.options).run.run w₂ with ⟨_ | made, w₃⟩
    · rw [bind] at h
      cases h
      exact .noGeometry scale coordinates bind
    · rw [bind] at h
      rcases animate : (c.plot.animation l.options made).run w₃ with ⟨geometry, w₄⟩
      simp only [animate] at h
      cases h
      exact .planned scale coordinates bind animate

theorem Compiles.options {r} (h : Compiles c l w r l' w') : l'.options = l.options := by
  cases h <;> rfl

/-- Planning leaves alone what it starts from, and what was drawn. -/
theorem Compiles.eq_with {r} (h : Compiles c l w r l' w') :
    l' = { l with
      scales := l'.scales
      coordinate := l'.coordinate
      geometry := l'.geometry
      stage := l'.stage } := by
  cases h <;> rfl

/-! ## Rules -/

/-- The exits of `applyResponsive`, which only ever touches the options. -/
inductive AppliesRules (c : Collaborators σ) (stage : RuleStage) (l : Layer) (w : σ) :
    Except Failure Nat → Layer → σ → Prop
  | refused (after : stage = .afterRender) (unseen : l.scene = none) :
      AppliesRules c stage l w (.error (.invalidStage stage.name Stage.render.name)) l w
  | gated (seen : stage = .afterRender → l.scene.isSome) (off : l.options.isResponsive = false) :
      AppliesRules c stage l w (.ok 0) l w
  | applied {count options w₁} (seen : stage = .afterRender → l.scene.isSome)
      (on : l.options.isResponsive = true)
      (rules : ((c.plot.rules.apply stage l.ruleContext).run l.options).run w =
        ((count, options), w₁)) :
      AppliesRules c stage l w (.ok count) { l with options } w₁

theorem AppliesRules.of_exec {stage r}
    (h : (applyResponsive c stage).exec l w = ((r, l'), w')) : AppliesRules c stage l w r l' w' := by
  simp only [applyResponsive, LayerM.exec_get_bind] at h
  split at h
  · rename_i early
    simp only [Bool.and_eq_true, decide_eq_true_eq, Option.isNone_iff_eq_none] at early
    cases h
    exact .refused early.1 early.2
  · rename_i timely
    have seen : stage = .afterRender → l.scene.isSome := by
      intro hs
      cases hl : l.scene with
      | none => simp [hs, hl] at timely
      | some scene => rfl
    split at h
    · rename_i on
      cases h
      exact .applied seen on rfl
    · rename_i off
      cases h
      exact .gated seen (by simpa using off)

theorem AppliesRules.eq_with {stage r} (h : AppliesRules c stage l w r l' w') :
    l' = { l with options := l'.options } := by
  cases h <;> rfl

/-- Without a reason to draw again, rules have left options that agree with the earlier ones. -/
theorem AppliesRules.agree {stage count} (h : AppliesRules c stage l w (.ok count) l' w')
    (same : (l.options.isResponsive && l.options != l'.options) = false) :
    l.options = l'.options ∨ (l.options == l'.options) = true := by
  cases h with
  | gated => exact .inl rfl
  | applied seen on rules => exact .inr (by simpa [on, bne] using same)

theorem AppliesRules.seen {count} (h : AppliesRules c .afterRender l w (.ok count) l' w') :
    l.scene.isSome = true := by
  cases h with
  | gated seen => exact seen rfl
  | applied seen => exact seen rfl

theorem AppliesRules.seen_after {count} (h : AppliesRules c .afterRender l w (.ok count) l' w') :
    l'.scene.isSome = true := by
  rw [h.eq_with]
  exact h.seen

theorem AppliesRules.eq_of_no_rules {stage count} (bare : c.plot.rules = {})
    (h : AppliesRules c stage l w (.ok count) l' w') : l' = l ∧ w' = w := by
  cases h with
  | gated => exact ⟨rfl, rfl⟩
  | applied _ on rules =>
      rw [bare] at rules
      cases rules
      exact ⟨rfl, rfl⟩

/-! ## Drawing -/

/-- The exits of `renderScene`. A renderer that fails takes the scene and its overlay along. -/
inductive Renders (c : Collaborators σ) (l : Layer) (w : σ) :
    Except Failure Unit → Layer → σ → Prop
  | unplanned (bare : l.geometry = none) :
      Renders c l w (.error (.invalidStage Stage.render.name Stage.addGeometry.name)) l w
  | failed {geometry e w₁} (planned : l.geometry = some geometry)
      (answer : (c.renderer (l.planWith geometry)).run.run w = (.error e, w₁)) :
      Renders c l w (.error e) { l with scene := none, overlay := none } w₁
  | drawn {geometry scene w₁} (planned : l.geometry = some geometry)
      (answer : (c.renderer (l.planWith geometry)).run.run w = (.ok scene, w₁)) :
      Renders c l w (.ok ()) { l with scene := some scene, stage := .render } w₁

theorem Renders.of_exec {r} (h : (renderScene c).exec l w = ((r, l'), w')) :
    Renders c l w r l' w' := by
  simp only [renderScene, LayerM.exec_get_bind] at h
  split at h
  · rename_i bare
    cases h
    exact .unplanned bare
  · rename_i geometry planned
    simp only [LayerM.exec_tryCatch, LayerM.exec_call_bind, enter] at h
    rcases answer : (c.renderer (l.planWith geometry)).run.run w with ⟨e | scene, w₁⟩
    · simp only [answer, LayerM.exec_modify_bind, LayerM.exec_throw] at h
      cases h
      exact .failed planned answer
    · simp only [answer, LayerM.exec_modify_bind, LayerM.exec_modify] at h
      cases h
      exact .drawn planned answer

/-- Drawing changes the scene, and drops the overlay when there is none. -/
theorem Renders.eq_with {r} (h : Renders c l w r l' w') :
    l' = { l with scene := l'.scene, overlay := l'.overlay, stage := l'.stage } := by
  cases h <;> rfl

theorem Renders.options {r} (h : Renders c l w r l' w') : l'.options = l.options := by
  cases h <;> rfl

/-- What `attachOverlay` does, which cannot fail. -/
inductive Overlays (c : Collaborators σ) (l : Layer) (w : σ) : Layer → σ → Prop
  | bare (unseen : l.scene = none) : Overlays c l w { l with overlay := none } w
  | laid {scene overlay w₁} (seen : l.scene = some scene)
      (attach : (c.plot.attachOverlay scene l.options).run w = (overlay, w₁)) :
      Overlays c l w { l with overlay } w₁

theorem Overlays.of_exec {r} (h : (attachOverlay c).exec l w = ((r, l'), w')) :
    r = .ok () ∧ Overlays c l w l' w' := by
  simp only [attachOverlay, LayerM.exec_get_bind] at h
  split at h
  · rename_i scene seen
    cases h
    exact ⟨rfl, .laid seen rfl⟩
  · rename_i unseen
    cases h
    exact ⟨rfl, .bare unseen⟩

theorem Overlays.eq_with (h : Overlays c l w l' w') : l' = { l with overlay := l'.overlay } := by
  cases h <;> rfl

theorem Overlays.options (h : Overlays c l w l' w') : l'.options = l.options := by
  cases h <;> rfl

theorem Overlays.of_last {r}
    (h : (attachOverlay c >>= fun _ => enter .afterRender).exec l w = ((r, l'), w')) :
    r = .ok () ∧ ∃ l₁, Overlays c l w l₁ w' ∧ l' = { l₁ with stage := .afterRender } := by
  rw [LayerM.exec_bind] at h
  rcases attached : (attachOverlay c).exec l w with ⟨⟨r₁, l₁⟩, w₁⟩
  obtain ⟨rfl, overlay⟩ := Overlays.of_exec attached
  simp only [attached, enter, LayerM.exec_modify] at h
  cases h
  exact ⟨rfl, l₁, overlay, rfl⟩

/-- The exits of `draw`: with the first scene kept, or planned and drawn once more. -/
inductive Draws (c : Collaborators σ) (l : Layer) (w : σ) :
    Except Failure Unit → Layer → σ → Prop
  | undrawn {e l₁ w₁} (render : Renders c l w (.error e) l₁ w₁) : Draws c l w (.error e) l₁ w₁
  | kept {l₁ w₁ count l₂ w₂ l₃ w₃} (render : Renders c l w (.ok ()) l₁ w₁)
      (rules : AppliesRules c .afterRender l₁ w₁ (.ok count) l₂ w₂)
      (same : (l₁.options.isResponsive && l₁.options != l₂.options) = false)
      (overlay : Overlays c l₂ w₂ l₃ w₃) :
      Draws c l w (.ok ()) { l₃ with stage := .afterRender } w₃
  | unplanned {l₁ w₁ count l₂ w₂ e l₃ w₃} (render : Renders c l w (.ok ()) l₁ w₁)
      (rules : AppliesRules c .afterRender l₁ w₁ (.ok count) l₂ w₂)
      (changed : (l₁.options.isResponsive && l₁.options != l₂.options) = true)
      (compile : Compiles c l₂ w₂ (.error e) l₃ w₃) :
      Draws c l w (.error e) l₃ w₃
  | lost {l₁ w₁ count l₂ w₂ l₃ w₃ e l₄ w₄} (render : Renders c l w (.ok ()) l₁ w₁)
      (rules : AppliesRules c .afterRender l₁ w₁ (.ok count) l₂ w₂)
      (changed : (l₁.options.isResponsive && l₁.options != l₂.options) = true)
      (compile : Compiles c l₂ w₂ (.ok ()) l₃ w₃)
      (redraw : Renders c l₃ w₃ (.error e) l₄ w₄) :
      Draws c l w (.error e) l₄ w₄
  | redrawn {l₁ w₁ count l₂ w₂ l₃ w₃ l₄ w₄ l₅ w₅} (render : Renders c l w (.ok ()) l₁ w₁)
      (rules : AppliesRules c .afterRender l₁ w₁ (.ok count) l₂ w₂)
      (changed : (l₁.options.isResponsive && l₁.options != l₂.options) = true)
      (compile : Compiles c l₂ w₂ (.ok ()) l₃ w₃)
      (redraw : Renders c l₃ w₃ (.ok ()) l₄ w₄)
      (overlay : Overlays c l₄ w₄ l₅ w₅) :
      Draws c l w (.ok ()) { l₅ with stage := .afterRender } w₅

theorem Renders.scene_isSome {l₁ w₁} (h : Renders c l w (.ok ()) l₁ w₁) : l₁.scene.isSome := by
  cases h with
  | drawn _ _ => rfl

theorem Draws.of_exec {r} (h : (draw c).exec l w = ((r, l'), w')) : Draws c l w r l' w' := by
  rw [draw, LayerM.exec_bind] at h
  rcases first : (renderScene c).exec l w with ⟨⟨e | _, l₁⟩, w₁⟩
  · rw [first] at h
    cases h
    exact .undrawn (.of_exec first)
  · have render := Renders.of_exec first
    simp only [first, LayerM.exec_get_bind] at h
    rw [LayerM.exec_bind] at h
    rcases looked : (applyResponsive c .afterRender).exec l₁ w₁ with ⟨⟨e | count, l₂⟩, w₂⟩
    · cases AppliesRules.of_exec looked with
      | refused after unseen =>
          have seen := render.scene_isSome
          simp [unseen] at seen
    · have rules := AppliesRules.of_exec looked
      simp only [looked, LayerM.exec_get_bind] at h
      split at h
      · rename_i changed
        rw [LayerM.exec_bind] at h
        rcases planned : (compile c).exec l₂ w₂ with ⟨⟨e | _, l₃⟩, w₃⟩
        · rw [planned] at h
          cases h
          exact .unplanned render rules changed (.of_exec planned)
        · have compile := Compiles.of_exec planned
          simp only [planned] at h
          rw [LayerM.exec_bind] at h
          rcases again : (renderScene c).exec l₃ w₃ with ⟨⟨e | _, l₄⟩, w₄⟩
          · rw [again] at h
            cases h
            exact .lost render rules changed compile (.of_exec again)
          · simp only [again] at h
            obtain ⟨rfl, l₅, overlay, rfl⟩ := Overlays.of_last h
            exact .redrawn render rules changed compile (.of_exec again) overlay
      · rename_i same
        obtain ⟨rfl, l₃, overlay, rfl⟩ := Overlays.of_last h
        exact .kept render rules (by simpa using same) overlay

/-! ## The gate -/

/-- What decides which operations are taken, and which events are heard. -/
def gate (l : Layer) : Viewport × EventBindings × Bool := (l.viewport, l.events, l.rendered)

theorem Compiles.gate {r} (h : Compiles c l w r l' w') : l'.gate = l.gate := by
  rw [h.eq_with]
  rfl

theorem AppliesRules.gate {stage r} (h : AppliesRules c stage l w r l' w') : l'.gate = l.gate := by
  rw [h.eq_with]
  rfl

theorem Renders.gate {r} (h : Renders c l w r l' w') : l'.gate = l.gate := by
  rw [h.eq_with]
  rfl

theorem Overlays.gate (h : Overlays c l w l' w') : l'.gate = l.gate := by
  rw [h.eq_with]
  rfl

theorem Draws.gate {r} (h : Draws c l w r l' w') : l'.gate = l.gate := by
  cases h with
  | undrawn render => exact render.gate
  | kept render rules same overlay => exact overlay.gate.trans (rules.gate.trans render.gate)
  | unplanned render rules changed compile =>
      exact compile.gate.trans (rules.gate.trans render.gate)
  | lost render rules changed compile redraw =>
      exact redraw.gate.trans (compile.gate.trans (rules.gate.trans render.gate))
  | redrawn render rules changed compile redraw overlay =>
      exact overlay.gate.trans
        (redraw.gate.trans (compile.gate.trans (rules.gate.trans render.gate)))

end Charting.Layer
