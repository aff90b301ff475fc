import Charting.Proofs.Layer.History

/-!
# Drawings without a history

Whatever a layer went through, a drawing leaves it as its first options, its size and its rows
demand. Only what is laid over the scene may depend on the world besides.
-/

namespace Charting.Layer

variable {κ σ : Type} {b : Behaviour κ} {start : Options} {table : List EventRow}
  {c : Collaborators σ} {l l' : Layer} {w w' : σ} {bound : EventBindings}

/--
A layer after a drawing. All of it follows from the first options, the size and the rows, except for
the overlay, which may depend on the world.
-/
def Finished (b : Behaviour κ) (start : Options) (bound : EventBindings) (l : Layer) : Prop :=
  ∃ first final scene,
    b.plan? (b.fit l.viewport start) l.viewport l.data = .ok first ∧
    l.options = b.settle (b.judge l.data (Layout.scene first)) (b.fit l.viewport start) ∧
    b.plan? l.options l.viewport l.data = .ok final ∧
    Layout.draw final = .ok scene ∧
    l = {
      viewport := l.viewport
      data := l.data
      options := l.options
      scales := final.scales
      coordinate := final.coordinate
      geometry := some final.geometry
      scene := some scene
      overlay := l.overlay
      events := bound
      stage := .afterRender
      rendered := true }

theorem Finished.adapted (h : Finished b start bound l) :
    b.Adapted start l.viewport l.options := by
  obtain ⟨first, -, -, -, settled, -⟩ := h
  rw [settled]
  exact .settled _

theorem Finished.seen (h : Finished b start bound l) : ∃ scene, l.scene = some scene := by
  obtain ⟨first, final, scene, -, -, -, -, eq⟩ := h
  exact ⟨scene, by rw [eq]⟩

/-- Two finished layers of the same size and rows differ in the overlay at most. -/
theorem Finished.eq_with (h : Finished b start bound l) (h' : Finished b start bound l')
    (viewport : l.viewport = l'.viewport) (data : l.data = l'.data) :
    l = { l' with overlay := l.overlay } := by
  obtain ⟨first, final, scene, hfirst, options, hfinal, drawn, eq⟩ := h
  obtain ⟨first', final', scene', hfirst', options', hfinal', drawn', eq'⟩ := h'
  rw [viewport, data, hfirst'] at hfirst
  cases hfirst
  rw [viewport, data, ← options'] at options
  rw [viewport, data, options, hfinal'] at hfinal
  cases hfinal
  rw [drawn'] at drawn
  cases drawn
  rw [eq, eq', viewport, data, options]

def Shown (b : Behaviour κ) (scene : Scene) (l : Layer) : Prop :=
  ∃ geometry, l.geometry = some geometry ∧
    b.plan? l.options l.viewport l.data = .ok (l.planWith geometry) ∧
    l.scene = some scene ∧ Layout.draw (l.planWith geometry) = .ok scene

theorem Shown.seen {scene : Scene} (h : Shown b scene l) : l.scene = some scene := by
  obtain ⟨_, -, -, seen, -⟩ := h
  exact seen

theorem Renders.shown (faithful : c.Faithful) (planned : Planned b l)
    (h : Renders c l w (.ok ()) l' w') : ∃ scene, Shown b scene l' := by
  obtain ⟨geometry, bound, planned⟩ := planned
  cases h with
  | drawn bound' answer =>
      obtain rfl := Option.some.inj (bound.symm.trans bound')
      exact ⟨_, geometry, bound, planned, rfl, faithful answer⟩

/-- What the rules find in a scene that is shown they would have found in the first one. -/
theorem Live.judges {scene : Scene} (laws : b.Lawful start) (live : Live b start bound l)
    (shown : Shown b scene l) :
    ∃ first, b.plan? (b.fit l.viewport start) l.viewport l.data = .ok first ∧
      b.judge l.data scene = b.judge l.data (Layout.scene first) := by
  obtain ⟨held, rendered⟩ := live
  obtain ⟨adapted, -, -⟩ := held.rendered rendered
  obtain ⟨geometry, -, planned, -, drawn⟩ := shown
  obtain ⟨first, hfirst⟩ := laws.plans adapted .fitted planned
  rw [Layout.eq_scene_of_draw drawn]
  exact ⟨first, hfirst, laws.judge_adapted adapted hfirst planned⟩

theorem Overlays.finished {first : Plan} {scene : Scene} (live : Live b start bound l)
    (hfirst : b.plan? (b.fit l.viewport start) l.viewport l.data = .ok first)
    (options : l.options =
      b.settle (b.judge l.data (Layout.scene first)) (b.fit l.viewport start))
    (shown : Shown b scene l) (h : Overlays c l w l' w') :
    Finished b start bound { l' with stage := .afterRender } ∧
      (c.plot.attachOverlay scene l.options).run w = (l'.overlay, w') := by
  obtain ⟨geometry, hgeometry, hplan, seen, drawn⟩ := shown
  obtain ⟨held, rendered⟩ := live
  obtain ⟨-, events, -⟩ := held.rendered rendered
  cases h with
  | bare unseen => simp [unseen] at seen
  | laid seen' attach =>
      obtain rfl := Option.some.inj (seen.symm.trans seen')
      refine ⟨⟨first, _, scene, hfirst, options, hplan, drawn, ?_⟩, attach⟩
      simp only [planWith, ← events, ← rendered, ← hgeometry, ← seen]

theorem Renders.spares {τ : Type} {part : σ → τ} {r} (spares : c.Spares part)
    (h : Renders c l w r l' w') : part w' = part w := by
  cases h with
  | unplanned => rfl
  | failed planned answer => rw [← spares _ w, answer]
  | drawn planned answer => rw [← spares _ w, answer]

/-- A drawing that returns leaves the layer finished, with an overlay made for its scene. -/
theorem Live.finishes {τ : Type} {part : σ → τ} (laws : b.Lawful start)
    (desc : b.Describes start table c) (faithful : c.Faithful) (spares : c.Spares part)
    (live : Live b start bound l) (planned : Planned b l) (h : Draws c l w (.ok ()) l' w') :
    Finished b start bound l' ∧ l'.viewport = l.viewport ∧ l'.data = l.data ∧
      ∃ scene w₁, l'.scene = some scene ∧ part w₁ = part w ∧
        (c.plot.attachOverlay scene l'.options).run w₁ = (l'.overlay, w') := by
  cases h with
  | @kept l₁ _ _ l₂ w₂ _ _ render rules same overlay =>
      obtain ⟨scene, shown⟩ := render.shown faithful planned
      have live := live.renders laws render
      have agree := rules.agree same
      obtain ⟨-, rfl, scene', seen', rfl⟩ := live.settles laws desc rules
      obtain ⟨first, hfirst, judged⟩ := live.judges laws shown
      obtain rfl := Option.some.inj (shown.seen.symm.trans seen')
      have adapted := (live.1.rendered live.2).1
      -- without a second drawing the rules have only written what was there already
      have unchanged : b.settle (b.judge l₁.data scene) (b.fit l₁.viewport start) = l₁.options := by
        rcases agree with same | equal
        · exact same.symm
        · simp only [← laws.settle_adapted _ adapted] at equal ⊢
          exact laws.settle_of_agrees adapted equal
      rw [unchanged] at overlay
      obtain ⟨finished, attach⟩ :=
        overlay.finished live hfirst (by rw [← judged, unchanged]) shown
      have laid := overlay.eq_with
      have drawn := render.eq_with
      refine ⟨finished, ?_, ?_, scene, w₂, ?_, render.spares spares, ?_⟩
      · rw [laid, drawn]
      · rw [laid, drawn]
      · rw [laid]
        exact shown.seen
      · rw [← attach, laid]
  | @redrawn l₁ _ _ _ _ _ _ l₄ w₄ _ _ render rules changed compile redraw overlay =>
      obtain ⟨scene, shown⟩ := render.shown faithful planned
      have live := live.renders laws render
      obtain ⟨live', rfl, scene', seen', rfl⟩ := live.settles laws desc rules
      obtain ⟨first, hfirst, judged⟩ := live.judges laws shown
      obtain rfl := Option.some.inj (shown.seen.symm.trans seen')
      obtain ⟨rfl, planned⟩ := compile.plans desc
      obtain ⟨scene', shown'⟩ := redraw.shown faithful planned
      have compiled := compile.eq_with
      have redrawn := redraw.eq_with
      rw [compiled] at redrawn
      have viewport : l₄.viewport = l₁.viewport := by rw [redrawn]
      have data : l₄.data = l₁.data := by rw [redrawn]
      have options : l₄.options = b.settle (b.judge l₁.data scene) (b.fit l₁.viewport start) := by
        rw [redrawn]
      have live := (live'.compiles laws compile).renders laws redraw
      obtain ⟨finished, attach⟩ := overlay.finished live (by rw [viewport, data, hfirst])
        (by rw [viewport, data, options, judged]) shown'
      have laid := overlay.eq_with
      have drawn := render.eq_with
      refine ⟨finished, ?_, ?_, scene', w₄, ?_, ?_, ?_⟩
      · rw [laid, redrawn, drawn]
      · rw [laid, redrawn, drawn]
      · rw [laid]
        exact shown'.seen
      · rw [redraw.spares spares, render.spares spares]
      · rw [← attach, laid]

/-- Whatever a layer went through, an operation that draws leaves it finished. -/
theorem Reachable.finishes {first : Layer} {op : Operation} (laws : b.Lawful first.options)
    (desc : b.Describes first.options table c) (faithful : c.Faithful)
    (valid : first.viewport.isValid = true) (unseen : first.scene = none)
    (unrendered : first.rendered = false) (reached : Reachable c first l)
    (draws : op.draws l = true) (run : (op.perform c).exec l w = ((.ok (), l'), w')) :
    l'.viewport.isValid = true ∧ Finished b first.options (bindings c table first.options) l' := by
  have held := reached.held laws desc valid unseen unrendered
  obtain ⟨l₁, w₁, prepared, drawn⟩ := (Performs.of_exec run).drawn draws
  obtain ⟨-, planned, live⟩ := prepared.held laws desc held
  have spares : c.Spares fun _ => () := fun _ _ => rfl
  obtain ⟨finished, -⟩ := live.finishes laws desc faithful spares planned drawn
  exact ⟨(live.draws laws desc drawn).1.valid, finished⟩

/-- Rules write into a finished layer what is there already, whichever of its passes it shows. -/
theorem Finished.ruled {stage r} (laws : b.Lawful start) (desc : b.Describes start table c)
    (finished : Finished b start bound l) (h : AppliesRules c stage l w r l' w') :
    (∃ count, r = .ok count) ∧ l' = l ∧ w' = w := by
  have adapted := finished.adapted
  obtain ⟨first, final, scene, hfirst, settled, hfinal, drawn, eq⟩ := finished
  cases stage with
  | preRender =>
      have kept : b.fit l.viewport l.options = l.options := by
        rw [settled]
        exact laws.fit_settle _ _ _
      obtain ⟨count, rfl⟩ := h.preRender_ok
      obtain ⟨rfl, rfl⟩ := desc.fits (.inr ⟨_, adapted⟩) h
      exact ⟨⟨count, rfl⟩, by rw [kept], rfl⟩
  | afterRender =>
      have seen : l.scene = some scene := by rw [eq]
      -- the rules have looked at the first scene, and would find the same in the one that is held
      have judged : b.judge l.data scene = b.judge l.data (Layout.scene first) := by
        rw [Layout.eq_scene_of_draw drawn]
        exact laws.judge_adapted adapted hfirst hfinal
      have kept : b.settle (b.judge l.data scene) l.options = l.options := by
        rw [judged, settled]
        exact laws.settle_settle _ _ _
      cases r with
      | error e =>
          cases h with
          | refused after unseen => simp [unseen] at seen
      | ok count =>
          obtain ⟨rfl, rfl⟩ := desc.settles adapted hfinal seen h
          exact ⟨⟨count, rfl⟩, by rw [kept], rfl⟩

end Charting.Layer
