import Charting.Proofs.ConversionTag
import Charting.Proofs.Layer.Finished
import Charting.Proofs.Layer.Overlay

/-!
# New layers in place of old ones

A new layer is drawn without a canvas, by a renderer that keeps its counts beside the world of the
old layer. Only what is laid over the scene may depend on that world: it is the same if the new
layer finds it in the state in which the old one's overlay was attached.
-/

namespace Charting

variable {σ : Type}

/-- The caller's functions, with counts beside their world. -/
def Invoke.beside (invoke : Invoke σ) : Invoke (Layout.Headless × σ) := fun f args => do
  let (counts, w) ← get
  let (answer, w) := (invoke f args).run w
  set (counts, w)
  return answer

/-- A function of the caller gives the same answers in every world. -/
def Invoke.Steady (invoke : Invoke σ) (f : Callback) : Prop :=
  ∀ args w w', ((invoke f args).run w).1 = ((invoke f args).run w').1

/-- The headless renderer, with another world beside its counts. -/
def Layout.Headless.beside (plan : Plan) : Attempt (Layout.Headless × σ) Scene := ExceptT.mk do
  let (counts, w) ← get
  let (answer, counts) := (render plan).run.run counts
  set (counts, w)
  return answer

/-- Nothing that a function answers which may be asked tells one world from the other. -/
def Invoke.Knows (invoke : Invoke σ) (asked : Option Callback) (w : σ) (x : Layout.Headless × σ) :
    Prop :=
  (∀ f ∈ asked, invoke.Steady f) ∨ x.2 = w

theorem Invoke.beside_alike (invoke : Invoke σ) {asked : Option Callback} :
    ∀ f ∈ asked, ∀ args, Alike (invoke.Knows asked) (invoke f args) (invoke.beside f args) := by
  rintro f among args w ⟨counts, w'⟩ (steady | same)
  · exact ⟨steady f among args w w', .inl steady⟩
  · cases same
    exact ⟨rfl, .inr rfl⟩

namespace Layout.Headless

theorem run_beside (plan : Plan) (x : Headless × σ) :
    (((beside plan).run.run x).1 : Except Failure Scene) = draw plan ∧
      ((beside plan).run.run x).2.2 = x.2 := by
  obtain ⟨counts, w⟩ := x
  have split : (beside plan).run.run (counts, w) =
      (((render plan).run.run counts).1, (((render plan).run.run counts).2, w)) := rfl
  rw [split, render]
  cases draw plan <;> exact ⟨rfl, rfl⟩

end Layout.Headless

namespace Layer

variable {κ : Type} {b : Behaviour κ} {start : Options} {table : List EventRow}
  {c : Collaborators σ} {l l' : Layer} {w w' : σ} {bound : EventBindings}

theorem Prepares.new (desc : b.Describes l.options table c) (h : Prepares c .render l w l' w') :
    l'.options = b.fit l.viewport l.options ∧ l'.viewport = l.viewport ∧ l'.data = l.data := by
  cases h with
  | render init rules compile events =>
      rw [desc.beforeInit] at init
      obtain ⟨⟨-, rfl⟩, rfl⟩ := init
      obtain ⟨rfl, rfl⟩ := desc.fits (by exact .inl rfl) rules
      have compiled := compile.eq_with
      refine ⟨?_, ?_, ?_⟩
      all_goals rw [compiled]

/-- A renderer without moods does not fail on a plan that can be drawn. -/
theorem Renders.ok_of_plain {r scene} (plain : c.Plain)
    (h : Renders c l w r l' w') (planned : Planned b l) {plan : Plan}
    (hplan : b.plan? l.options l.viewport l.data = .ok plan)
    (drawn : Layout.draw plan = .ok scene) : r = .ok () := by
  obtain ⟨geometry, bound, planned⟩ := planned
  rw [hplan] at planned
  cases planned
  cases h with
  | unplanned bare => simp [bare] at bound
  | failed bound' answer =>
      obtain rfl := Option.some.inj (bound.symm.trans bound')
      have same := plain (l.planWith geometry) w
      rw [answer, drawn] at same
      cases same
  | drawn => rfl

theorem Finished.settles {count} {l₁ l₂ last : Layer} {w₁ w₂ : σ} (laws : b.Lawful start)
    (desc : b.Describes start table c) (plain : c.Plain) (finished : Finished b start bound last)
    (live : Live b start bound l) (planned : Planned b l) (viewport : l.viewport = last.viewport)
    (data : l.data = last.data) (render : Renders c l w (.ok ()) l₁ w₁)
    (rules : AppliesRules c .afterRender l₁ w₁ (.ok count) l₂ w₂) :
    Live b start bound l₂ ∧ l₂.options = last.options ∧ l₂.viewport = last.viewport ∧
      l₂.data = last.data := by
  obtain ⟨first, final, scene, hfirst, hoptions, -, -, -⟩ := finished
  obtain ⟨scene', shown⟩ := render.shown plain.faithful planned
  have live := live.renders laws render
  obtain ⟨live', rfl, scene₁, seen, rfl⟩ := live.settles laws desc rules
  obtain rfl := Option.some.inj (shown.seen.symm.trans seen)
  obtain ⟨first', hfirst', judged⟩ := live.judges laws shown
  have drawn := render.eq_with
  have viewport : l₁.viewport = last.viewport := by rw [drawn, ← viewport]
  have data : l₁.data = last.data := by rw [drawn, ← data]
  rw [viewport, data, hfirst] at hfirst'
  cases hfirst'
  refine ⟨live', ?_, viewport, data⟩
  rw [hoptions, judged, viewport, data]

/-- Where a finished layer stands, a first drawing returns. -/
theorem Finished.draws {r} {last : Layer} (laws : b.Lawful start)
    (desc : b.Describes start table c) (plain : c.Plain) (finished : Finished b start bound last)
    (live : Live b start bound l) (planned : Planned b l)
    (options : l.options = b.fit last.viewport start) (viewport : l.viewport = last.viewport)
    (data : l.data = last.data) (h : Draws c l w r l' w') : r = .ok () := by
  have settles {count l₁ l₂ w₁ w₂} (render : Renders c l w (.ok ()) l₁ w₁)
      (rules : AppliesRules c .afterRender l₁ w₁ (.ok count) l₂ w₂) :=
    finished.settles laws desc plain live planned viewport data render rules
  obtain ⟨first, final, scene, hfirst, hoptions, hfinal, hdrawn, -⟩ := finished
  cases h with
  | undrawn render =>
      -- the old layer has shown that the second plan can be drawn, not the first
      obtain ⟨scene₁, hdrawn₁⟩ := laws.drawable hfirst (by rw [← hoptions]; exact hfinal) hdrawn
      exact render.ok_of_plain plain planned (by rw [options, viewport, data]; exact hfirst)
        hdrawn₁
  | kept => rfl
  | unplanned render rules changed compile =>
      obtain ⟨-, options, -, -⟩ := settles render rules
      have none := compile.no_plan desc last.viewport last.data
      rw [options, hfinal] at none
      cases none
  | lost render rules changed compile redraw =>
      obtain ⟨-, options, viewport, data⟩ := settles render rules
      obtain ⟨-, planned⟩ := compile.plans desc
      refine redraw.ok_of_plain plain planned ?_ hdrawn
      rw [compile.eq_with, options, viewport, data]
      exact hfinal
  | redrawn => rfl

/--
A new layer that is rendered without trouble ends like any finished layer with the same first
options, size and rows.
-/
theorem Finished.render_new {τ : Type} {part : σ → τ} {last : Layer} (laws : b.Lawful start)
    (desc : b.Describes start table c) (plain : c.Plain) (spares : c.Spares part)
    (finished : Finished b start (bindings c table start) last)
    (valid : last.viewport.isValid = true) (w : σ) :
    ∃ l w', (render c).exec { viewport := last.viewport, data := last.data, options := start } w =
        ((.ok (), l), w') ∧
      Finished b start (bindings c table start) l ∧
      l.viewport = last.viewport ∧ l.data = last.data ∧
      ∃ scene w₁, l.scene = some scene ∧ part w₁ = part w ∧
        (c.plot.attachOverlay scene l.options).run w₁ = (l.overlay, w') := by
  let new : Layer := { viewport := last.viewport, data := last.data, options := start }
  rcases run : (render c).exec new w with ⟨⟨r, l⟩, w'⟩
  have start_valid : new.viewport.isValid = true := valid
  have held := (Reachable.start : Reachable c new new).held laws desc start_valid rfl rfl
  rcases performs_render run with stops | ⟨l₁, w₁, prepared, drawn⟩
  · obtain ⟨_, _, _, hfirst, -⟩ := finished
    cases stops with
    | uninitialized init =>
        rw [desc.beforeInit] at init
        cases init
    | unplanned init rules compile =>
        rw [desc.beforeInit] at init
        obtain ⟨⟨-, rfl⟩, rfl⟩ := init
        obtain ⟨rfl, rfl⟩ := desc.fits (by exact .inl rfl) rules
        have none := compile.no_plan desc last.viewport last.data
        rw [hfirst] at none
        cases none
  · obtain ⟨rfl, planned, live⟩ := prepared.held laws desc held
    obtain ⟨options, viewport, data⟩ := prepared.new desc
    obtain rfl := finished.draws laws desc plain live planned options viewport data drawn
    obtain ⟨finished', same, same', scene, w₁, attach⟩ :=
      live.finishes laws desc plain.faithful spares planned drawn
    exact ⟨l, w', rfl, finished', same.trans viewport, same'.trans data, scene, w₁, attach⟩

/--
An operation that draws leaves a layer as the first rendering of a new one does, which begins with
the same options and has the size and the rows of the old one. The overlays are the same if no
function that they ask tells the world of the new layer from the one in which the old one's overlay
was attached.
-/
theorem Reachable.eq_new {plot : PlotType σ} {plot' : PlotType (Layout.Headless × σ)}
    {renderer : Plan → Attempt σ Scene} {invoke : Invoke σ} {asked : Options → Option Callback}
    {viewport : Viewport} {data : List Datum} {op : Operation} (laws : b.Lawful start)
    (desc : b.Describes start table { plot, renderer })
    (desc' : b.Describes start table { plot := plot', renderer := Layout.Headless.beside })
    (names : plot'.name = plot.name ∧ plot'.names = plot.names)
    (overlays : ∀ scene options, Alike (invoke.Knows (asked options))
      (plot.attachOverlay scene options) (plot'.attachOverlay scene options))
    (faithful : Collaborators.Faithful { plot, renderer }) (valid : viewport.isValid = true)
    (reached : Reachable { plot, renderer } { viewport, data, options := start } l)
    (draws : op.draws l = true)
    (run : (op.perform { plot, renderer }).exec l w = ((.ok (), l'), w')) :
    l'.viewport.isValid = true ∧ ∀ x, ∃ new x',
      (render { plot := plot', renderer := Layout.Headless.beside }).exec
        { viewport := l'.viewport, data := l'.data, options := start } x = ((.ok (), new), x') ∧
      new = { l' with overlay := new.overlay } ∧
      (invoke.Knows (asked l'.options) (op.overlayWorld { plot, renderer } l w) x → new = l') := by
  obtain ⟨valid', finished⟩ := reached.finishes laws desc faithful valid rfl rfl draws run
  refine ⟨valid', fun x => ?_⟩
  have bound : bindings { plot, renderer } table start =
      bindings { plot := plot', renderer := Layout.Headless.beside } table start := by
    rw [bindings, bindings, names.1, names.2]
  obtain ⟨new, x', rendered, finished', viewport', data', scene', x₀, seen', spared, attach'⟩ :=
    Finished.render_new laws desc' (fun plan x => (Layout.Headless.run_beside plan x).1)
      (fun plan x => (Layout.Headless.run_beside plan x).2) (bound ▸ finished) valid' x
  have same := finished'.eq_with (bound ▸ finished) viewport' data'
  refine ⟨new, x', rendered, same, fun known => ?_⟩
  obtain ⟨scene, seen⟩ := finished.seen
  have attach := op.attaches draws run seen
  have options : new.options = l'.options := by rw [same]
  obtain rfl : scene' = scene := by
    rw [same, seen] at seen'
    exact (Option.some.inj seen').symm
  have alike := (overlays scene' l'.options _ x₀ (known.imp id spared.trans)).1
  rw [attach] at alike
  rw [options] at attach'
  rw [attach'] at alike
  have overlay : l'.overlay = new.overlay := alike
  rw [same, ← overlay]

end Layer

end Charting
