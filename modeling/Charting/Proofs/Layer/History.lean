import Charting.Proofs.Layer.Behaviour

/-!
# What a history leaves

The rules of a plot type rewrite the options of a layer on every pass. If they replace what they
wrote before, then no sequence of operations leaves more than one pass in the options, and the rest
of what an operation starts from is as it was at first.
-/

namespace Charting.Layer

variable {κ σ : Type} {b : Behaviour κ} {start : Options} {table : List EventRow}
  {c : Collaborators σ} {l l' : Layer} {w w' : σ}

/-- The layer holds the plan for its options, size and rows. -/
def Planned (b : Behaviour κ) (l : Layer) : Prop :=
  ∃ geometry, l.geometry = some geometry ∧
    b.plan? l.options l.viewport l.data = .ok (l.planWith geometry)

def bindings (c : Collaborators σ) (table : List EventRow) (start : Options) : EventBindings :=
  .bind c.plot.name table c.plot.names (start.get? "events")

/-- What every state of a layer has in common: only the options tell what it went through. -/
structure Held (b : Behaviour κ) (start : Options) (bound : EventBindings) (l : Layer) : Prop where
  valid : l.viewport.isValid = true
  options : l.options = start ∨ b.Adapted start l.viewport l.options
  seen : l.scene.isSome = true → l.rendered = true
  rendered : l.rendered = true → b.Adapted start l.viewport l.options ∧ l.events = bound ∧
    ∃ plan, b.plan? l.options l.viewport l.data = .ok plan

theorem Compiles.plans (desc : b.Describes start table c) (h : Compiles c l w (.ok ()) l' w') :
    w' = w ∧ Planned b l' := by
  cases h with
  | planned scale coordinates bind animate =>
      rw [desc.scale, Prod.mk.injEq] at scale
      obtain ⟨scale, rfl⟩ := scale
      rw [desc.coordinate] at coordinates
      obtain ⟨rfl, rfl⟩ := coordinates
      rw [desc.geometry, Prod.mk.injEq] at bind
      obtain ⟨bind, rfl⟩ := bind
      rw [desc.animation] at animate
      obtain ⟨rfl, rfl⟩ := animate
      refine ⟨rfl, _, rfl, ?_⟩
      rw [Behaviour.plan?, scale, bind]
      rfl

section Holding

variable {bound : EventBindings}

/-- A state is held if it has options for its size and comes from a held one. -/
theorem Held.changes (laws : b.Lawful start) (h : Held b start bound l)
    (valid : l'.viewport.isValid = true) (adapted : b.Adapted start l'.viewport l'.options)
    (rendered : l'.rendered = l.rendered) (events : l'.events = l.events)
    (seen : l'.scene.isSome = true → l'.rendered = true) : Held b start bound l' := by
  refine ⟨valid, .inr adapted, seen, fun hr => ?_⟩
  obtain ⟨adapted₀, bound₀, plan, planned⟩ := h.rendered (rendered ▸ hr)
  exact ⟨adapted, events.trans bound₀, laws.plans adapted₀ adapted planned⟩

theorem Held.stays (laws : b.Lawful start) (h : Held b start bound l)
    (same : l'.viewport = l.viewport ∧ l'.options = l.options ∧ l'.rendered = l.rendered ∧
      l'.events = l.events)
    (seen : l'.scene.isSome = true → l'.rendered = true) : Held b start bound l' := by
  obtain ⟨viewport, options, rendered, events⟩ := same
  refine ⟨?_, ?_, seen, fun hr => ?_⟩
  · rw [viewport]
    exact h.valid
  · rw [viewport, options]
    exact h.options
  · obtain ⟨adapted, bound₀, plan, planned⟩ := h.rendered (rendered ▸ hr)
    have adapted' : b.Adapted start l'.viewport l'.options := by
      rw [viewport, options]
      exact adapted
    exact ⟨adapted', events.trans bound₀, laws.plans adapted adapted' planned⟩

theorem Held.feeds (laws : b.Lawful start) (held : Held b start bound l) (data : List Datum) :
    Held b start bound { l with data } :=
  held.stays laws ⟨rfl, rfl, rfl, rfl⟩ held.seen

theorem Held.compiles {r} (laws : b.Lawful start) (held : Held b start bound l)
    (h : Compiles c l w r l' w') : Held b start bound l' := by
  have compiled := h.eq_with
  refine held.stays laws (by rw [compiled]; exact ⟨rfl, rfl, rfl, rfl⟩) ?_
  rw [compiled]
  exact held.seen

/-- The rules before drawing adapt a held layer to its size, old or new. -/
theorem Held.fits {count viewport stage} (laws : b.Lawful start)
    (desc : b.Describes start table c) (held : Held b start bound l)
    (valid : viewport.isValid = true)
    (h : AppliesRules c .preRender { l with viewport, stage } w (.ok count) l' w') :
    w' = w ∧ l'.rendered = l.rendered ∧ b.Adapted start l'.viewport l'.options ∧
      Held b start bound l' := by
  have before : l.options = start ∨ ∃ v, b.Adapted start v l.options :=
    held.options.imp id fun adapted => ⟨_, adapted⟩
  obtain ⟨rfl, rfl⟩ := desc.fits (by exact before) h
  have adapted : b.Adapted start viewport (b.fit viewport l.options) := by
    rcases before with raw | ⟨v, adapted⟩
    · rw [raw]
      exact .fitted
    · exact laws.fit_adapted adapted
  exact ⟨rfl, rfl, adapted, held.changes laws valid adapted rfl rfl held.seen⟩

end Holding

/-- Planning fails for options without a plan only. -/
theorem Compiles.no_plan {e} (desc : b.Describes start table c)
    (h : Compiles c l w (.error e) l' w') (viewport : Viewport) (data : List Datum) :
    b.plan? l.options viewport data = .error e := by
  cases h with
  | noScales scale =>
      rw [desc.scale, Prod.mk.injEq] at scale
      rw [Behaviour.plan?, scale.1]
      rfl
  | noGeometry scale coordinates bind =>
      rw [desc.scale, Prod.mk.injEq] at scale
      rw [desc.geometry, Prod.mk.injEq] at bind
      rw [Behaviour.plan?, scale.1, bind.1]
      rfl

/-- A held layer that has been rendered. -/
def Live (b : Behaviour κ) (start : Options) (bound : EventBindings) (l : Layer) : Prop :=
  Held b start bound l ∧ l.rendered = true

theorem Prepares.held {op : Operation} (laws : b.Lawful start) (desc : b.Describes start table c)
    (held : Held b start (bindings c table start) l) (h : Prepares c op l w l' w') :
    w' = w ∧ Planned b l' ∧ Live b start (bindings c table start) l' := by
  cases h with
  | render init rules compile events =>
      rw [desc.beforeInit] at init
      obtain ⟨⟨-, rfl⟩, rfl⟩ := init
      obtain ⟨rfl, -, adapted, fitted⟩ := held.fits laws desc held.valid rules
      obtain ⟨rfl, geometry, bound, planned⟩ := compile.plans desc
      rw [desc.eventTable] at events
      obtain ⟨rfl, rfl⟩ := events
      have compiled := compile.eq_with
      rw [compiled] at planned ⊢
      refine ⟨rfl, ⟨geometry, bound, planned⟩, ⟨fitted.valid, .inr adapted, fun _ => rfl,
        fun _ => ⟨adapted, ?_, _, planned⟩⟩, rfl⟩
      exact congrArg (EventBindings.bind c.plot.name _ c.plot.names) (laws.events adapted)
  | resize valid rendered rules compile =>
      obtain ⟨rfl, same, -, fitted⟩ := held.fits laws desc valid rules
      obtain ⟨rfl, planned⟩ := compile.plans desc
      refine ⟨rfl, planned, fitted.compiles laws compile, ?_⟩
      rw [compile.eq_with]
      exact same.trans rendered
  | changeData rendered compile =>
      obtain ⟨rfl, planned⟩ := compile.plans desc
      refine ⟨rfl, planned, (held.feeds laws _).compiles laws compile, ?_⟩
      rw [compile.eq_with]
      exact rendered

variable {bound : EventBindings}

/-- A live layer stays live whatever happens to what it shows. -/
theorem Live.stays (laws : b.Lawful start) (live : Live b start bound l)
    (same : l'.viewport = l.viewport ∧ l'.options = l.options ∧ l'.rendered = l.rendered ∧
      l'.events = l.events) : Live b start bound l' := by
  have rendered : l'.rendered = true := same.2.2.1.trans live.2
  exact ⟨live.1.stays laws same fun _ => rendered, rendered⟩

theorem Live.compiles {r} (laws : b.Lawful start) (live : Live b start bound l)
    (h : Compiles c l w r l' w') : Live b start bound l' :=
  live.stays laws (by rw [h.eq_with]; exact ⟨rfl, rfl, rfl, rfl⟩)

theorem Live.renders {r} (laws : b.Lawful start) (live : Live b start bound l)
    (h : Renders c l w r l' w') : Live b start bound l' :=
  live.stays laws (by rw [h.eq_with]; exact ⟨rfl, rfl, rfl, rfl⟩)

theorem Live.overlays (laws : b.Lawful start) (live : Live b start bound l)
    (h : Overlays c l w l' w') : Live b start bound { l' with stage := .afterRender } :=
  live.stays laws (by rw [h.eq_with]; exact ⟨rfl, rfl, rfl, rfl⟩)

/-- The rules after drawing replace their earlier findings by those in the scene. -/
theorem Live.settles {count} (laws : b.Lawful start) (desc : b.Describes start table c)
    (live : Live b start bound l) (h : AppliesRules c .afterRender l w (.ok count) l' w') :
    Live b start bound l' ∧ w' = w ∧ ∃ scene, l.scene = some scene ∧
      l' = { l with options := b.settle (b.judge l.data scene) (b.fit l.viewport start) } := by
  obtain ⟨held, rendered⟩ := live
  obtain ⟨adapted, -, plan, planned⟩ := held.rendered rendered
  obtain ⟨scene, hs⟩ := Option.isSome_iff_exists.mp h.seen
  obtain ⟨rfl, rfl⟩ := desc.settles adapted planned hs h
  rw [laws.settle_adapted _ adapted]
  exact ⟨⟨held.changes laws held.valid (.settled _) rfl rfl held.seen, rendered⟩, rfl, scene, hs,
    rfl⟩

/-- However a drawing ends, the layer stays live. -/
theorem Live.draws {r} (laws : b.Lawful start) (desc : b.Describes start table c)
    (live : Live b start bound l) (h : Draws c l w r l' w') : Live b start bound l' := by
  cases h with
  | undrawn render => exact live.renders laws render
  | kept render rules same overlay =>
      exact ((live.renders laws render).settles laws desc rules).1.overlays laws overlay
  | unplanned render rules changed compile =>
      exact ((live.renders laws render).settles laws desc rules).1.compiles laws compile
  | lost render rules changed compile redraw =>
      have settled := ((live.renders laws render).settles laws desc rules).1
      exact (settled.compiles laws compile).renders laws redraw
  | redrawn render rules changed compile redraw overlay =>
      have settled := ((live.renders laws render).settles laws desc rules).1
      exact ((settled.compiles laws compile).renders laws redraw).overlays laws overlay

theorem Stops.held {op : Operation} {r} (laws : b.Lawful start)
    (desc : b.Describes start table c) (held : Held b start bound l)
    (h : Stops c op l w r l' w') : Held b start bound l' := by
  cases h with
  | uninitialized init =>
      rw [desc.beforeInit] at init
      cases init
  | unplanned init rules compile =>
      rw [desc.beforeInit] at init
      obtain ⟨⟨-, rfl⟩, rfl⟩ := init
      obtain ⟨-, -, -, fitted⟩ := held.fits laws desc held.valid rules
      exact fitted.compiles laws compile
  | empty => exact held
  | early => exact held
  | unresized valid rendered rules compile =>
      obtain ⟨-, -, -, fitted⟩ := held.fits laws desc valid rules
      exact fitted.compiles laws compile
  | stored unrendered => exact held.feeds laws _
  | unfed rendered compile => exact (held.feeds laws _).compiles laws compile
  | refused rules =>
      cases rules
      exact held
  | @ruled stage _ _ _ _ _ rules =>
      cases stage with
      | preRender =>
          obtain ⟨-, -, -, fitted⟩ := held.fits laws desc held.valid rules
          exact fitted
      | afterRender =>
          exact (Live.settles laws desc ⟨held, held.seen rules.seen⟩ rules).1.1

theorem Held.performs {op : Operation} {r} (laws : b.Lawful start)
    (desc : b.Describes start table c) (held : Held b start (bindings c table start) l)
    (h : Performs c op l w r l' w') : Held b start (bindings c table start) l' := by
  rcases h with stops | ⟨l₁, w₁, prepared, drawn⟩
  · exact stops.held laws desc held
  · obtain ⟨-, -, live⟩ := prepared.held laws desc held
    exact (live.draws laws desc drawn).1

theorem Reachable.held {first : Layer} (laws : b.Lawful first.options)
    (desc : b.Describes first.options table c) (valid : first.viewport.isValid = true)
    (unseen : first.scene = none) (unrendered : first.rendered = false)
    (h : Reachable c first l) : Held b first.options (bindings c table first.options) l := by
  -- by induction on the operations so far, of which each keeps the layer held
  refine h.invariant ⟨valid, .inl rfl, ?_, ?_⟩ fun performs held => held.performs laws desc performs
  · simp [unseen]
  · simp [unrendered]

end Charting.Layer
