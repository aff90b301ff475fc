import Charting.Proofs.Layer.Finished
import Charting.Proofs.Layer.Scenes
import Charting.Proofs.Layout

/-!
# Scenes that depict the layer

A layer of a plot type that is a function can be planned for good once it has been rendered. So a
scene never outlives the size and the rows that it was drawn for, nor an overlay its scene.
-/

namespace Charting

/-- Every geometry of the plot type is placed. -/
def Behaviour.Places {κ : Type} (b : Behaviour κ) : Prop :=
  ∀ {options geometry}, b.geometry options = .ok geometry → geometry.Placed

/-- An overlay has a tag for each two neighbouring elements of its scene. -/
def Collaborators.Ties {σ : Type} (c : Collaborators σ) : Prop :=
  ∀ {scene options tag w w'}, (c.plot.attachOverlay scene options).run w = (some tag, w') →
    tag.ends = ConversionTag.adjacent (scene.elements.map Element.index)

namespace Layer

/-- What a scene of the layer looks like: it has the rows of the layer, in their order. -/
structure Depicts (l : Layer) (scene : Scene) : Prop where
  viewport : scene.viewport = l.viewport
  elements : scene.elements.map (fun e => (e.datum, e.index)) = l.data.zipIdx
  /-- A bound label is drawn for each row with its first field, and there are no other labels. -/
  labels : ∃ geometry, l.geometry = some geometry ∧
    match geometry.label with
    | .bound handle => ∃ field, handle.descriptor.fields.head? = some field ∧
      scene.labels.map (fun label => (label.elementIndex, label.text)) =
        l.data.zipIdx.filterMap (Layout.rowLabel? field)
    | _ => scene.labels = []

variable {κ σ : Type} {b : Behaviour κ} {start : Options} {table : List EventRow}
  {c : Collaborators σ} {l l' : Layer} {w w' : σ} {bound : EventBindings} {scene : Scene}

/-- The scene is drawn from a plan for the size and the rows of the layer, with its geometry. -/
def Pictured (b : Behaviour κ) (l : Layer) (scene : Scene) : Prop :=
  ∃ options plan, b.plan? options l.viewport l.data = .ok plan ∧
    l.geometry = some plan.geometry ∧ Layout.draw plan = .ok scene

theorem Shown.pictured (h : Shown b scene l) : Pictured b l scene := by
  obtain ⟨geometry, bound, planned, -, drawn⟩ := h
  exact ⟨l.options, _, planned, bound, drawn⟩

/-- What the layer shows is drawn: the scene from a plan of its own, the overlay from the scene. -/
structure Portrays (b : Behaviour κ) (c : Collaborators σ) (l : Layer) : Prop where
  scene : ∀ scene, l.scene = some scene → Pictured b l scene
  overlay : ∀ tag, l.overlay = some tag → ∃ scene options w w', l.scene = some scene ∧
    (c.plot.attachOverlay scene options).run w = (some tag, w')

theorem portrays_bare (scene : l.scene = none) (overlay : l.overlay = none) : Portrays b c l where
  scene _ seen := by simp [scene] at seen
  overlay _ laid := by simp [overlay] at laid

theorem Portrays.stays (h : Portrays b c l)
    (same : l'.scene = l.scene ∧ l'.overlay = l.overlay ∧ l'.geometry = l.geometry)
    (size : l.scene.isSome = true → l'.viewport = l.viewport ∧ l'.data = l.data) :
    Portrays b c l' := by
  obtain ⟨scenes, overlays, geometries⟩ := same
  constructor
  · intro scene seen
    rw [scenes] at seen
    obtain ⟨viewport, data⟩ := size (Option.isSome_iff_exists.mpr ⟨scene, seen⟩)
    rw [Pictured, viewport, data, geometries]
    exact h.scene scene seen
  · rw [scenes, overlays]
    exact h.overlay

/-! ## Drawing -/

theorem Renders.portrays_of_error {e} (planned : Planned b l)
    (h : Renders c l w (.error e) l' w') : Portrays b c l' := by
  cases h with
  | unplanned bare =>
      obtain ⟨geometry, bound, -⟩ := planned
      simp [bare] at bound
  | failed => exact portrays_bare rfl rfl

theorem Overlays.portrays (h : Overlays c l w l' w') (seen : l.scene = some scene)
    (pictured : Pictured b l scene) : Portrays b c { l' with stage := .afterRender } := by
  cases h with
  | bare unseen => simp [seen] at unseen
  | @laid scene' overlay _ seen' attach =>
      obtain rfl := Option.some.inj (seen.symm.trans seen')
      constructor
      · intro scene' seen'
        obtain rfl := Option.some.inj (seen.symm.trans seen')
        exact pictured
      · rintro tag laid
        obtain rfl : overlay = some tag := laid
        exact ⟨scene, _, _, _, seen, attach⟩

/-- A layer that has been rendered can be planned, whatever its rules make of the options. -/
theorem Compiles.not_live {e} (h : Compiles c l w (.error e) l' w')
    (desc : b.Describes start table c) (live : Live b start bound l) : False := by
  obtain ⟨held, rendered⟩ := live
  obtain ⟨-, -, plan, planned⟩ := held.rendered rendered
  rw [h.no_plan desc] at planned
  cases planned

theorem Draws.portrays {r} (laws : b.Lawful start) (desc : b.Describes start table c)
    (faithful : c.Faithful) (live : Live b start bound l) (planned : Planned b l)
    (h : Draws c l w r l' w') : Portrays b c l' := by
  cases h with
  | undrawn render => exact render.portrays_of_error planned
  | kept render rules same overlay =>
      obtain ⟨scene, shown⟩ := render.shown faithful planned
      obtain ⟨-, -, found, -, rfl⟩ := (live.renders laws render).settles laws desc rules
      exact overlay.portrays shown.seen shown.pictured
  | unplanned render rules changed compile =>
      -- what the rules have settled on can be planned, so an overlay never outlives its scene here
      have settled := ((live.renders laws render).settles laws desc rules).1
      exact (compile.not_live desc settled).elim
  | lost render rules changed compile redraw =>
      obtain ⟨-, planned⟩ := compile.plans desc
      exact redraw.portrays_of_error planned
  | redrawn render rules changed compile redraw overlay =>
      obtain ⟨-, planned⟩ := compile.plans desc
      obtain ⟨scene, shown⟩ := redraw.shown faithful planned
      exact overlay.portrays shown.seen shown.pictured

/-! ## Stopping early -/

/-- An operation that draws nothing leaves what is shown, and changes nothing that it shows. -/
theorem Stops.portrays {op : Operation} {r} (laws : b.Lawful start)
    (desc : b.Describes start table c) (held : Held b start bound l)
    (h : Stops c op l w r l' w') (portrays : Portrays b c l) : Portrays b c l' := by
  have live (seen : l.scene.isSome = true) : Live b start bound l := ⟨held, held.seen seen⟩
  cases h with
  | uninitialized init => exact portrays.stays ⟨rfl, rfl, rfl⟩ fun _ => ⟨rfl, rfl⟩
  | unplanned init rules compile =>
      rw [compile.eq_with, compile.geometry_of_error, rules.eq_with]
      exact portrays.stays ⟨rfl, rfl, rfl⟩ fun _ => ⟨rfl, rfl⟩
  | empty => exact portrays
  | early => exact portrays
  | unresized valid rendered rules compile =>
      obtain ⟨-, same, -, fitted⟩ := held.fits laws desc valid rules
      exact (compile.not_live desc ⟨fitted, same.trans rendered⟩).elim
  | stored unrendered =>
      refine portrays.stays ⟨rfl, rfl, rfl⟩ fun seen => ?_
      simp [held.seen seen] at unrendered
  | unfed rendered compile =>
      exact (compile.not_live desc ⟨held.feeds laws _, rendered⟩).elim
  | refused rules =>
      rw [rules.eq_with]
      exact portrays.stays ⟨rfl, rfl, rfl⟩ fun _ => ⟨rfl, rfl⟩
  | ruled rules =>
      rw [rules.eq_with]
      exact portrays.stays ⟨rfl, rfl, rfl⟩ fun _ => ⟨rfl, rfl⟩

theorem Performs.portrays {op : Operation} {r} (laws : b.Lawful start)
    (desc : b.Describes start table c) (faithful : c.Faithful)
    (held : Held b start (bindings c table start) l) (h : Performs c op l w r l' w')
    (portrays : Portrays b c l) : Portrays b c l' := by
  rcases h with stops | ⟨l₁, w₁, prepared, drawn⟩
  · exact stops.portrays laws desc held portrays
  · obtain ⟨-, planned, live⟩ := prepared.held laws desc held
    exact drawn.portrays laws desc faithful live planned

/-- By induction on the operations so far: whatever a layer shows it has drawn as it is. -/
theorem Reachable.portrays {first : Layer} (laws : b.Lawful first.options)
    (desc : b.Describes first.options table c) (faithful : c.Faithful)
    (valid : first.viewport.isValid = true) (unseen : first.scene = none)
    (unlaid : first.overlay = none) (unrendered : first.rendered = false)
    (h : Reachable c first l) : Portrays b c l := by
  induction h with
  | start => exact portrays_bare unseen unlaid
  | perform reached run ih =>
      have held := reached.held laws desc valid unseen unrendered
      exact (Performs.of_exec run).portrays laws desc faithful held ih

/-! ## What is seen of the rows -/

theorem placed_silence {options : Options} {geometry : Geometry} (h : geometry.Placed) :
    (silence options geometry).Placed := by
  rw [silence]
  split
  · exact ⟨h.fields, h.label⟩
  · exact h

theorem Pictured.depicts (places : b.Places) (h : Pictured b l scene) : Depicts l scene := by
  obtain ⟨options, plan, planned, bound, drawn⟩ := h
  have placed : plan.geometry.Placed := by
    obtain ⟨scales, geometry, -, made, rfl⟩ := Behaviour.plan?_eq_ok.mp planned
    exact placed_silence (places made)
  obtain ⟨viewport, data⟩ : l.viewport = plan.viewport ∧ l.data = plan.data := by
    obtain ⟨scales, geometry, -, -, rfl⟩ := Behaviour.plan?_eq_ok.mp planned
    exact ⟨rfl, rfl⟩
  obtain rfl := Layout.eq_scene_of_draw drawn
  have rows := Layout.elements_rows id placed
  refine ⟨viewport.symm, rows.trans (by rw [data]), plan.geometry, bound, ?_⟩
  cases labelled : plan.geometry.label with
  | bound handle =>
      obtain ⟨field, first⟩ := placed.label handle labelled
      refine ⟨field, first, ?_⟩
      rw [data, ← rows, ← Layout.placeLabels_rows first, Layout.scene, labelled]
  | unset => simp only [Layout.scene, labelled, Layout.placeLabels]
  | suppressed => simp only [Layout.scene, labelled, Layout.placeLabels]

theorem Depicts.indices (h : Depicts l scene) :
    scene.elements.map Element.index = List.range l.data.length := by
  have numbers := congrArg (List.map Prod.snd) h.elements
  rw [List.map_map, List.zipIdx_map_snd, ← List.range_eq_range'] at numbers
  exact numbers

/-- An overlay has one tag for each two neighbouring rows. -/
theorem Portrays.overlaid {tag : ConversionTag} (places : b.Places) (ties : c.Ties)
    (h : Portrays b c l) (laid : l.overlay = some tag) :
    l.scene.isSome = true ∧
      tag.ends = (List.range (l.data.length - 1)).map fun i => (i, i + 1) := by
  obtain ⟨scene, options, w, w', seen, attach⟩ := h.overlay tag laid
  have depicts := (h.scene scene seen).depicts places
  refine ⟨Option.isSome_iff_exists.mpr ⟨scene, seen⟩, ?_⟩
  rw [ties attach, depicts.indices, ConversionTag.adjacent_range]

end Layer

end Charting
