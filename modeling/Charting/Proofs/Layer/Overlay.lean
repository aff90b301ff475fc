import Charting.Proofs.Layer.Operations

/-!
# When the overlay is attached

The last thing that a drawing does is to attach the overlay. Without it an operation leaves the
same layer, apart from the overlay itself, and the world in which the overlay would be attached.
-/

namespace Charting

variable {σ : Type} {c : Collaborators σ}

/-- The same collaborators, whose plot type lays nothing over its scenes. -/
def Collaborators.bare (c : Collaborators σ) : Collaborators σ :=
  { c with plot := { c.plot with attachOverlay := fun _ _ => pure none } }

theorem LayerM.ext_exec {α : Type} {x y : LayerM σ α} (h : ∀ l w, x.exec l w = y.exec l w) : x = y :=
  funext fun l => funext fun w => h l w

namespace Layer

theorem renderScene_bare : renderScene c.bare = renderScene c := rfl

theorem bindEvents_bare : bindEvents c.bare = bindEvents c := rfl

theorem compile_bare : compile c.bare = compile c := rfl

theorem applyResponsive_bare (stage : RuleStage) :
    applyResponsive c.bare stage = applyResponsive c stage := rfl

/-- Attaching nothing first makes no difference, since only the overlay is written. -/
theorem attachOverlay_bare : (do
    attachOverlay c.bare
    enter .afterRender
    attachOverlay c) = (do
    attachOverlay c
    enter .afterRender) := by
  refine LayerM.ext_exec fun l w => ?_
  rcases l with ⟨_, _, _, _, _, _, _ | scene, _, _, _, _⟩ <;> rfl

theorem draw_bare : (do
    draw c.bare
    attachOverlay c) = draw c := by
  simp only [draw, renderScene_bare, applyResponsive_bare, compile_bare, bind_assoc]
  refine bind_congr fun _ => bind_congr fun before => bind_congr fun _ => bind_congr fun after => ?_
  split
  · simp only [bind_assoc, attachOverlay_bare]
  · simp only [bind_assoc, attachOverlay_bare]

theorem render_bare : (do
    render c.bare
    attachOverlay c) = render c := by
  simp only [render, bindEvents_bare, applyResponsive_bare, compile_bare, bind_assoc, draw_bare]
  rfl

theorem resize_bare (viewport : Viewport) : (do
    resize c.bare viewport
    attachOverlay c) = resize c viewport := by
  have thrown (e : Failure) (f : Unit → LayerM σ Unit) :
      (throw e >>= f : LayerM σ Unit) = throw e :=
    LayerM.ext_exec fun _ _ => LayerM.exec_throw_bind e f
  simp only [resize, applyResponsive_bare, compile_bare]
  split
  · simp only [thrown]
  · simp only [bind_assoc]
    refine bind_congr fun l => ?_
    split
    · simp only [thrown]
    · simp only [bind_assoc, draw_bare]

theorem changeData_bare (data : List Datum) {l : Layer} {w : σ} (rendered : l.rendered = true) :
    (do
      changeData c.bare data
      attachOverlay c).exec l w = (changeData c data).exec l w := by
  simp only [changeData, compile_bare, bind_assoc, LayerM.exec_modify_bind, LayerM.exec_get_bind,
    rendered, if_true, draw_bare]

end Layer

namespace Operation

variable {op : Operation} {l l' : Layer} {w w' : σ} {scene : Scene}

/-- An operation that draws is one that attaches nothing, and then attaches the overlay. -/
theorem exec_bare (draws : op.draws l = true) :
    (op.perform c).exec l w = (do op.perform c.bare; Layer.attachOverlay c).exec l w := by
  cases op with
  | render => rw [perform, perform, Layer.render_bare]
  | resize viewport => rw [perform, perform, Layer.resize_bare]
  | changeData data => exact (Layer.changeData_bare data draws).symm
  | applyResponsive stage => cases draws

/-- The world in which an operation that draws attaches the overlay. -/
def overlayWorld (c : Collaborators σ) (op : Operation) (l : Layer) (w : σ) : σ :=
  ((op.perform c.bare).exec l w).2

/-- The overlay of a drawn layer is the one that its plot type has attached in that world. -/
theorem attaches (draws : op.draws l = true)
    (run : (op.perform c).exec l w = ((.ok (), l'), w')) (seen : l'.scene = some scene) :
    (c.plot.attachOverlay scene l'.options).run (op.overlayWorld c l w) = (l'.overlay, w') := by
  rw [exec_bare draws, LayerM.exec_bind] at run
  rw [overlayWorld]
  rcases bare : (op.perform c.bare).exec l w with ⟨⟨e | _, l₁⟩, w₁⟩
  · rw [bare] at run
    cases run
  · rw [bare] at run
    obtain ⟨-, overlay⟩ := Layer.Overlays.of_exec run
    cases overlay with
    | bare unseen => simp [unseen] at seen
    | laid seen' attach =>
        obtain rfl := Option.some.inj (seen.symm.trans seen')
        exact attach

end Operation

end Charting
