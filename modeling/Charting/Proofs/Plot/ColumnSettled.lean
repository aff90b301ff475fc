import Charting.Proofs.Plot.ColumnLabels

/-!
# Columns whose rules have settled

After a drawing the rules of the column plot find what they have written already. The scene may be
one that they have never looked at, drawn once more for the options that they changed: they would
judge it like the first one.
-/

namespace Charting.Plot.Column

variable {σ : Type} {invoke : Invoke σ} {renderer : Plan → Attempt σ Scene} {l l' : Layer}
  {w w' : σ}

/-- Rules that are switched on all complete for a chart that names its fields. -/
theorem count_of_applies {stage : RuleStage} {count : Nat} (on : l.options.isResponsive = true)
    (fields : (l.options.string? "xField").isSome = true ∧
      (l.options.string? "yField").isSome = true)
    (h : Layer.AppliesRules { plot := plot invoke, renderer } stage l w (.ok count) l' w') :
    count = ((rules σ).ofStage stage).length := by
  cases h with
  | gated _ off => simp [on] at off
  | applied seen _ ran =>
      cases stage with
      | preRender =>
          obtain ⟨same, -⟩ := Prod.mk.inj ((run_preRender _ _ _).symm.trans ran)
          exact (Prod.mk.inj same).1.symm
      | afterRender =>
          obtain ⟨scene, seen⟩ := Option.isSome_iff_exists.mp (seen rfl)
          obtain ⟨xField, hx⟩ := Option.isSome_iff_exists.mp fields.1
          obtain ⟨yField, hy⟩ := Option.isSome_iff_exists.mp fields.2
          have context : l.ruleContext.scene = some scene := seen
          obtain ⟨same, -⟩ := Prod.mk.inj ((run_afterRender context hx hy w).symm.trans ran)
          exact (Prod.mk.inj same).1.symm

/--
After a drawing, all the rules of either stage run to their ends and change nothing, in any order
and as often as one likes.
-/
theorem settled_of_drawn {description : Description} {start : Layer} {op : Operation}
    (created : Layer.create (plot invoke) description = .ok start)
    (faithful : Collaborators.Faithful { plot := plot invoke, renderer })
    (on : start.options.isResponsive = true)
    (reached : Layer.Reachable { plot := plot invoke, renderer } start l)
    (draws : op.draws l = true)
    (run : (op.perform { plot := plot invoke, renderer }).exec l w = ((.ok (), l'), w'))
    (stages : List RuleStage) (world : σ) :
    (stages.mapM (Layer.applyResponsive { plot := plot invoke, renderer })).exec l' world =
      ((.ok (stages.map fun stage => ((rules σ).ofStage stage).length), l'), world) := by
  obtain ⟨valid, options, -, rfl⟩ := Layer.create_eq_ok.mp created
  have desc := describes invoke renderer options
  obtain ⟨-, finished⟩ :=
    reached.finishes (lawful options) desc faithful valid rfl rfl draws run
  have gate : l'.options.isResponsive = true :=
    (isResponsive_of_adapted finished.adapted).trans on
  have fields : (l'.options.string? "xField").isSome = true ∧
      (l'.options.string? "yField").isSome = true := by
    obtain ⟨-, final, -, -, -, planned, -⟩ := finished
    exact plan?_ok_iff.mp ⟨final, planned⟩
  refine LayerM.exec_mapM_of_idle (fun stage w => ?_) stages world
  rcases applied : (Layer.applyResponsive { plot := plot invoke, renderer } stage).exec l' w
    with ⟨⟨r, l₁⟩, w₁⟩
  have applies := Layer.AppliesRules.of_exec applied
  obtain ⟨⟨count, rfl⟩, rfl, rfl⟩ := finished.ruled (lawful options) desc applies
  rw [count_of_applies gate fields applies]

/-- The column was drawn twice, and its rules stand by what the first scene made them write. -/
theorem settled_of_drawnUnlabelled :
    ((Operation.render.perform headless).exec newUnlabelled {}).2.renders = 2 ∧
      ([.afterRender, .preRender, .preRender, .afterRender].mapM
        (Layer.applyResponsive headless)).exec drawnUnlabelled {} =
          ((.ok [2, 1, 1, 2], drawnUnlabelled), {}) := by
  have on : newUnlabelled.options.isResponsive = true := by decide +kernel
  exact ⟨by decide +kernel, settled_of_drawn create_newUnlabelled
    (Layout.Headless.render_plain _).faithful on .start rfl render_newUnlabelled _ {}⟩

end Charting.Plot.Column
