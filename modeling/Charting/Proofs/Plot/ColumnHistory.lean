import Charting.Proofs.ConversionTag
import Charting.Proofs.Layer.Behaviour
import Charting.Proofs.Plot.ColumnPlan
import Charting.Proofs.Responsive

/-!
# Column plots have no history

The column plot as a behaviour: its rules replace what they wrote before, and what they find in a
scene does not depend on it.
-/

namespace Charting.Plot.Column

/-- How the column plot plans and adapts a chart that begins with these options. -/
def behaviour (start : Options) : Behaviour Verdict where
  scale options := ScaleSet.cartesian options (.ofKind .cat)
  geometry := geometryOf
  fit viewport options :=
    if start.isResponsive then writeTicks viewport.height options else options
  judge := judge ((start.string? "xField").getD "") ((start.string? "yField").getD "")
  settle found options := if start.isResponsive then writeVerdict found options else options

variable {start options : Options} {viewport viewport' : Viewport} {data data' : List Datum}
  {plan first : Plan} {found : Verdict}

/-! ## Plans -/

theorem silence_writeVerdict (slot : LabelSlot) (geometry : Geometry) :
    Layer.silence (writeVerdict found options) (relabel slot geometry) =
      relabel slot (Layer.silence options geometry) := by
  have animation : (writeVerdict found options).bool? "animation" = options.bool? "animation" := by
    rw [Options.bool?, Options.bool?, get?_writeVerdict (by decide)]
  rw [Layer.silence, Layer.silence, animation]
  by_cases off : (options.bool? "animation" == some false) = true
  · rw [if_pos off, if_pos off]
    rfl
  · rw [if_neg off, if_neg off]

theorem plan?_writeVerdict (h : (behaviour start).plan? options viewport data = .ok plan) :
    (behaviour start).plan? (writeVerdict found options) viewport data = .ok { plan with
      options := writeVerdict found options
      geometry := relabel (slotOf (writeVerdict found options)) plan.geometry } := by
  obtain ⟨scales, made, hs, hg, rfl⟩ := Behaviour.plan?_eq_ok.mp h
  let slot := slotOf (writeVerdict found options)
  refine Behaviour.plan?_eq_ok.mpr ⟨scales, relabel slot made, ?_, ?_, ?_⟩
  · exact (cartesian_writeVerdict _).trans hs
  · have relabelled : (behaviour start).geometry (writeVerdict found options) =
        ((behaviour start).geometry options).map (relabel slot) := geometryOf_writeVerdict
    rw [relabelled, hg]
    rfl
  · rw [silence_writeVerdict]

theorem label_silence (geometry : Geometry) :
    (Layer.silence options geometry).label = geometry.label := by
  rw [Layer.silence]
  split <;> rfl

theorem label_adjust (geometry : Geometry) : (adjust options geometry).label = geometry.label := by
  rw [adjust]
  split <;> rfl

theorem label_of_plan? (h : (behaviour start).plan? options viewport data = .ok plan) :
    plan.geometry.label = slotOf options := by
  obtain ⟨scales, geometry, -, hg, rfl⟩ := Behaviour.plan?_eq_ok.mp h
  obtain ⟨xField, yField, made, -, hy, -, rfl⟩ := Geometry.ofChart_eq_ok.mp hg
  have slot : slotOf options = .ofOptions "columnLabel" yField options := by
    rw [slotOf, hy]
    rfl
  rw [slot]
  exact (label_silence _).trans (label_adjust _)

/-- A column chart can be planned when it names its two fields. -/
theorem plan?_ok_iff :
    (∃ plan, (behaviour start).plan? options viewport data = .ok plan) ↔
      (options.string? "xField").isSome = true ∧ (options.string? "yField").isSome = true := by
  constructor
  · rintro ⟨plan, h⟩
    obtain ⟨scales, geometry, hs, -, -⟩ := Behaviour.plan?_eq_ok.mp h
    exact ScaleSet.cartesian_ok_iff.mp ⟨scales, hs⟩
  · intro h
    obtain ⟨scales, hs⟩ := ScaleSet.cartesian_ok_iff.mpr h
    obtain ⟨⟨xField, hx⟩, yField, hy⟩ :=
      h.imp Option.isSome_iff_exists.mp Option.isSome_iff_exists.mp
    exact ⟨_, Behaviour.plan?_eq_ok.mpr
      ⟨scales, _, hs, Geometry.ofChart_eq_ok.mpr ⟨xField, yField, _, hx, hy, rfl, rfl⟩, rfl⟩⟩

/-! ## Scenes -/

/-- What is found in a scene depends on its size and on its elements, not on its labels. -/
theorem judge_congr {xField yField : String} {scene scene' : Scene}
    (size : scene.viewport = scene'.viewport) (elements : scene.elements = scene'.elements) :
    judge xField yField data scene = judge xField yField data scene' := by
  obtain ⟨viewport, items, _⟩ := scene
  obtain ⟨viewport', items', _⟩ := scene'
  obtain rfl : viewport = viewport' := size
  obtain rfl : items = items' := elements
  rfl

theorem scene_relabel (slot : LabelSlot) :
    Layout.scene { plan with options, geometry := relabel slot plan.geometry } =
      { Layout.scene plan with labels := Layout.placeLabels slot (Layout.elements id plan) } := rfl

theorem draw_ok_iff :
    (∃ scene, Layout.draw plan = .ok scene) ↔ (Layout.scene plan).validate = .ok () := by
  rw [Layout.draw]
  cases (Layout.scene plan).validate with
  | error e =>
      constructor
      · rintro ⟨scene, drawn⟩
        cases drawn
      · intro valid
        cases valid
  | ok _ => exact ⟨fun _ => rfl, fun _ => ⟨_, rfl⟩⟩

/-- A scene stays valid without its labels. -/
theorem validate_unlabelled {scene : Scene} (h : scene.validate = .ok ()) :
    Scene.validate { scene with labels := [] } = .ok () := by
  rw [Scene.validate] at h ⊢
  split at h
  · cases h
  · rename_i size
    rw [if_neg size]
    split at h
    · cases h
    · rename_i finite
      simp only [finite, List.find?_nil]

/-! ## The behaviour -/

theorem fit_sameBut (start options : Options) (viewport : Viewport) :
    Options.SameBut ["yAxis"] ((behaviour start).fit viewport options) options := by
  simp only [behaviour]
  split
  · exact writeTicks_sameBut _ _
  · exact fun _ _ => rfl

theorem settle_sameBut (start options : Options) (found : Verdict) :
    Options.SameBut ["xAxis", "label"] ((behaviour start).settle found options) options := by
  simp only [behaviour]
  split
  · exact writeVerdict_sameBut _ _
  · exact fun _ _ => rfl

/-- Whatever the rules have written, the rest is as it was at first. -/
theorem adapted_sameBut (h : (behaviour start).Adapted start viewport options) :
    Options.SameBut ["yAxis", "xAxis", "label"] options start := by
  cases h with
  | fitted => exact (fit_sameBut start start viewport).mono (by decide)
  | settled found =>
      have settled := (settle_sameBut start ((behaviour start).fit viewport start) found).mono
        (show ["xAxis", "label"] ⊆ ["yAxis", "xAxis", "label"] by decide)
      exact settled.trans ((fit_sameBut start start viewport).mono (by decide))

theorem plan?_of_adapted {options' : Options}
    (adapted : (behaviour start).Adapted start viewport options)
    (adapted' : (behaviour start).Adapted start viewport' options')
    (h : (behaviour start).plan? options viewport data = .ok plan) :
    ∃ plan', (behaviour start).plan? options' viewport' data' = .ok plan' := by
  have same {path : String} (outside : (OptionTree.segments path).head
      (OptionTree.segments_ne_nil path) ∉ ["yAxis", "xAxis", "label"]) :
      options'.string? path = options.string? path := by
    rw [Options.string?, Options.string?, (adapted_sameBut adapted).get? outside,
      (adapted_sameBut adapted').get? outside]
  rw [plan?_ok_iff, same (by decide), same (by decide)]
  exact plan?_ok_iff.mp ⟨plan, h⟩

/-- What the plan for the settled options draws is what the first plan draws, with other labels. -/
theorem scene_settle {plan' : Plan}
    (h : (behaviour start).plan? options viewport data = .ok plan)
    (h' : (behaviour start).plan? ((behaviour start).settle found options) viewport data =
      .ok plan') :
    (Layout.scene plan').viewport = (Layout.scene plan).viewport ∧
      (Layout.scene plan').elements = (Layout.scene plan).elements ∧
      ((Layout.scene plan).labels = [] ∨
        (Layout.scene plan').labels = (Layout.scene plan).labels) := by
  have written : plan' = plan ∨ plan' = { plan with
      options := writeVerdict found options
      geometry := relabel (slotOf (writeVerdict found options)) plan.geometry } := by
    rw [behaviour] at h'
    simp only at h'
    split at h'
    · have again := (plan?_writeVerdict h).symm.trans h'
      cases again
      exact .inr rfl
    · exact .inl (Except.ok.inj (h'.symm.trans h))
  rcases written with rfl | rfl
  · exact ⟨rfl, rfl, .inr rfl⟩
  · rw [scene_relabel]
    refine ⟨rfl, rfl, ?_⟩
    show Layout.placeLabels plan.geometry.label _ = [] ∨ _ = Layout.placeLabels plan.geometry.label _
    rw [label_of_plan? h]
    exact placeLabels_writeVerdict _

theorem lawful (start : Options) : (behaviour start).Lawful start where
  fit_fit v v' := by
    simp only [behaviour]
    split
    · exact writeTicks_writeTicks _ _ _
    · rfl
  fit_settle v v' found := by
    simp only [behaviour]
    split
    · exact writeTicks_writeVerdict _ _ _ _
    · rfl
  settle_settle v found found' := by
    simp only [behaviour]
    split
    · exact writeVerdict_writeVerdict _ _ _
    · rfl
  settle_of_agrees {v options found} adapted agree := by
    simp only [behaviour] at agree ⊢
    split
    · rename_i on
      rw [if_pos on] at agree
      exact writeVerdict_of_agrees agree
    · rfl
  events adapted := (adapted_sameBut adapted).get? (by decide)
  plans := plan?_of_adapted
  judged {v found data first plan} h h' := by
    obtain ⟨size, elements, -⟩ := scene_settle h h'
    exact judge_congr size elements
  drawable {v found data first plan scene} h h' drawn := by
    obtain ⟨size, elements, labels⟩ := scene_settle h h'
    rw [draw_ok_iff]
    have valid := draw_ok_iff.mp ⟨scene, drawn⟩
    have same : Layout.scene first =
        ⟨(Layout.scene plan).viewport, (Layout.scene plan).elements, (Layout.scene first).labels⟩ := by
      rw [size, elements]
    rcases labels with none | same'
    · rw [same, none]
      exact validate_unlabelled valid
    · rw [same, ← same']
      exact valid

/-! ## The plot type -/

section Describing

variable {σ : Type}

theorem run_preRender (context : RuleContext) (options : Options) (w : σ) :
    (((rules σ).apply .preRender context).run options).run w =
      ((1, writeTicks context.viewport.height options), w) := rfl

theorem run_afterRender {context : RuleContext} {scene : Scene} {xField yField : String}
    (seen : context.scene = some scene) (hx : options.string? "xField" = some xField)
    (hy : options.string? "yField" = some yField) (w : σ) :
    (((rules σ).apply .afterRender context).run options).run w =
      ((2, writeVerdict (judge xField yField context.data scene) options), w) := by
  have unfolded : ((rules σ).apply .afterRender context).run options = (do
      let (a, options) ← ((⟨"xAxisLabelDensity", .afterRender, fun context =>
        OptionsM.ofFunction (fitAxisLabels context)⟩ : Rule σ).attempt context).run options
      let (b, options) ← ((⟨"columnLabelFit", .afterRender, fun context =>
        OptionsM.ofFunction (fitLabels context)⟩ : Rule σ).attempt context).run options
      let completed := if a then 1 else 0
      pure (if b then completed + 1 else completed, options)) := rfl
  let found := judge xField yField context.data scene
  let turned := (options.set "xAxis.label.autoRotate" (.bool found.crowded)).set
    "xAxis.label.autoHide" (.bool found.crowded)
  have first : fitAxisLabels context options = .ok turned := by
    rw [fitAxisLabels, seen]
    simp only [Options.requireString, hx]
    rfl
  have second : fitLabels context turned =
      .ok (turned.set "label.adjustPosition" (.bool found.moved)) := by
    -- the second rule finds its field where it was before the first
    have same : Options.SameBut ["xAxis"] turned options :=
      (Options.set_sameBut _ _ (by decide)).trans (Options.set_sameBut _ _ (by decide))
    rw [fitLabels, seen]
    simp only [Options.requireString, Options.string?] at hy ⊢
    rw [same.get? (by decide), hy]
    rfl
  rw [unfolded, StateT.run_bind, Rule.run_attempt_ofFunction, first]
  show (((⟨"columnLabelFit", .afterRender, fun context =>
    OptionsM.ofFunction (fitLabels context)⟩ : Rule σ).attempt context).run turned >>=
      fun (b, options) => pure (if b then 2 else 1, options)).run w = _
  rw [StateT.run_bind, Rule.run_attempt_ofFunction, second]
  rfl

theorem isResponsive_of_adapted (h : (behaviour start).Adapted start viewport options) :
    options.isResponsive = start.isResponsive := by
  have same := adapted_sameBut h
  rw [Options.isResponsive, Options.isResponsive, Options.bool?, Options.bool?, Options.string?,
    Options.string?, same.get? (by decide), same.get? (by decide)]

theorem describes (invoke : Invoke σ) (renderer : Plan → Attempt σ Scene) (start : Options) :
    (behaviour start).Describes start events { plot := plot invoke, renderer } where
  beforeInit _ _ := rfl
  scale _ _ := rfl
  coordinate _ _ := rfl
  geometry options w :=
    run_bindKind (plot invoke).toGeometryHooks rfl rfl .interval "main" options w
  animation _ _ _ := rfl
  eventTable _ := rfl
  fits {l w count l' w'} adapted h := by
    have gate : l.options.isResponsive = start.isResponsive := by
      rcases adapted with raw | ⟨v, adapted⟩
      · rw [raw]
      · exact isResponsive_of_adapted adapted
    cases h with
    | gated _ off =>
        simp only [behaviour, ← gate, off, Bool.false_eq_true, ↓reduceIte, and_self]
    | applied _ on rules =>
        obtain ⟨ran, rfl⟩ := Prod.mk.inj ((run_preRender _ _ _).symm.trans rules)
        obtain ⟨-, rfl⟩ := Prod.mk.inj ran
        simp only [behaviour, ← gate, on, ↓reduceIte, and_true]
        rfl
  settles {l scene plan w count l' w'} adapted planned seen h := by
    have gate := isResponsive_of_adapted adapted
    have same := adapted_sameBut adapted
    obtain ⟨hx, hy⟩ := plan?_ok_iff.mp ⟨plan, planned⟩
    obtain ⟨xField, hx⟩ := Option.isSome_iff_exists.mp hx
    obtain ⟨yField, hy⟩ := Option.isSome_iff_exists.mp hy
    have first : start.string? "xField" = some xField := by
      rw [← hx, Options.string?, Options.string?, same.get? (by decide)]
    have second : start.string? "yField" = some yField := by
      rw [← hy, Options.string?, Options.string?, same.get? (by decide)]
    cases h with
    | gated _ off =>
        simp only [behaviour, ← gate, off, Bool.false_eq_true, ↓reduceIte, and_self]
    | applied _ on rules =>
        have context : l.ruleContext.scene = some scene := seen
        obtain ⟨ran, rfl⟩ := Prod.mk.inj ((run_afterRender context hx hy w).symm.trans rules)
        obtain ⟨-, rfl⟩ := Prod.mk.inj ran
        simp only [behaviour, ← gate, on, ↓reduceIte, first, second, and_true]
        rfl

/-- The function of the caller that makes the texts of the tags, if one does. -/
def tagFormatter? (options : Options) : Option Callback := (tagSpec? options).bind TagSpec.formatter

/-- The tags depend on the world as far as the function that makes their texts does. -/
theorem attachOverlay_alike {τ : Type} {R : σ → τ → Prop} {invoke : Invoke σ} {invoke' : Invoke τ}
    {options : Options}
    (h : ∀ f ∈ tagFormatter? options, ∀ args, Alike R (invoke f args) (invoke' f args))
    (scene : Scene) :
    Alike R ((plot invoke).attachOverlay scene options)
      ((plot invoke').attachOverlay scene options) := by
  rw [tagFormatter?] at h
  simp only [plot]
  cases shown : tagSpec? options with
  | none => exact alike_pure none
  | some spec =>
      rw [shown] at h
      exact ConversionTag.attach_alike h _

end Describing

end Charting.Plot.Column
