import Charting.Proofs.Layer.Coherence
import Charting.Proofs.Layer.Unresponsive
import Charting.Proofs.Options.Sameness

/-!
# Charts that are drawn twice

A chart is drawn once more if the later rules changed the options, which is told by agreement. No
change of a value escapes it, but a NaN anywhere among the options passes for one.
-/

namespace Charting

namespace Layer

open OptionTree (Same)

variable {σ : Type} {c : Collaborators σ} {op : Operation} {l l' : Layer}

theorem Draws.options_of_off {w w' : σ × List Call} (off : l.options.isResponsive = false)
    (h : Draws c.noted l w (.ok ()) l' w') : l'.options = l.options := by
  cases h with
  | kept render rules same overlay =>
      rw [overlay.options, ← render.options]
      cases rules with
      | gated => rfl
      | applied seen on => simp [render.options, off] at on
  | redrawn render rules changed => simp [render.options, off] at changed

/-- The options that were drawn, those that are left, and the number of drawings. -/
theorem drawings_of_run {w w' : σ} (draws : op.draws l = true)
    (run : (op.perform c).exec l w = ((.ok (), l'), w')) :
    let drawn := firstDrawn (op.calls c l w) l'.options
    (drawn.isResponsive = false → l'.options = drawn) ∧
      (drawings (op.calls c l w)).length =
        if drawn.isResponsive && drawn != l'.options then 2 else 1 := by
  have noted := op.exec_noted c l w
  rw [run] at noted
  obtain ⟨l₁, w₁, prepared, drawn⟩ := (Performs.of_exec noted).drawn draws
  obtain ⟨geometry, planned⟩ := prepared.isSome_geometry
  obtain ⟨answer, more, drew, count⟩ := drawn.drawings planned
  have none_before : drawings w₁.2 = [] := prepared.drawings
  rw [none_before, List.nil_append] at drew
  have first : firstDrawn (op.calls c l w) l'.options = l₁.options := by
    rw [firstDrawn, show drawings (op.calls c l w) = _ from drew]
    rfl
  rw [first]
  refine ⟨fun off => drawn.options_of_off off, ?_⟩
  rw [show drawings (op.calls c l w) = _ from drew, List.length_cons, count]
  split <;> rfl

/--
When an operation has drawn, its chart was drawn once or twice. It was drawn twice if the options
are not the same as those that were drawn first, and also if they are the same but have a NaN among
them and ask for the rules.
-/
theorem drawings_of_sameness {w w' : σ} (draws : op.draws l = true)
    (run : (op.perform c).exec l w = ((.ok (), l'), w')) :
    let drawn := firstDrawn (op.calls c l w) l'.options
    drawn.root.keyed = true → l'.options.root.keyed = true →
      (Same drawn.root l'.options.root →
        (drawings (op.calls c l w)).length =
          if drawn.isResponsive && !l'.options.root.freeOfNaN then 2 else 1) ∧
      (¬Same drawn.root l'.options.root → (drawings (op.calls c l w)).length = 2) := by
  intro drawn keyed keyed'
  obtain ⟨unchanged, count⟩ := drawings_of_run draws run
  have agree : (drawn == l'.options) = true ↔
      Same drawn.root l'.options.root ∧ l'.options.root.freeOfNaN = true :=
    OptionTree.agrees_iff keyed keyed'
  rw [count]
  constructor
  · intro same
    have differ : (drawn != l'.options) = !l'.options.root.freeOfNaN := by
      rw [bne, Bool.not_inj_iff, Bool.eq_iff_iff, agree, and_iff_right same]
    rw [differ]
  · intro differ
    -- rules that are off leave the options, which are the same as themselves
    have on : drawn.isResponsive = true := by
      refine Bool.of_not_eq_false fun off => differ ?_
      rw [unchanged off]
      exact .refl _
    have disagree : (drawn != l'.options) = true := by
      rw [bne, Bool.not_eq_true', Bool.eq_false_iff]
      exact fun same => differ (agree.mp same).1
    rw [if_pos (by rw [on, disagree]; rfl)]

/-! ## Charts without rules -/

/-- The options stay as they are if the plot type has no rules and its first hook is idle. -/
theorem preserves_options (bare : c.plot.rules = {})
    (idle : ∀ options w, ((c.plot.beforeInit.run.run options).run w).1.2 = options)
    (options : Options) : Preserves c fun l _ => l.options = options where
  init {l w _ left _} _ init same := by
    rw [← same, ← idle l.options w]
    exact congrArg (·.1.2) init.symm
  rules rules same := by
    cases rules with
    | refused | gated => exact same
    | applied seen on rules =>
        obtain ⟨unchanged, -⟩ := (AppliesRules.applied seen on rules).eq_of_no_rules bare
        exact (congrArg Layer.options unchanged).trans same
  compiles compile same := compile.options.trans same
  events _ _ same := same
  renders render same := render.options.trans same
  overlays overlay same := overlay.options.trans same
  feeds _ _ same := same

/-- One row, options that ask for the rules, and a number as an option of the caller's own. -/
def respondingScatter (note : Float) : Description where
  options := .obj [("xField", .str "x"), ("yField", .str "y"), ("responsive", .bool true),
    ("padding", .num 10), ("note", .num note)]
  data := [[("x", .num (.int 1)), ("y", .num (.int 2))]]

def newResponding (note : Float) : Layer where
  viewport := {}
  data := (respondingScatter note).data
  options := ⟨(((OptionTree.obj []).mergeObject .baseDefaults).mergeObject
    Plot.Scatter.defaults).mergeObject (respondingScatter note).options⟩

def drawnResponding (note : Float) : Layer :=
  ((Operation.render.perform plainScatter).exec (newResponding note) {}).1.2

/-- A rule that turns the sign of a zero leaves the same options, and the chart is drawn once. -/
example :
    let turn : Rule Layout.Headless := ⟨"turn", .afterRender, fun _ =>
      OptionsM.ofFunction fun options => .ok (options.set "note" (.num (-0)))⟩
    let c := { plainScatter with plot := { plainScatter.plot with rules := ⟨[turn]⟩ } }
    (drawings (Operation.render.calls c (newResponding 0) {})).length = 1 := by
  decide +kernel

theorem options_drawnResponding (note : Float) :
    (drawnResponding note).options = (newResponding note).options :=
  (preserves_options rfl (fun _ _ => rfl) _).performs (.of_exec (LayerM.exec_of_outcome rfl)) rfl

/-- A plot type without rules has drawn once, and the rules of the column changed its options. -/
theorem drawings_of_sameness_rules :
    (drawings (Operation.render.calls plainScatter (newResponding 1) {})).length = 1 ∧
      (drawings
        (Operation.render.calls Plot.Column.headless Plot.Column.newUnlabelled {})).length = 2 := by
  have scatter : (Operation.render.perform plainScatter).exec (newResponding 1) {} =
      ((.ok (), drawnResponding 1), _) := LayerM.exec_of_outcome (by decide +kernel)
  constructor
  · let drawn := firstDrawn (Operation.render.calls plainScatter (newResponding 1) {})
      (drawnResponding 1).options
    obtain ⟨keyed, keyed', agree⟩ : drawn.root.keyed = true ∧
        (drawnResponding 1).options.root.keyed = true ∧
        (drawn == (drawnResponding 1).options) = true := by decide +kernel
    obtain ⟨same, free⟩ := (OptionTree.agrees_iff keyed keyed').mp agree
    rw [(drawings_of_sameness rfl scatter keyed keyed').1 same, free, Bool.not_true,
      Bool.and_false, if_neg Bool.false_ne_true]
  · let left := Plot.Column.drawnUnlabelled.options
    let drawn := firstDrawn (Operation.render.calls Plot.Column.headless
      Plot.Column.newUnlabelled {}) left
    obtain ⟨keyed, keyed', free, differ⟩ : drawn.root.keyed = true ∧ left.root.keyed = true ∧
        left.root.freeOfNaN = true ∧ ¬(drawn == left) = true := by decide +kernel
    exact (drawings_of_sameness rfl Plot.Column.render_newUnlabelled keyed keyed').2 fun same =>
      differ ((OptionTree.agrees_iff keyed keyed').mpr ⟨same, free⟩)

/-- Without any rules the options stay as they were, but with a NaN among them are drawn twice. -/
theorem responding_redrawn :
    create plainScatter.plot (respondingScatter notANumber) = .ok (newResponding notANumber) ∧
      plainScatter.plot.rules.all = [] ∧
      ((Operation.render.perform plainScatter).exec (newResponding notANumber) {}).1 =
        (.ok (), drawnResponding notANumber) ∧
      (drawnResponding notANumber).options = (newResponding notANumber).options ∧
      (drawings
        (Operation.render.calls plainScatter (newResponding notANumber) {})).length = 2 := by
  have ran : (Operation.render.perform plainScatter).exec (newResponding notANumber) {} =
      ((.ok (), drawnResponding notANumber), _) := LayerM.exec_of_outcome (by decide +kernel)
  exact ⟨rfl, rfl, congrArg Prod.fst ran, options_drawnResponding _, by decide +kernel⟩

end Layer

end Charting
