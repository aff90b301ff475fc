import Charting.Proofs.Layer.CallOrder

/-!
# Layers whose rules are switched off

The options say whether the rules run, and only rules and the first hook write into the options. So
rules that are off at first stay off: they are never called, every drawing is made once, and the
options stay what they were resolved to.
-/

namespace Charting

theorem Options.isResponsive_eq_false_iff {options : Options} :
    options.isResponsive = false ↔
      options.bool? "responsive" ≠ some true ∨ options.string? "padding" = some "auto" := by
  simp [Options.isResponsive, imp_iff_not_or]

namespace Layer

variable {σ : Type} {c : Collaborators σ} {op : Operation} {options : Options} {start l l' : Layer}
  {steps : List Step} {w w' : σ × List Call}

/-- The options are these, and no rule has been called. -/
def Untouched (options : Options) (l : Layer) (w : σ × List Call) : Prop :=
  l.options = options ∧ ∀ call ∈ w.2, ¬call.IsRule

theorem Untouched.stays (h : Untouched options l w) (same : l'.options = l.options)
    (calls : Adds (fun call => ¬call.IsRule) w w') : Untouched options l' w' := by
  obtain ⟨more, others, log⟩ := calls
  refine ⟨same.trans h.1, fun call hc => ?_⟩
  rw [log, List.mem_append] at hc
  exact hc.elim (h.2 call) (others call)

theorem preserves_untouched (off : options.isResponsive = false)
    (idle : ∀ w, ((c.plot.beforeInit.run.run options).run w).1.2 = options) :
    Preserves c.noted (Untouched options) where
  -- two parts of an operation could write options: the one is idle, the other is off
  init {l w r left w'} stage init h := by
    obtain ⟨answer, log⟩ := run_noting (fun _ => [.beforeInit]) _ init
    have same : left = l.options := by
      rw [h.1, ← idle w.1, ← h.1]
      exact congrArg (·.1.2) answer.symm
    exact h.stays same (.of_call log (by simp [Call.IsRule]))
  rules rules h := by
    cases rules with
    | refused | gated => exact h
    | applied seen on => simp [h.1, off] at on
  compiles compile h :=
    h.stays compile.options (compile.adds.mono fun _ planning rule => rule.aside.1 planning)
  events _ events h := by
    obtain ⟨-, log⟩ := run_noting (fun _ => [.events]) _ events
    exact h.stays rfl (.of_call log (by simp [Call.IsRule]))
  renders render h := h.stays render.options (render.adds_render.mono (by
    rintro _ ⟨plan, answer, rfl⟩ ⟨name, rule⟩
    cases rule))
  overlays overlay h := h.stays overlay.options (overlay.adds_overlay.mono (by simp [Call.IsRule]))
  feeds _ _ h := h

theorem Recorded.untouched (off : start.options.isResponsive = false)
    (idle : ∀ w, ((c.plot.beforeInit.run.run start.options).run w).1.2 = start.options)
    (h : Recorded c start steps l) :
    l.options = start.options ∧ ∀ call ∈ allCalls steps, ¬call.IsRule := by
  refine h.invariant (P := fun steps l => l.options = start.options ∧
    ∀ call ∈ allCalls steps, ¬call.IsRule) ⟨rfl, by simp [allCalls]⟩ ?_
  rintro steps op l w r l' w' performs ⟨same, before⟩
  obtain ⟨same', after⟩ := (preserves_untouched off idle).performs performs ⟨same, by simp⟩
  refine ⟨same', fun call hc => ?_⟩
  rw [allCalls_concat, List.mem_append] at hc
  exact hc.elim (before call) (after call)

/-! ## Drawing once -/

theorem Prepares.drawings (h : Prepares c.noted op l w l' w') :
    Charting.drawings w'.2 = Charting.drawings w.2 := by
  obtain ⟨calls, log, follows, -⟩ := h.makes
  rw [log, drawings_append, follows.undrawn (op.undrawn_preparing c _), List.append_nil]

/-- A drawing that succeeds calls the renderer for the plan, and again if the options changed. -/
theorem Draws.drawings {geometry : Geometry} (planned : l.geometry = some geometry)
    (h : Draws c.noted l w (.ok ()) l' w') :
    ∃ answer more,
      Charting.drawings w'.2 = Charting.drawings w.2 ++ (l.planWith geometry, answer) :: more ∧
      more.length = if l.options.isResponsive && l.options != l'.options then 1 else 0 := by
  cases h with
  | kept render rules same overlay =>
      obtain ⟨answer, log, -⟩ := render.adds planned
      rw [render.options] at same
      refine ⟨answer, [], ?_, ?_⟩
      · rw [overlay.undrawn.drawings, rules.undrawn.drawings, log, drawings_append]
        rfl
      · rw [overlay.options, same]
        rfl
  | @redrawn _ _ _ _ _ l₃ _ _ _ _ _ render rules changed compile redraw overlay =>
      obtain ⟨answer, log, -⟩ := render.adds planned
      obtain ⟨geometry', planned'⟩ := compile.isSome_geometry
      obtain ⟨answer', log', -⟩ := redraw.adds planned'
      rw [render.options] at changed
      refine ⟨answer, [(l₃.planWith geometry', answer')], ?_, ?_⟩
      · rw [overlay.undrawn.drawings, log', drawings_append, compile.undrawn.drawings,
          rules.undrawn.drawings, log, drawings_append, List.append_assoc]
        rfl
      · rw [overlay.options, redraw.options, compile.options, if_pos changed]
        rfl

theorem Draws.drawings_of_off {geometry : Geometry} (off : l.options.isResponsive = false)
    (planned : l.geometry = some geometry) (h : Draws c.noted l w (.ok ()) l' w') :
    ∃ answer,
      Charting.drawings w'.2 = Charting.drawings w.2 ++ [(l.planWith geometry, answer)] := by
  obtain ⟨answer, more, drew, count⟩ := h.drawings planned
  rw [off, Bool.false_and, if_neg Bool.false_ne_true, List.length_eq_zero_iff] at count
  exact ⟨answer, count ▸ drew⟩

theorem exec_applyResponsive_of_off (off : l.options.isResponsive = false) (stage : RuleStage)
    (w : σ) :
    (applyResponsive c stage).exec l w =
      ((if stage = .afterRender ∧ l.scene.isNone then .error (.invalidStage "afterRender" "render")
        else .ok 0, l), w) := by
  rcases ran : (applyResponsive c stage).exec l w with ⟨⟨r, l'⟩, w'⟩
  cases AppliesRules.of_exec ran with
  | refused after unseen =>
      rw [if_pos ⟨after, Option.isNone_iff_eq_none.mpr unseen⟩, after]
      rfl
  | gated seen =>
      have timely : ¬(stage = .afterRender ∧ l.scene.isNone = true) := by
        rintro ⟨after, unseen⟩
        have seen := seen after
        simp [Option.isNone_iff_eq_none.mp unseen] at seen
      rw [if_neg timely]
  | applied seen on => simp [off] at on

/--
If the first hook leaves the options alone and they do not ask for the rules, or have automatic
padding, then no rule is ever called, the options stay as they were resolved, an operation that
draws and returns has called the renderer once, and applying the rules does nothing.
-/
theorem Recorded.unresponsive {description : Description}
    (created : create c.plot description = .ok start)
    (idle : ∀ w, ((c.plot.beforeInit.run.run start.options).run w).1.2 = start.options)
    (off : start.options.bool? "responsive" ≠ some true ∨
      start.options.string? "padding" = some "auto")
    (h : Recorded c start steps l) :
    (∀ call ∈ allCalls steps, ¬call.IsRule) ∧
      Options.resolve .baseDefaults c.plot.defaults description.options = .ok l.options ∧
      (∀ (op : Operation) w, op.draws l = true → ((op.perform c).exec l w).1.1 = .ok () →
        (drawings (op.calls c l w)).length = 1) ∧
      ∀ stage w, (applyResponsive c stage).exec l w =
        ((if stage = .afterRender ∧ l.scene.isNone then
            .error (.invalidStage "afterRender" "render")
          else .ok 0, l), w) := by
  have off := Options.isResponsive_eq_false_iff.mpr off
  obtain ⟨same, unruled⟩ := h.untouched off idle
  obtain ⟨-, options, resolved, rfl⟩ := create_eq_ok.mp created
  refine ⟨unruled, by rw [same]; exact resolved, fun op w draws outcome => ?_,
    exec_applyResponsive_of_off (same ▸ off)⟩
  have noted := op.exec_noted c l w
  rw [LayerM.exec_of_outcome outcome] at noted
  obtain ⟨l₁, w₁, prepared, drawn⟩ := (Performs.of_exec noted).drawn draws
  have untouched := (preserves_untouched off idle).prepares prepared ⟨same, by simp⟩
  obtain ⟨geometry, planned⟩ := prepared.isSome_geometry
  obtain ⟨answer, drew⟩ := drawn.drawings_of_off (untouched.1 ▸ off) planned
  have none_before : drawings w₁.2 = [] := prepared.drawings
  rw [drew, none_before]
  rfl

/-! ## A column with automatic padding -/

/-- One column whose options ask for the rules, but not for a padding. -/
def autoPadded : Description where
  options := .obj [("xField", .str "x"), ("yField", .str "y"), ("responsive", .bool true)]
  data := [[("x", .str "a"), ("y", .num (.int 3))]]

def newAutoPadded : Layer where
  viewport := {}
  data := autoPadded.data
  options := ⟨(((OptionTree.obj []).mergeObject .baseDefaults).mergeObject
    Plot.Column.defaults).mergeObject autoPadded.options⟩

def drawnAutoPadded : Layer :=
  ((Operation.render.perform Plot.Column.headless).exec newAutoPadded {}).1.2

def autoPaddedSteps : List Step :=
  [⟨.render, Operation.render.calls Plot.Column.headless newAutoPadded {}⟩]

set_option maxRecDepth 4000 in
theorem create_newAutoPadded : create Plot.Column.headless.plot autoPadded = .ok newAutoPadded :=
  create_eq_ok.mpr ⟨rfl, _, rfl, rfl⟩

theorem recorded_drawnAutoPadded :
    Recorded Plot.Column.headless newAutoPadded autoPaddedSteps drawnAutoPadded :=
  .perform .start (LayerM.exec_of_outcome rfl)

/-- The plot type has three rules, which neither the rendering calls nor narrowing the column. -/
theorem unresponsive_drawnAutoPadded :
    newAutoPadded.options.string? "padding" = some "auto" ∧
      (Plot.Column.rules Layout.Headless).all.length = 3 ∧
      (∀ call ∈ allCalls autoPaddedSteps, ¬call.IsRule) ∧
      drawnAutoPadded.scene.isSome = true ∧
      (drawings (narrowing.calls Plot.Column.headless drawnAutoPadded {})).length = 1 ∧
      (applyResponsive Plot.Column.headless .afterRender).exec drawnAutoPadded {} =
        ((.ok 0, drawnAutoPadded), {}) := by
  have padded : newAutoPadded.options.string? "padding" = some "auto" := by decide +kernel
  have seen : drawnAutoPadded.scene.isSome = true := by decide +kernel
  obtain ⟨unruled, -, once, applied⟩ := recorded_drawnAutoPadded.unresponsive create_newAutoPadded
    (fun _ => rfl) (.inr padded)
  refine ⟨padded, rfl, unruled, seen, once narrowing _ rfl (by decide +kernel), ?_⟩
  rw [applied, if_neg (by simp [Option.isSome_iff_ne_none.mp seen])]

end Layer

end Charting
