import Charting.Proofs.Layer.Scenes

/-!
# The order of calls

The calls that an operation owes are known from its options: those it opens with, those it draws
and those that it leaves. They are made in one order, up to the first that fails, whose failure is
that of the operation.
-/

namespace Charting

/-- Who is called; of a rule, which one. -/
inductive CallKind where
  | beforeInit
  | rule (name : String)
  | scale
  | coordinate
  | geometry
  | animation
  | events
  | render
  | overlay
deriving DecidableEq, Repr

namespace CallKind

/-- The stage that is completed with a call of the kind; rules complete none. -/
def stage? : CallKind → Option Stage
  | .beforeInit => some .beforeInit
  | .rule _ => none
  | .scale => some .scale
  | .coordinate => some .coordinate
  | .geometry => some .addGeometry
  | .animation => some .animation
  | .events => some .parseEvents
  | .render => some .render
  | .overlay => some .afterRender

/-- The calls of a pass of planning. -/
def planning : List CallKind := [.scale, .coordinate, .geometry, .animation]

end CallKind

def Outcome.failure? {α : Type} : Except Failure α → Option Failure
  | .error e => some e
  | .ok _ => none

namespace Call

def kind : Call → CallKind
  | .beforeInit => .beforeInit
  | .rule name => .rule name
  | .scale .. => .scale
  | .coordinate .. => .coordinate
  | .geometry .. => .geometry
  | .animation .. => .animation
  | .events => .events
  | .render .. => .render
  | .overlay => .overlay

/-- How a call failed, given what the first hook answered. The failure of a rule does not count. -/
def failure? (init : Except Failure Unit) : Call → Option Failure
  | .beforeInit => Outcome.failure? init
  | .scale _ answer => Outcome.failure? answer
  | .geometry _ answer => Outcome.failure? answer
  | .render _ answer => Outcome.failure? answer
  | .rule _ | .coordinate .. | .animation .. | .events | .overlay => none

end Call

/-! ## Calls in order -/

section Order

variable {fails : Call → Option Failure} {due due' : List CallKind} {calls calls' : List Call}
  {r : Except Failure Unit} {e : Failure}

/-- The calls that are due are made in their order, up to the first one that fails. -/
inductive Follows (fails : Call → Option Failure) :
    List CallKind → List Call → Except Failure Unit → Prop
  | done : Follows fails [] [] (.ok ())
  | next {call due calls r} (fine : fails call = none) (rest : Follows fails due calls r) :
      Follows fails (call.kind :: due) (call :: calls) r
  | cut {call due e} (failed : fails call = some e) :
      Follows fails (call.kind :: due) [call] (.error e)

theorem Follows.append (h : Follows fails due calls (.ok ())) (h' : Follows fails due' calls' r) :
    Follows fails (due ++ due') (calls ++ calls') r := by
  generalize ok : (.ok () : Except Failure Unit) = first at h
  -- calls that end well were not cut off, so that the others follow where they end
  induction h with
  | done => exact h'
  | next fine _ ih => exact .next fine (ih ok)
  | cut => cases ok

theorem Follows.skip (h : Follows fails due calls (.error e)) (more : List CallKind) :
    Follows fails (due ++ more) calls (.error e) := by
  generalize failed : (.error e : Except Failure Unit) = last at h
  induction h with
  | done => cases failed
  | next fine _ ih => exact .next fine (ih failed)
  | cut broken => exact .cut broken

/-- The outcome is the failure of a call, and only the last call can have failed. -/
theorem Follows.error_iff (h : Follows fails due calls r) :
    r = .error e ↔ ∃ call ∈ calls, fails call = some e := by
  induction h with
  | done => simp
  | next fine _ ih => simp [ih, fine]
  | cut failed => simp [failed]

theorem Follows.kinds (h : Follows fails due calls r) : calls.map Call.kind <+: due := by
  induction h with
  | done => exact List.prefix_rfl
  | next _ _ ih => exact (List.prefix_cons_inj _).mpr ih
  | cut => exact ⟨_, rfl⟩

/-- Nothing is drawn unless a drawing is due. -/
theorem Follows.undrawn (h : Follows fails due calls r) (none_due : .render ∉ due) :
    drawings calls = [] := by
  refine List.filterMap_eq_nil_iff.mpr fun call hc => ?_
  have kind : call.kind ∈ due := h.kinds.subset (List.mem_map_of_mem hc)
  cases call with
  | render => exact absurd kind none_due
  | _ => rfl

/-- The stage that a call completes. -/
def Call.completed? (fails : Call → Option Failure) (call : Call) : Option Stage :=
  if (fails call).isNone then call.kind.stage? else none

/-- The last stage that was completed with one of the calls, or else the one from before. -/
def reached (fails : Call → Option Failure) (calls : List Call) (before : Stage) : Stage :=
  calls.foldl (fun stage call => (call.completed? fails).getD stage) before

/-- Between the one stage and log and the other, the calls that were due were made. -/
def Makes (fails : Call → Option Failure) (due : List CallKind) (stage : Stage) (log : List Call)
    (r : Except Failure Unit) (stage' : Stage) (log' : List Call) : Prop :=
  ∃ calls, log' = log ++ calls ∧ Follows fails due calls r ∧ stage' = reached fails calls stage

end Order

namespace Makes

variable {fails : Call → Option Failure} {due due' : List CallKind} {stage stage₁ stage' : Stage}
  {log log₁ log' : List Call} {r : Except Failure Unit} {e : Failure} {call : Call}

theorem refl : Makes fails [] stage log (.ok ()) stage log := ⟨[], by simp, .done, rfl⟩

theorem trans (h : Makes fails due stage log (.ok ()) stage₁ log₁)
    (h' : Makes fails due' stage₁ log₁ r stage' log') :
    Makes fails (due ++ due') stage log r stage' log' := by
  obtain ⟨calls, rfl, follows, rfl⟩ := h
  obtain ⟨more, rfl, follows', rfl⟩ := h'
  refine ⟨calls ++ more, by rw [List.append_assoc], follows.append follows', ?_⟩
  rw [reached, reached, reached, List.foldl_append]

theorem skip (h : Makes fails due stage log (.error e) stage' log') (more : List CallKind) :
    Makes fails (due ++ more) stage log (.error e) stage' log' := by
  obtain ⟨calls, added, follows, last⟩ := h
  exact ⟨calls, added, follows.skip more, last⟩

theorem grows (h : Makes fails due stage log r stage' log') : log <+: log' := by
  obtain ⟨calls, added, -⟩ := h
  exact ⟨calls, added.symm⟩

theorem of_call (added : log' = log ++ [call]) (fine : fails call = none)
    (last : stage' = call.kind.stage?.getD stage) :
    Makes fails [call.kind] stage log (.ok ()) stage' log' :=
  ⟨[call], added, .next fine .done, by rw [last]; simp [reached, Call.completed?, fine]⟩

theorem of_failure (added : log' = log ++ [call]) (failed : fails call = some e) :
    Makes fails [call.kind] stage log (.error e) stage log' :=
  ⟨[call], added, .cut failed, by simp [reached, Call.completed?, failed]⟩

theorem of_rules {σ : Type} (fine : ∀ name, fails (.rule name) = none) (rules : List (Rule σ))
    (log : List Call) :
    Makes fails (rules.map fun rule => .rule rule.name) stage log (.ok ()) stage
      (log ++ rules.map fun rule => .rule rule.name) := by
  induction rules generalizing log with
  | nil => simpa using refl
  | cons rule rest ih =>
      have called : Makes fails [.rule rule.name] stage log (.ok ()) stage
          (log ++ [.rule rule.name]) := of_call rfl (fine _) rfl
      rw [List.map_cons, List.map_cons, List.append_cons]
      exact called.trans (ih _)

end Makes

/-! ## What is due -/

section Due

variable {σ : Type} (c : Collaborators σ)

/-- The calls to the rules of a stage, in the order in which they were registered. -/
def Collaborators.rulesDue (stage : RuleStage) (options : Options) : List CallKind :=
  if options.isResponsive then (c.plot.rules.ofStage stage).map fun rule => .rule rule.name else []

/-- The calls of a drawing. The chart is planned and drawn once more if the rules change options. -/
def Collaborators.drawingDue (drawn left : Options) : List CallKind :=
  [.render] ++ c.rulesDue .afterRender drawn ++
    (if drawn.isResponsive && drawn != left then CallKind.planning ++ [.render] else []) ++
    [.overlay]

/-- What the plot type answers before anything is planned, and what it makes of the options. -/
def Collaborators.opening (l : Layer) (w : σ) : Except Failure Unit × Options :=
  ((c.plot.beforeInit.run.run l.options).run w).1

namespace Operation

/-- The operation is not turned away, and there is something to do. -/
def starts (l : Layer) : Operation → Bool
  | .render => true
  | .resize viewport => viewport.isValid && l.rendered
  | .changeData _ => l.rendered
  | .applyResponsive stage => stage == .preRender || l.scene.isSome

/-- The options that the first rules find. -/
def opened (l : Layer) (w : σ) : Operation → Options
  | .render => (c.opening l w).2
  | _ => l.options

/-- The calls of an operation before anything is drawn. -/
def preparing (opened : Options) : Operation → List CallKind
  | .render => [.beforeInit] ++ c.rulesDue .preRender opened ++ CallKind.planning ++ [.events]
  | .resize _ => c.rulesDue .preRender opened ++ CallKind.planning
  | .changeData _ => CallKind.planning
  | .applyResponsive stage => c.rulesDue stage opened

/-- The calls of an operation that opens with these options, draws these and leaves those. -/
def due (opened drawn left : Options) (op : Operation) : List CallKind :=
  op.preparing c opened ++
    match op with
    | .applyResponsive _ => []
    | _ => c.drawingDue drawn left

theorem undrawn_preparing (op : Operation) (opened : Options) :
    .render ∉ op.preparing c opened := by
  have rules (stage : RuleStage) : .render ∉ c.rulesDue stage opened := by
    rw [Collaborators.rulesDue]
    split <;> simp
  cases op <;> simp [preparing, rules, CallKind.planning]

end Operation

/-- The options that were drawn first, or else those given. -/
def firstDrawn (calls : List Call) (otherwise : Options) : Options :=
  ((drawings calls).head?.map (·.1.options)).getD otherwise

end Due

namespace Layer

open Call (failure?)

variable {σ : Type} {c : Collaborators σ} {op : Operation} {l l' : Layer}
  {w w' : σ × List Call} {init : Except Failure Unit}

theorem AppliesRules.makes {stage count}
    (h : AppliesRules c.noted stage l w (.ok count) l' w') :
    Makes (failure? init) (c.rulesDue stage l.options) l.stage w.2 (.ok ()) l'.stage w'.2 := by
  cases h with
  | gated seen off =>
      rw [Collaborators.rulesDue, off]
      exact .refl
  | applied seen on rules =>
      have ran := Logs.rules c.plot.rules stage l.ruleContext l.options w.1 w.2
      have log := congrArg (·.2.2) (rules.symm.trans ran)
      rw [Collaborators.rulesDue, if_pos on]
      exact log ▸ .of_rules (fun _ => rfl) (c.plot.rules.ofStage stage) w.2

theorem Compiles.makes {r} (h : Compiles c.noted l w r l' w') :
    Makes (failure? init) CallKind.planning l.stage w.2 r l'.stage w'.2 := by
  cases h with
  | noScales scale =>
      obtain ⟨-, log⟩ := run_noting (fun answer => [.scale l.options answer]) _ scale
      exact (Makes.of_failure log rfl).skip [.coordinate, .geometry, .animation]
  | noGeometry scale coordinates bind =>
      obtain ⟨-, log₁⟩ := run_noting (fun answer => [.scale l.options answer]) _ scale
      obtain ⟨-, log₂⟩ := run_noting (fun answer => [.coordinate l.options answer]) _ coordinates
      obtain ⟨-, log₃⟩ := run_noting (fun answer => [.geometry l.options answer]) _ bind
      exact ((Makes.of_call log₁ rfl rfl).trans ((Makes.of_call log₂ rfl rfl).trans
        (.of_failure log₃ rfl))).skip [.animation]
  | @planned _ _ made _ _ _ _ _ scale coordinates bind animate =>
      obtain ⟨-, log₁⟩ := run_noting (fun answer => [.scale l.options answer]) _ scale
      obtain ⟨-, log₂⟩ := run_noting (fun answer => [.coordinate l.options answer]) _ coordinates
      obtain ⟨-, log₃⟩ := run_noting (fun answer => [.geometry l.options answer]) _ bind
      obtain ⟨-, log₄⟩ := run_noting (fun answer => [.animation l.options made answer]) _ animate
      exact (Makes.of_call log₁ rfl rfl).trans ((Makes.of_call log₂ rfl rfl).trans
        ((Makes.of_call log₃ rfl rfl).trans (.of_call log₄ rfl rfl)))

theorem Renders.makes {r geometry} (h : Renders c.noted l w r l' w')
    (planned : l.geometry = some geometry) :
    Makes (failure? init) [.render] l.stage w.2 r l'.stage w'.2 := by
  cases h with
  | unplanned bare => simp [bare] at planned
  | @failed geometry _ _ _ answer =>
      obtain ⟨-, log⟩ := run_noting (fun answer => [.render (l.planWith geometry) answer])
        (c.renderer _).run answer
      exact .of_failure log rfl
  | @drawn geometry _ _ _ answer =>
      obtain ⟨-, log⟩ := run_noting (fun answer => [.render (l.planWith geometry) answer])
        (c.renderer _).run answer
      exact .of_call log rfl rfl

theorem Overlays.makes (h : Overlays c.noted l w l' w') (seen : l.scene.isSome = true) :
    Makes (failure? init) [.overlay] l.stage w.2 (.ok ()) .afterRender w'.2 := by
  cases h with
  | bare unseen => simp [unseen] at seen
  | laid seen attach =>
      obtain ⟨-, log⟩ := run_noting (fun _ => [.overlay]) (c.plot.attachOverlay _ _) attach
      exact .of_call log rfl rfl

theorem Draws.makes {r geometry} (h : Draws c.noted l w r l' w')
    (planned : l.geometry = some geometry) :
    Makes (failure? init) (c.drawingDue l.options l'.options) l.stage w.2 r l'.stage w'.2 := by
  -- every exit but the first goes through a scene and its rules
  have looks {l₁ w₁ count l₂ w₂} (render : Renders c.noted l w (.ok ()) l₁ w₁)
      (rules : AppliesRules c.noted .afterRender l₁ w₁ (.ok count) l₂ w₂) :
      Makes (failure? init) ([.render] ++ c.rulesDue .afterRender l.options) l.stage w.2 (.ok ())
        l₂.stage w₂.2 :=
    render.options ▸ (render.makes planned).trans rules.makes
  rw [Collaborators.drawingDue]
  cases h with
  | undrawn render =>
      simp only [List.append_assoc]
      exact (render.makes planned).skip _
  | kept render rules same overlay =>
      rw [render.options] at same
      rw [overlay.options, same]
      exact ((looks render rules).trans .refl).trans (overlay.makes rules.seen_after)
  | unplanned render rules changed compile =>
      rw [render.options] at changed
      rw [compile.options, if_pos changed]
      exact ((looks render rules).trans (compile.makes.skip _)).skip _
  | lost render rules changed compile redraw =>
      obtain ⟨geometry', planned'⟩ := compile.isSome_geometry
      rw [render.options] at changed
      rw [redraw.options, compile.options, if_pos changed]
      exact ((looks render rules).trans (compile.makes.trans (redraw.makes planned'))).skip _
  | redrawn render rules changed compile redraw overlay =>
      obtain ⟨geometry', planned'⟩ := compile.isSome_geometry
      rw [render.options] at changed
      rw [overlay.options, redraw.options, compile.options, if_pos changed]
      exact ((looks render rules).trans (compile.makes.trans (redraw.makes planned'))).trans
        (overlay.makes redraw.scene_isSome)

/-- What is drawn first is drawn with the options of the layer. -/
theorem Draws.first {r geometry} (h : Draws c.noted l w r l' w')
    (planned : l.geometry = some geometry) :
    ∃ answer, w.2 ++ [.render (l.planWith geometry) answer] <+: w'.2 := by
  have draws {r l₁ w₁ due r' stage} (render : Renders c.noted l w r l₁ w₁)
      (rest : Makes (failure? (.ok ())) due l₁.stage w₁.2 r' stage w'.2) :
      ∃ answer, w.2 ++ [.render (l.planWith geometry) answer] <+: w'.2 := by
    obtain ⟨answer, log, -⟩ := render.adds planned
    exact ⟨answer, log ▸ rest.grows⟩
  cases h with
  | undrawn render => exact draws render .refl
  | kept render rules same overlay =>
      exact draws render (rules.makes.trans (overlay.makes rules.seen_after))
  | unplanned render rules changed compile => exact draws render (rules.makes.trans compile.makes)
  | lost render rules changed compile redraw =>
      obtain ⟨geometry', planned'⟩ := compile.isSome_geometry
      exact draws render (rules.makes.trans (compile.makes.trans (redraw.makes planned')))
  | redrawn render rules changed compile redraw overlay =>
      obtain ⟨geometry', planned'⟩ := compile.isSome_geometry
      exact draws render (rules.makes.trans (compile.makes.trans
        ((redraw.makes planned').trans (overlay.makes redraw.scene_isSome))))

/-! ## Operations -/

theorem makes_init {r options stage}
    (h : (c.noted.plot.beforeInit.run.run l.options).run w = ((r, options), w')) :
    c.opening l w.1 = (r, options) ∧
      (r = .ok () → Makes (failure? r) [.beforeInit] stage w.2 (.ok ()) .beforeInit w'.2) ∧
      ∀ e, r = .error e → Makes (failure? r) [.beforeInit] stage w.2 (.error e) stage w'.2 := by
  obtain ⟨answer, log⟩ := run_noting (fun _ => [.beforeInit]) _ h
  refine ⟨congrArg Prod.fst answer, ?_, ?_⟩
  · rintro rfl
    exact .of_call log rfl rfl
  · rintro e rfl
    exact .of_failure log rfl

theorem Prepares.makes (h : Prepares c.noted op l w l' w') :
    Makes (failure? (c.opening l w.1).1) (op.preparing c (op.opened c l w.1)) l.stage w.2 (.ok ())
      l'.stage w'.2 := by
  cases h with
  | render init rules compile events =>
      obtain ⟨opening, called, -⟩ := makes_init init
      obtain ⟨-, log⟩ := run_noting (fun _ => [.events]) _ events
      rw [Operation.opened, opening]
      exact (((called rfl).trans rules.makes).trans compile.makes).trans (.of_call log rfl rfl)
  | resize valid rendered rules compile => exact rules.makes.trans compile.makes
  | changeData rendered compile => exact compile.makes

/-- An operation that stops has made some of the calls before a drawing, or has made them all. -/
theorem Stops.makes {r} (h : Stops c.noted op l w r l' w') (starts : op.starts l = true) :
    Makes (failure? (c.opening l w.1).1) (op.preparing c (op.opened c l w.1)) l.stage w.2 r
      l'.stage w'.2 := by
  cases h with
  | uninitialized init =>
      obtain ⟨opening, -, failed⟩ := makes_init init
      rw [Operation.opened, opening, Operation.preparing]
      simp only [List.append_assoc]
      exact (failed _ rfl).skip _
  | unplanned init rules compile =>
      obtain ⟨opening, called, -⟩ := makes_init init
      rw [Operation.opened, opening]
      exact (((called rfl).trans rules.makes).trans compile.makes).skip _
  | empty invalid => simp [Operation.starts, invalid] at starts
  | early valid unrendered => simp [Operation.starts, unrendered] at starts
  | unresized valid rendered rules compile => exact rules.makes.trans compile.makes
  | stored unrendered => simp [Operation.starts, unrendered] at starts
  | unfed rendered compile => exact compile.makes
  | refused rules =>
      cases rules with
      | refused after unseen => simp [Operation.starts, after, unseen] at starts
  | ruled rules => exact rules.makes

theorem Performs.makes {r} {w : σ} (h : Performs c.noted op l (w, []) r l' w')
    (starts : op.starts l = true) :
    let opened := op.opened c l w
    Makes (failure? (c.opening l w).1) (op.due c opened (firstDrawn w'.2 opened) l'.options) l.stage
      [] r l'.stage w'.2 := by
  intro opened
  rcases h with stops | ⟨l₁, w₁, prepared, drawn⟩
  · have made := stops.makes starts
    cases r with
    | error e => exact made.skip _
    | ok _ =>
        cases stops with
        | stored unrendered => simp [Operation.starts, unrendered] at starts
        | ruled rules => exact made.trans .refl
  · obtain ⟨geometry, planned⟩ := prepared.isSome_geometry
    -- nothing was drawn while the operation prepared, so the first drawing is the one of `draw`
    have first : firstDrawn w'.2 opened = l₁.options := by
      obtain ⟨before, log, follows, -⟩ := prepared.makes
      obtain ⟨answer, after, log'⟩ := drawn.first planned
      rw [log, List.nil_append] at log'
      rw [firstDrawn, ← log', drawings_append, drawings_append,
        follows.undrawn (op.undrawn_preparing c _)]
      rfl
    rw [first]
    have made := prepared.makes.trans (drawn.makes planned)
    cases prepared <;> exact made

/--
An operation that starts makes the calls that are due, in their order and up to the first that
fails. It fails as that call did, and its stage is that of the last call that did not fail.
-/
theorem calls_in_order {σ : Type} {c : Collaborators σ} {op : Operation} {l l' : Layer} {w w' : σ}
    {r : Except Failure Unit} (starts : op.starts l = true)
    (run : (op.perform c).exec l w = ((r, l'), w')) :
    let calls := op.calls c l w
    let opened := op.opened c l w
    let fails := failure? (c.opening l w).1
    Follows fails (op.due c opened (firstDrawn calls opened) l'.options) calls r ∧
      (∀ e, r = .error e ↔ ∃ call ∈ calls, fails call = some e) ∧
      l'.stage = reached fails calls l.stage := by
  have noted := op.exec_noted c l w
  rw [run] at noted
  have performs : Performs c.noted op l (w, []) r l' (w', op.calls c l w) := .of_exec noted
  obtain ⟨calls, log, follows, last⟩ := performs.makes starts
  rw [List.nil_append] at log
  subst log
  exact ⟨follows, fun _ => follows.error_iff, last⟩

/-- The rules for the drawn column ask for a label, which is then planned and drawn. -/
example : (Operation.render.calls Plot.Column.headless Plot.Column.newUnlabelled {}).map Call.kind =
    [.beforeInit, .rule "yAxisTickCount"] ++ CallKind.planning ++
      [.events, .render, .rule "xAxisLabelDensity", .rule "columnLabelFit"] ++
      CallKind.planning ++ [.render, .overlay] := by
  decide +kernel

/-- Without labels to be had, the second pass ends with the geometry. -/
theorem calls_in_order_halfDrawn :
    Operation.render.starts Plot.Column.newUnlabelled = true ∧
      Follows (failure? (.ok ()))
        ([.beforeInit, .rule "yAxisTickCount"] ++ CallKind.planning ++
          [.events, .render, .rule "xAxisLabelDensity", .rule "columnLabelFit"] ++
          CallKind.planning ++ [.render, .overlay])
        (Operation.render.calls labelless Plot.Column.newUnlabelled {})
        (.error (.unsupportedComponent "label")) ∧
      halfDrawn.stage = .coordinate := by
  have ended : (Operation.render.perform labelless).exec Plot.Column.newUnlabelled {} =
      ((.error (.unsupportedComponent "label"), halfDrawn), _) :=
    LayerM.exec_of_outcome (by decide +kernel)
  obtain ⟨follows, -, -⟩ := calls_in_order rfl ended
  have opening : (labelless.opening Plot.Column.newUnlabelled {}).1 = .ok () := rfl
  rw [opening] at follows
  refine ⟨rfl, ?_, by decide +kernel⟩
  convert follows using 1
  decide +kernel

end Layer

end Charting
