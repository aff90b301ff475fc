import Charting.Proofs.Layer.Operations

/-!
# The calls of an operation

Collaborators can be made to note each call of theirs in a log beside their world. Nothing else
changes: an operation with them runs as it does without.
-/

namespace Charting

/-- A call to a collaborator, with what statements about runs need of it. -/
inductive Call where
  | beforeInit
  | rule (name : String)
  | scale (options : Options) (answer : Except Failure ScaleSet)
  | coordinate (options : Options) (answer : Coordinate)
  | geometry (options : Options) (answer : Except Failure Geometry)
  | animation (options : Options) (made answer : Geometry)
  | events
  | render (plan : Plan) (answer : Except Failure Scene)
  | overlay

namespace Call

/-- The plan that was drawn, and what came of it. -/
def drawing? : Call → Option (Plan × Except Failure Scene)
  | .render plan answer => some (plan, answer)
  | _ => none

def IsRule (call : Call) : Prop := ∃ name, call = .rule name

end Call

/-- The drawings among some calls, in their order. -/
def drawings (calls : List Call) : List (Plan × Except Failure Scene) :=
  calls.filterMap Call.drawing?

theorem drawings_append (calls more : List Call) :
    drawings (calls ++ more) = drawings calls ++ drawings more :=
  List.filterMap_append

/-! ## Noting calls -/

section Noting

variable {σ α : Type}

/-- Work in a world, done beside a log, which is then extended by calls that may hold the result. -/
def noting (calls : α → List Call) (x : StateM σ α) : StateM (σ × List Call) α := fun (w, log) =>
  let (a, w') := x.run w
  (a, (w', log ++ calls a))

theorem run_noting (calls : α → List Call) (x : StateM σ α) {w w' : σ × List Call} {a : α}
    (h : (noting calls x).run w = (a, w')) : x.run w.1 = (a, w'.1) ∧ w'.2 = w.2 ++ calls a := by
  rcases ran : x.run w.1 with ⟨b, u⟩
  have noted : (noting calls x).run w =
      ((x.run w.1).1, ((x.run w.1).2, w.2 ++ calls (x.run w.1).1)) := rfl
  rw [noted, ran] at h
  cases h
  exact ⟨rfl, rfl⟩

/-- An attempt, noted with its answer. -/
def Attempt.noting (calls : Except Failure α → List Call) (x : Attempt σ α) :
    Attempt (σ × List Call) α :=
  ExceptT.mk (Charting.noting calls x.run)

def OptionsM.noting (call : Call) (x : OptionsM σ α) : OptionsM (σ × List Call) α :=
  ExceptT.mk fun options => Charting.noting (fun _ => [call]) (x.run.run options)

def Rule.noted (rule : Rule σ) : Rule (σ × List Call) where
  name := rule.name
  stage := rule.stage
  method context := (rule.method context).noting (.rule rule.name)

/-- Factories are not noted: their calls belong to binding the geometry. -/
def Factories.noted (factories : Factories σ) : Factories (σ × List Call) where
  geometry kind variant request := (factories.geometry kind variant request).noting fun _ => []
  component kind descriptor := (factories.component kind descriptor).noting fun _ => []

/-- The hooks of a plot type with these factories, each of them noted. -/
def PlotType.noted (plot : PlotType σ) (factories : Factories σ) :
    PlotType (σ × List Call) where
  name := plot.name
  names := plot.names
  variant := plot.variant
  labelType := plot.labelType
  overlayEnabled options := noting (fun _ => []) (plot.overlayEnabled options)
  adjust options geometry := (plot.adjust options geometry).noting fun _ => []
  defaults := plot.defaults
  eventTable := noting (fun _ => [.events]) plot.eventTable
  rules := ⟨plot.rules.all.map Rule.noted⟩
  beforeInit := plot.beforeInit.noting .beforeInit
  scale options := (plot.scale options).noting fun answer => [.scale options answer]
  coordinate options := noting (fun answer => [.coordinate options answer]) (plot.coordinate options)
  addGeometry _ options :=
    (plot.addGeometry factories options).noting fun answer => [.geometry options answer]
  animation options made :=
    noting (fun answer => [.animation options made answer]) (plot.animation options made)
  attachOverlay scene options := noting (fun _ => [.overlay]) (plot.attachOverlay scene options)

/-- The same collaborators with a log of their calls. -/
def Collaborators.noted (c : Collaborators σ) : Collaborators (σ × List Call) where
  plot := c.plot.noted c.factories
  factories := c.factories.noted
  renderer plan := (c.renderer plan).noting fun answer => [.render plan answer]

end Noting

def Operation.calls {σ : Type} (c : Collaborators σ) (op : Operation) (l : Layer) (w : σ) :
    List Call :=
  ((op.perform c.noted).exec l (w, [])).2.2

/-! ## The log changes nothing -/

section Shadowing

variable {σ α β : Type} {P : Call → Prop}

/--
Two works do the same to the world, and the second one extends the log beside it by calls of the
given kind.
-/
def Shadows (P : Call → Prop) (x : StateM σ α) (y : StateM (σ × List Call) α) : Prop :=
  ∀ w log, ∃ calls, (∀ call ∈ calls, P call) ∧
    y.run (w, log) = ((x.run w).1, ((x.run w).2, log ++ calls))

theorem Shadows.mono {Q : Call → Prop} {x : StateM σ α} {y : StateM (σ × List Call) α}
    (h : Shadows P x y) (weaker : ∀ call, P call → Q call) : Shadows Q x y := by
  intro w log
  obtain ⟨calls, kind, hy⟩ := h w log
  exact ⟨calls, fun call hc => weaker call (kind call hc), hy⟩

theorem shadows_noting (calls : α → List Call) (x : StateM σ α) :
    Shadows (fun call => ∃ a, call ∈ calls a) x (noting calls x) :=
  fun w _ => ⟨calls (x.run w).1, fun _ hc => ⟨_, hc⟩, rfl⟩

theorem shadows_pure (a : α) : Shadows P (pure a : StateM σ α) (pure a) := fun w log =>
  ⟨[], by simp, by rw [List.append_nil]; rfl⟩

theorem Shadows.bind {x : StateM σ α} {y : StateM (σ × List Call) α} {f : α → StateM σ β}
    {g : α → StateM (σ × List Call) β} (first : Shadows P x y)
    (rest : ∀ a, Shadows P (f a) (g a)) : Shadows P (x >>= f) (y >>= g) := by
  intro w log
  obtain ⟨calls, kind, hy⟩ := first w log
  obtain ⟨more, kind', hg⟩ := rest (x.run w).1 (x.run w).2 (log ++ calls)
  refine ⟨calls ++ more, ?_, ?_⟩
  · intro call hc
    rcases List.mem_append.mp hc with hc | hc
    · exact kind call hc
    · exact kind' call hc
  · have left : (x >>= f).run w = (f (x.run w).1).run (x.run w).2 := rfl
    have right : (y >>= g).run (w, log) = (g (y.run (w, log)).1).run (y.run (w, log)).2 := rfl
    rw [left, right, hy, ← List.append_assoc]
    exact hg

/-- Two works do the same to the world, and the second one extends the log by these calls. -/
def Logs (calls : List Call) (x : StateM σ α) (y : StateM (σ × List Call) α) : Prop :=
  ∀ w log, y.run (w, log) = ((x.run w).1, ((x.run w).2, log ++ calls))

theorem Logs.shadows {calls : List Call} {x : StateM σ α} {y : StateM (σ × List Call) α}
    (h : Logs calls x y) (kind : ∀ call ∈ calls, P call) : Shadows P x y :=
  fun w log => ⟨calls, kind, h w log⟩

theorem logs_pure (a : α) : Logs [] (pure a : StateM σ α) (pure a) := fun w log => by
  rw [List.append_nil]; rfl

theorem Logs.bind {calls more : List Call} {x : StateM σ α} {y : StateM (σ × List Call) α}
    {f : α → StateM σ β} {g : α → StateM (σ × List Call) β} (first : Logs calls x y)
    (rest : ∀ a, Logs more (f a) (g a)) : Logs (calls ++ more) (x >>= f) (y >>= g) := by
  intro w log
  have left : (x >>= f).run w = (f (x.run w).1).run (x.run w).2 := rfl
  have right : (y >>= g).run (w, log) = (g (y.run (w, log)).1).run (y.run (w, log)).2 := rfl
  rw [left, right, first w log, ← List.append_assoc]
  exact rest _ _ _

theorem Logs.attempt (rule : Rule σ) (context : RuleContext) (options : Options) :
    Logs [.rule rule.name] ((rule.attempt context).run options)
      ((rule.noted.attempt context).run options) := by
  simp only [Rule.attempt, StateT.run_bind, StateT.run_get, pure_bind]
  have noted : Logs [.rule rule.name] ((rule.method context).run.run options)
      ((rule.noted.method context).run.run options) := fun _ _ => rfl
  refine noted.bind fun (outcome, after) => ?_
  cases outcome with
  | error e => exact logs_pure (false, options)
  | ok _ => exact logs_pure (true, after)

/-- The rules of a stage are called in their order, whatever becomes of each. -/
theorem Logs.rules (rules : RuleSet σ) (stage : RuleStage) (context : RuleContext)
    (options : Options) :
    Logs ((rules.ofStage stage).map fun rule => .rule rule.name)
      ((rules.apply stage context).run options)
      ((RuleSet.apply ⟨rules.all.map Rule.noted⟩ stage context).run options) := by
  have same : RuleSet.ofStage ⟨rules.all.map Rule.noted⟩ stage =
      (rules.ofStage stage).map Rule.noted := by
    simp [RuleSet.ofStage, List.filter_map, Function.comp_def, Rule.noted]
  rw [RuleSet.apply, RuleSet.apply, same]
  generalize 0 = completed
  induction rules.ofStage stage generalizing completed options with
  | nil => exact logs_pure _
  | cons rule rest ih =>
      simp only [List.map_cons, List.foldlM_cons, StateT.run_bind, bind_assoc]
      exact (Logs.attempt rule context options).bind fun (completed, after) => ih after _

theorem Shadows.rules (rules : RuleSet σ) (stage : RuleStage) (context : RuleContext)
    (options : Options) :
    Shadows Call.IsRule ((rules.apply stage context).run options)
      ((RuleSet.apply ⟨rules.all.map Rule.noted⟩ stage context).run options) :=
  (Logs.rules rules stage context options).shadows (by simp [Call.IsRule])

end Shadowing

namespace LayerM

variable {σ α β : Type} {P : Call → Prop}

/-- Two works on a layer leave the same, and the second one only extends the log of calls. -/
def Mirrors (x : LayerM σ α) (y : LayerM (σ × List Call) α) : Prop :=
  ∀ l w log, ∃ calls, y.exec l (w, log) = ((x.exec l w).1, ((x.exec l w).2, log ++ calls))

theorem mirrors_pure (a : α) : Mirrors (pure a : LayerM σ α) (pure a) := fun l w log =>
  ⟨[], by simp only [exec_pure, List.append_nil]⟩

theorem mirrors_throw (e : Failure) : Mirrors (throw e : LayerM σ α) (throw e) := fun l w log =>
  ⟨[], by simp only [exec_throw, List.append_nil]⟩

theorem mirrors_throw_bind (e : Failure) (f : α → LayerM σ β)
    (g : α → LayerM (σ × List Call) β) : Mirrors (throw e >>= f) (throw e >>= g) := fun l w log =>
  ⟨[], by simp only [exec_throw_bind, List.append_nil]⟩

theorem mirrors_modify (f : Layer → Layer) : Mirrors (modify f : LayerM σ Unit) (modify f) :=
  fun l w log => ⟨[], by simp only [exec_modify, List.append_nil]⟩

theorem Mirrors.bind {x : LayerM σ α} {y : LayerM (σ × List Call) α} {f : α → LayerM σ β}
    {g : α → LayerM (σ × List Call) β} (first : Mirrors x y) (rest : ∀ a, Mirrors (f a) (g a)) :
    Mirrors (x >>= f) (y >>= g) := by
  intro l w log
  obtain ⟨calls, hy⟩ := first l w log
  rw [exec_bind, exec_bind, hy]
  rcases x.exec l w with ⟨⟨e | a, l₁⟩, w₁⟩
  · exact ⟨calls, rfl⟩
  · obtain ⟨more, hg⟩ := rest a l₁ w₁ (log ++ calls)
    exact ⟨calls ++ more, by simp only [hg, List.append_assoc]⟩

theorem Mirrors.get_bind {f : Layer → LayerM σ β} {g : Layer → LayerM (σ × List Call) β}
    (rest : ∀ l, Mirrors (f l) (g l)) : Mirrors (get >>= f) (get >>= g) := by
  intro l w log
  rw [exec_get_bind, exec_get_bind]
  exact rest l l w log

theorem Mirrors.tryCatch {x : LayerM σ α} {y : LayerM (σ × List Call) α}
    {f : Failure → LayerM σ α} {g : Failure → LayerM (σ × List Call) α} (first : Mirrors x y)
    (rest : ∀ e, Mirrors (f e) (g e)) :
    Mirrors (MonadExcept.tryCatch x f) (MonadExcept.tryCatch y g) := by
  intro l w log
  obtain ⟨calls, hy⟩ := first l w log
  rw [exec_tryCatch, exec_tryCatch, hy]
  rcases x.exec l w with ⟨⟨e | a, l₁⟩, w₁⟩
  · obtain ⟨more, hg⟩ := rest e l₁ w₁ (log ++ calls)
    exact ⟨calls ++ more, by simp only [hg, List.append_assoc]⟩
  · exact ⟨calls, rfl⟩

theorem Mirrors.call {x : Attempt σ α} {y : Attempt (σ × List Call) α}
    (same : Shadows P x.run y.run) : Mirrors (LayerM.call x) (LayerM.call y) := by
  intro l w log
  obtain ⟨calls, -, hy⟩ := same w log
  have called : ∀ {τ : Type} (z : Attempt τ α) (u : τ),
      (LayerM.call z).exec l u = (((z.run.run u).1, l), (z.run.run u).2) := fun _ _ => rfl
  exact ⟨calls, by rw [called, called, hy]⟩

theorem Mirrors.ask {x : StateM σ α} {y : StateM (σ × List Call) α} (same : Shadows P x y) :
    Mirrors (LayerM.call (liftM x : Attempt σ α))
      (LayerM.call (liftM y : Attempt (σ × List Call) α)) :=
  .call (Shadows.bind same fun a => shadows_pure (Except.ok a))

theorem Mirrors.onOptions {x : OptionsM σ α} {y : OptionsM (σ × List Call) α}
    (same : ∀ options, Shadows P (x.run.run options) (y.run.run options)) :
    Mirrors (LayerM.onOptions x) (LayerM.onOptions y) := by
  intro l w log
  obtain ⟨calls, -, hy⟩ := same l.options w log
  exact ⟨calls, by simp only [exec_onOptions, hy]⟩

end LayerM

namespace Layer

open LayerM

variable {σ : Type} (c : Collaborators σ)

theorem mirrors_enter (stage : Stage) :
    Mirrors (enter stage : LayerM σ Unit) (enter stage) := mirrors_modify _

theorem mirrors_applyResponsive (stage : RuleStage) :
    Mirrors (applyResponsive c stage) (applyResponsive c.noted stage) := by
  refine .get_bind fun l => ?_
  split
  · exact mirrors_throw _
  · split
    · refine .onOptions (P := Call.IsRule) fun options => ?_
      exact (Shadows.rules c.plot.rules stage l.ruleContext options).bind
        (fun counted => shadows_pure (Except.ok counted.1, counted.2))
    · exact mirrors_pure 0

theorem mirrors_compile : Mirrors (compile c) (compile c.noted) := by
  refine .get_bind fun l => ?_
  refine .bind (.call (shadows_noting (fun answer => [.scale l.options answer])
    (c.plot.scale l.options).run)) fun scales => ?_
  refine .bind (mirrors_modify _) fun _ => .bind (mirrors_enter _) fun _ => ?_
  refine .bind (.ask (shadows_noting (fun answer => [.coordinate l.options answer])
    (c.plot.coordinate l.options))) fun coordinate => ?_
  refine .bind (mirrors_modify _) fun _ => .bind (mirrors_enter _) fun _ => ?_
  refine .bind (.call (shadows_noting (fun answer => [.geometry l.options answer])
    (c.plot.addGeometry c.factories l.options).run)) fun made => ?_
  refine .bind (mirrors_enter _) fun _ => ?_
  refine .bind (.ask (shadows_noting (fun answer => [.animation l.options made answer])
    (c.plot.animation l.options made))) fun geometry => ?_
  exact .bind (mirrors_modify _) fun _ => mirrors_enter _

theorem mirrors_bindEvents : Mirrors (bindEvents c) (bindEvents c.noted) := by
  refine .bind (.ask (shadows_noting (fun _ => [.events]) c.plot.eventTable)) fun table => ?_
  exact .bind (mirrors_modify _) fun _ => mirrors_enter _

theorem mirrors_renderScene : Mirrors (renderScene c) (renderScene c.noted) := by
  refine .get_bind fun l => ?_
  split
  · exact mirrors_throw _
  · rename_i geometry _
    refine .tryCatch ?_ fun e => .bind (mirrors_modify _) fun _ => mirrors_throw e
    let plan := l.planWith geometry
    refine .bind (.call (shadows_noting (fun answer => [.render plan answer])
      (c.renderer plan).run)) fun scene => ?_
    exact .bind (mirrors_modify _) fun _ => mirrors_enter _

theorem mirrors_attachOverlay : Mirrors (attachOverlay c) (attachOverlay c.noted) := by
  refine .get_bind fun l => ?_
  split
  · rename_i scene _
    refine .bind (.ask (shadows_noting (fun _ => [.overlay])
      (c.plot.attachOverlay scene l.options))) fun overlay => mirrors_modify _
  · exact .bind (mirrors_pure none) fun overlay => mirrors_modify _

theorem mirrors_draw : Mirrors (draw c) (draw c.noted) := by
  refine .bind (mirrors_renderScene c) fun _ => .get_bind fun before => ?_
  refine .bind (mirrors_applyResponsive c .afterRender) fun _ => .get_bind fun after => ?_
  have last := (mirrors_attachOverlay c).bind fun _ => mirrors_enter .afterRender
  split
  · exact .bind (mirrors_compile c) fun _ => .bind (mirrors_renderScene c) fun _ => last
  · exact last

theorem mirrors_render : Mirrors (render c) (render c.noted) := by
  refine .bind (.onOptions fun options => shadows_noting (fun _ => [.beforeInit]) _) fun _ => ?_
  refine .bind (mirrors_enter _) fun _ => .bind (mirrors_applyResponsive c .preRender) fun _ => ?_
  refine .bind (mirrors_compile c) fun _ => .bind (mirrors_bindEvents c) fun _ => ?_
  exact .bind (mirrors_modify _) fun _ => mirrors_draw c

theorem mirrors_resize (viewport : Viewport) :
    Mirrors (resize c viewport) (resize c.noted viewport) := by
  rw [resize, resize]
  split
  · exact mirrors_throw_bind _ _ _
  · refine .get_bind fun l => ?_
    dsimp only
    split
    · exact mirrors_throw_bind _ _ _
    · refine .bind (mirrors_modify _) fun _ => ?_
      refine .bind (mirrors_applyResponsive c .preRender) fun _ => ?_
      exact .bind (mirrors_compile c) fun _ => mirrors_draw c

theorem mirrors_changeData (data : List Datum) :
    Mirrors (changeData c data) (changeData c.noted data) := by
  refine .bind (mirrors_modify _) fun _ => .get_bind fun l => ?_
  split
  · exact .bind (mirrors_compile c) fun _ => mirrors_draw c
  · exact mirrors_pure ()

end Layer

/-- An operation runs with a log as it runs without. -/
theorem Operation.mirrors_perform {σ : Type} (c : Collaborators σ) (op : Operation) :
    LayerM.Mirrors (op.perform c) (op.perform c.noted) := by
  cases op with
  | render => exact Layer.mirrors_render c
  | resize viewport => exact Layer.mirrors_resize c viewport
  | changeData data => exact Layer.mirrors_changeData c data
  | applyResponsive stage =>
      exact .bind (Layer.mirrors_applyResponsive c stage) fun _ => LayerM.mirrors_pure ()

theorem Operation.exec_noted {σ : Type} (c : Collaborators σ) (op : Operation) (l : Layer) (w : σ) :
    (op.perform c.noted).exec l (w, []) =
      (((op.perform c).exec l w).1, (((op.perform c).exec l w).2, op.calls c l w)) := by
  obtain ⟨calls, run⟩ := op.mirrors_perform c l w []
  have noted : op.calls c l w = calls := by rw [Operation.calls, run]; rfl
  rw [run, noted, List.nil_append]

end Charting
