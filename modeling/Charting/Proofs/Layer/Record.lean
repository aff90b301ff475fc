import Charting.Proofs.Layer.Trace

/-!
# The record of a layer

A record tells which operations a layer went through and which calls each of them made. What a layer
holds is described by its record: by the drawings and the passes of planning among the calls.
-/

namespace Charting

/-- An operation that was performed, with the calls that it made. -/
structure Step where
  op : Operation
  calls : List Call

def allCalls (steps : List Step) : List Call := steps.flatMap Step.calls

theorem allCalls_concat (steps : List Step) (step : Step) :
    allCalls (steps ++ [step]) = allCalls steps ++ step.calls := by
  simp [allCalls]

namespace Layer

variable {σ : Type} {c : Collaborators σ} {start l l' : Layer} {steps : List Step}

/-- The states of a layer with the steps that led to them, each of them taken in any world. -/
inductive Recorded (c : Collaborators σ) (start : Layer) : List Step → Layer → Prop
  | start : Recorded c start [] start
  | perform {steps op l w r l' w'} (before : Recorded c start steps l)
      (run : (op.perform c).exec l w = ((r, l'), w')) :
      Recorded c start (steps ++ [⟨op, op.calls c l w⟩]) l'

/-- What holds of the empty record and survives every step holds of every record. -/
theorem Recorded.invariant {P : List Step → Layer → Prop} (h : Recorded c start steps l)
    (holds : P [] start)
    (kept : ∀ {steps op l w r l' w'}, Performs c.noted op l (w, []) r l' w' →
      P steps l → P (steps ++ [⟨op, w'.2⟩]) l') : P steps l := by
  induction h with
  | start => exact holds
  | @perform steps op l w r l' w' before run ih =>
      have noted := op.exec_noted c l w
      rw [run] at noted
      have performs : Performs c.noted op l (w, []) r l' (w', op.calls c l w) := .of_exec noted
      exact @kept steps op l w r l' (w', op.calls c l w) performs ih

end Layer

/-! ## What the parts of an operation call -/

def Call.IsPlanning : Call → Prop
  | .scale .. | .coordinate .. | .geometry .. | .animation .. => True
  | _ => False

/-- The call is neither to the renderer nor for a part of the plan. -/
def Call.IsAside (call : Call) : Prop := ¬call.IsPlanning ∧ call.drawing? = none

theorem Call.IsRule.aside {call : Call} (h : call.IsRule) : call.IsAside := by
  obtain ⟨name, rfl⟩ := h
  exact ⟨fun planning => planning, rfl⟩

theorem Call.IsPlanning.undrawn {call : Call} (h : call.IsPlanning) : call.drawing? = none := by
  cases call with
  | render => cases h
  | _ => rfl

/-- From the one world to the other only calls of this kind were made. -/
def Adds {σ : Type} (P : Call → Prop) (w w' : σ × List Call) : Prop :=
  ∃ calls, (∀ call ∈ calls, P call) ∧ w'.2 = w.2 ++ calls

namespace Adds

variable {σ : Type} {P Q : Call → Prop} {w w₁ w' : σ × List Call}

theorem refl : Adds P w w := ⟨[], by simp, by simp⟩

theorem of_call {call : Call} (log : w'.2 = w.2 ++ [call]) (kind : P call) : Adds P w w' :=
  ⟨[call], by simpa using kind, log⟩

theorem trans (h : Adds P w w₁) (h' : Adds P w₁ w') : Adds P w w' := by
  obtain ⟨calls, kind, log⟩ := h
  obtain ⟨more, kind', log'⟩ := h'
  refine ⟨calls ++ more, ?_, by rw [log', log, List.append_assoc]⟩
  intro call hc
  rcases List.mem_append.mp hc with hc | hc
  · exact kind call hc
  · exact kind' call hc

theorem mono (h : Adds P w w') (weaker : ∀ call, P call → Q call) : Adds Q w w' := by
  obtain ⟨calls, kind, log⟩ := h
  exact ⟨calls, fun call hc => weaker call (kind call hc), log⟩

theorem length_le (h : Adds P w w') : w.2.length ≤ w'.2.length := by
  obtain ⟨calls, -, log⟩ := h
  simp [log]

theorem drawings (h : Adds (fun call => call.drawing? = none) w w') :
    Charting.drawings w'.2 = Charting.drawings w.2 := by
  obtain ⟨calls, kind, log⟩ := h
  have none_drawn : Charting.drawings calls = [] := List.filterMap_eq_nil_iff.mpr kind
  rw [log, drawings_append, none_drawn, List.append_nil]

end Adds

/-- A pass of planning that got past the scales. -/
structure Pass where
  options : Options
  scales : ScaleSet
  coordinate : Coordinate
  /-- The geometry as it was bound and as it was animated, or why it could not be bound. -/
  geometry : Except Failure (Geometry × Geometry)

namespace Pass

def calls (pass : Pass) : List Call :=
  .scale pass.options (.ok pass.scales) :: .coordinate pass.options pass.coordinate ::
    match pass.geometry with
    | .ok (made, animated) =>
      [.geometry pass.options (.ok made), .animation pass.options made animated]
    | .error e => [.geometry pass.options (.error e)]

/-- The geometry for the layer, if the pass has one. -/
def geometry? (pass : Pass) : Option Geometry :=
  pass.geometry.toOption.map fun (_, animated) => Layer.silence pass.options animated

theorem calls_planning (pass : Pass) : ∀ call ∈ pass.calls, call.IsPlanning := by
  rcases pass with ⟨options, scales, coordinate, _ | ⟨made, animated⟩⟩ <;>
    simp [calls, Call.IsPlanning]

end Pass

namespace Layer

variable {σ : Type} {c : Collaborators σ} {l l' : Layer} {w w' : σ × List Call}

theorem AppliesRules.adds {stage r} (h : AppliesRules c.noted stage l w r l' w') :
    Adds Call.IsAside w w' := by
  cases h with
  | refused => exact .refl
  | gated => exact .refl
  | applied seen on rules =>
      obtain ⟨calls, kind, run⟩ :=
        Shadows.rules c.plot.rules stage l.ruleContext l.options w.1 w.2
      exact ⟨calls, fun call hc => (kind call hc).aside, congrArg (·.2.2) (rules.symm.trans run)⟩

/-- Planning fails with the scales and changes nothing, or it is a pass. -/
theorem Compiles.passes {r} (h : Compiles c.noted l w r l' w') :
    (l' = l ∧ ∃ e, r = .error e ∧ w'.2 = w.2 ++ [.scale l.options (.error e)]) ∨
      ∃ pass : Pass, w'.2 = w.2 ++ pass.calls ∧ l'.scales = pass.scales ∧
        l'.coordinate = pass.coordinate ∧ l'.geometry = pass.geometry?.or l.geometry := by
  cases h with
  | noScales scale =>
      obtain ⟨-, log⟩ := run_noting (fun answer => [.scale l.options answer]) _ scale
      exact .inl ⟨rfl, _, rfl, log⟩
  | @noGeometry scales coordinate e _ _ _ scale coordinates bind =>
      obtain ⟨-, log₁⟩ := run_noting (fun answer => [.scale l.options answer]) _ scale
      obtain ⟨-, log₂⟩ := run_noting (fun answer => [.coordinate l.options answer]) _ coordinates
      obtain ⟨-, log₃⟩ := run_noting (fun answer => [.geometry l.options answer]) _ bind
      refine .inr ⟨⟨l.options, scales, coordinate, .error e⟩, ?_, rfl, rfl, rfl⟩
      rw [log₃, log₂, log₁, List.append_assoc, List.append_assoc]
      rfl
  | @planned scales coordinate made geometry _ _ _ _ scale coordinates bind animate =>
      obtain ⟨-, log₁⟩ := run_noting (fun answer => [.scale l.options answer]) _ scale
      obtain ⟨-, log₂⟩ := run_noting (fun answer => [.coordinate l.options answer]) _ coordinates
      obtain ⟨-, log₃⟩ := run_noting (fun answer => [.geometry l.options answer]) _ bind
      obtain ⟨-, log₄⟩ := run_noting (fun answer => [.animation l.options made answer]) _ animate
      refine .inr ⟨⟨l.options, scales, coordinate, .ok (made, geometry)⟩, ?_, rfl, rfl, rfl⟩
      rw [log₄, log₃, log₂, log₁, List.append_assoc, List.append_assoc, List.append_assoc]
      rfl

theorem Compiles.adds {r} (h : Compiles c.noted l w r l' w') : Adds Call.IsPlanning w w' := by
  rcases h.passes with ⟨-, e, -, log⟩ | ⟨pass, log, -⟩
  · exact .of_call log trivial
  · exact ⟨pass.calls, pass.calls_planning, log⟩

theorem Compiles.length_lt {r} (h : Compiles c.noted l w r l' w') : w.2.length < w'.2.length := by
  rcases h.passes with ⟨-, e, -, log⟩ | ⟨pass, log, -⟩ <;> simp [log, Pass.calls]

/-- Drawing calls the renderer once, unless there is nothing to draw. -/
theorem Renders.adds {r geometry} (h : Renders c.noted l w r l' w')
    (planned : l.geometry = some geometry) :
    ∃ answer, w'.2 = w.2 ++ [.render (l.planWith geometry) answer] ∧
      l'.scene = answer.toOption := by
  cases h with
  | unplanned bare => simp [bare] at planned
  | failed planned' answer =>
      obtain rfl := Option.some.inj (planned.symm.trans planned')
      exact ⟨_, (run_noting (fun answer => [.render _ answer]) (c.renderer _).run answer).2, rfl⟩
  | drawn planned' answer =>
      obtain rfl := Option.some.inj (planned.symm.trans planned')
      exact ⟨_, (run_noting (fun answer => [.render _ answer]) (c.renderer _).run answer).2, rfl⟩

/-- Drawing calls the renderer and nobody else. -/
theorem Renders.adds_render {r} (h : Renders c.noted l w r l' w') :
    Adds (fun call => ∃ plan answer, call = .render plan answer) w w' := by
  cases planned : l.geometry with
  | none =>
      cases h with
      | unplanned => exact .refl
      | failed some_planned | drawn some_planned => simp [planned] at some_planned
  | some geometry =>
      obtain ⟨answer, log, -⟩ := h.adds planned
      exact .of_call log ⟨_, _, rfl⟩

theorem Overlays.adds_overlay (h : Overlays c.noted l w l' w') : Adds (· = .overlay) w w' := by
  cases h with
  | bare => exact .refl
  | laid seen attach =>
      obtain ⟨-, log⟩ := run_noting (fun _ => [.overlay]) (c.plot.attachOverlay _ _) attach
      exact .of_call log rfl

theorem Overlays.adds (h : Overlays c.noted l w l' w') : Adds Call.IsAside w w' :=
  h.adds_overlay.mono fun _ overlay => overlay ▸ ⟨fun planning => planning, rfl⟩

/-! Only drawing makes drawings. -/

theorem AppliesRules.undrawn {stage r} (h : AppliesRules c.noted stage l w r l' w') :
    Adds (fun call => call.drawing? = none) w w' := h.adds.mono fun _ aside => aside.2

theorem Compiles.undrawn {r} (h : Compiles c.noted l w r l' w') :
    Adds (fun call => call.drawing? = none) w w' := h.adds.mono fun _ planning => planning.undrawn

theorem Overlays.undrawn (h : Overlays c.noted l w l' w') :
    Adds (fun call => call.drawing? = none) w w' := h.adds.mono fun _ aside => aside.2

end Layer

end Charting
