import Charting.Layer.Export
import Charting.Proofs.Layer.Scenes

/-!
# Which passes a held plan comes from

Planning writes the scales and the coordinate system before it binds the geometry, so a pass that
fails in between leaves them beside the geometry of an earlier pass. Apart from such a pass, all
three parts of the plan come from the last pass that came to an end.
-/

namespace Charting

namespace Call

def IsCoordinate : Call → Prop
  | .coordinate .. => True
  | _ => False

def IsAnimation : Call → Prop
  | .animation .. => True
  | _ => False

/-- No part of a plan is written because of the call. -/
def Spares (call : Call) : Prop := ¬call.IsCoordinate ∧ ¬call.IsAnimation

theorem IsAside.spares {call : Call} (h : call.IsAside) : call.Spares := by
  obtain ⟨planning, -⟩ := h
  cases call with
  | coordinate | animation => exact absurd trivial planning
  | _ => exact ⟨fun h => h, fun h => h⟩

end Call

/-- A pass that did not bind a geometry has not animated one. -/
theorem Pass.not_animation {pass : Pass} (unbound : pass.geometry? = none) :
    ∀ call ∈ pass.calls, ¬call.IsAnimation := by
  rcases pass with ⟨options, scales, coordinate, e | ⟨made, animated⟩⟩
  · simp [calls, Call.IsAnimation]
  · cases unbound

namespace Layer

variable {σ : Type} {c : Collaborators σ} {op : Operation} {start l l' : Layer}
  {calls old : List Call} {geometry : Geometry}

/-- Where the parts of a plan come from, of which the layer holds this geometry. -/
inductive FromPasses (calls : List Call) (l : Layer) (geometry : Geometry) : Prop
  /-- All of them come from one pass, and none has got past the scales since. -/
  | whole (pass : Pass) (before after : List Call)
      (made : calls = before ++ pass.calls ++ after) (last : ∀ call ∈ after, call.Spares)
      (bound : pass.geometry? = some geometry) (scales : l.scales = pass.scales)
      (coordinate : l.coordinate = pass.coordinate)
  /-- A later pass has left its scales and its coordinate system, and then had no geometry. -/
  | torn (pass failed : Pass) (before between after : List Call)
      (made : calls = before ++ pass.calls ++ between ++ failed.calls ++ after)
      (latest : ∀ call ∈ between, ¬call.IsAnimation) (last : ∀ call ∈ after, call.Spares)
      (bound : pass.geometry? = some geometry) (unbound : failed.geometry? = none)
      (scales : l.scales = failed.scales) (coordinate : l.coordinate = failed.coordinate)

theorem FromPasses.extend (h : FromPasses calls l geometry) {more : List Call}
    (spares : ∀ call ∈ more, call.Spares) (scales : l'.scales = l.scales)
    (coordinate : l'.coordinate = l.coordinate) : FromPasses (calls ++ more) l' geometry := by
  have spared {after : List Call} (last : ∀ call ∈ after, call.Spares) :
      ∀ call ∈ after ++ more, call.Spares := fun call hc =>
    (List.mem_append.mp hc).elim (last call) (spares call)
  cases h with
  | whole pass before after made last bound scales' coordinate' =>
      exact .whole pass before (after ++ more) (by rw [made, List.append_assoc]) (spared last) bound
        (scales.trans scales') (coordinate.trans coordinate')
  | torn pass failed before between after made latest last bound unbound scales' coordinate' =>
      exact .torn pass failed before between (after ++ more) (by rw [made, List.append_assoc])
        latest (spared last) bound unbound (scales.trans scales') (coordinate.trans coordinate')

/-- A pass without a geometry replaces what an earlier one left of its scales. -/
theorem FromPasses.fail (h : FromPasses calls l geometry) {pass : Pass}
    (unbound : pass.geometry? = none) (scales : l'.scales = pass.scales)
    (coordinate : l'.coordinate = pass.coordinate) :
    FromPasses (calls ++ pass.calls) l' geometry := by
  have unended {between : List Call} (latest : ∀ call ∈ between, ¬call.IsAnimation) :
      ∀ call ∈ between ++ pass.calls, ¬call.IsAnimation := fun call hc =>
    (List.mem_append.mp hc).elim (latest call) (Pass.not_animation unbound call)
  cases h with
  | whole whole before after made last bound =>
      exact .torn whole pass before after [] (by rw [made, List.append_nil])
        (fun call hc => (last call hc).2) (by simp) bound unbound scales coordinate
  | torn whole failed before between after made latest last bound failed_unbound =>
      -- the earlier torn pass now lies between the two that the plan comes from
      refine .torn whole pass before (between ++ failed.calls ++ after) [] ?_ ?_ (by simp) bound
        unbound scales coordinate
      · rw [made]
        simp only [List.append_assoc, List.append_nil]
      · intro call hc
        simp only [List.mem_append] at hc
        rcases hc with (hc | hc) | hc
        · exact latest call hc
        · exact Pass.not_animation failed_unbound call hc
        · exact (last call hc).2

/-- The plan of the layer, if it has a geometry, comes from passes among the calls. -/
def Traced (calls : List Call) (l : Layer) : Prop :=
  ∀ geometry, l.geometry = some geometry → FromPasses calls l geometry

/-! ## What each part of an operation keeps -/

section Tracing

variable {w w' : σ × List Call}

theorem Traced.stays (h : Traced (old ++ w.2) l) (calls : Adds Call.Spares w w')
    (same : l'.scales = l.scales ∧ l'.coordinate = l.coordinate ∧ l'.geometry = l.geometry) :
    Traced (old ++ w'.2) l' := by
  obtain ⟨more, spares, log⟩ := calls
  obtain ⟨scales, coordinate, bound⟩ := same
  intro geometry held
  rw [log, ← List.append_assoc]
  exact (h geometry (bound ▸ held)).extend spares scales coordinate

theorem Traced.compiles {r} (h : Traced (old ++ w.2) l) (compile : Compiles c.noted l w r l' w') :
    Traced (old ++ w'.2) l' := by
  rcases compile.passes with ⟨rfl, e, -, log⟩ | ⟨pass, log, scales, coordinate, bound⟩
  · exact h.stays (.of_call log ⟨fun h => h, fun h => h⟩) ⟨rfl, rfl, rfl⟩
  · intro geometry held
    rw [log, ← List.append_assoc]
    cases made : pass.geometry? with
    | none =>
        rw [bound, made, Option.none_or] at held
        exact (h geometry held).fail made scales coordinate
    | some geometry' =>
        rw [bound, made, Option.some_or] at held
        exact .whole pass (old ++ w.2) [] (by rw [List.append_nil]) (by simp) (made.trans held)
          scales coordinate

theorem Traced.renders {r} (h : Traced (old ++ w.2) l) (render : Renders c.noted l w r l' w') :
    Traced (old ++ w'.2) l' := by
  have called : Adds Call.Spares w w' := render.adds_render.mono fun call drawing => by
    obtain ⟨plan, answer, rfl⟩ := drawing
    exact ⟨fun h => h, fun h => h⟩
  exact h.stays called (by rw [render.eq_with]; exact ⟨rfl, rfl, rfl⟩)

/-- Only planning makes a difference to where a plan comes from. -/
theorem preserves_traced : Preserves c.noted fun l w => Traced (old ++ w.2) l where
  init _ init h := by
    obtain ⟨-, log⟩ := run_noting (fun _ => [.beforeInit]) _ init
    exact h.stays (.of_call log ⟨fun h => h, fun h => h⟩) ⟨rfl, rfl, rfl⟩
  rules rules h := h.stays (rules.adds.mono fun _ aside => aside.spares)
    (by rw [rules.eq_with]; exact ⟨rfl, rfl, rfl⟩)
  compiles compile h := h.compiles compile
  events _ events h := by
    obtain ⟨-, log⟩ := run_noting (fun _ => [.events]) _ events
    exact h.stays (.of_call log ⟨fun h => h, fun h => h⟩) ⟨rfl, rfl, rfl⟩
  renders render h := h.renders render
  overlays overlay h := h.stays (overlay.adds.mono fun _ aside => aside.spares)
    (by rw [overlay.eq_with]; exact ⟨rfl, rfl, rfl⟩)
  feeds _ _ h := h.stays .refl ⟨rfl, rfl, rfl⟩

theorem Traced.performs {r} (h : Traced (old ++ w.2) l)
    (performs : Performs c.noted op l w r l' w') : Traced (old ++ w'.2) l' :=
  preserves_traced.performs performs h

end Tracing

/-! ## Every state -/

theorem get?_planJson (name : String) (l : Layer) :
    (l.planJson name).get? "scales" = some l.scales.toJson ∧
      (l.planJson name).get? "coordinate" = some l.coordinate.toJson ∧
      (l.planJson name).get? "geometry" = some (.ofOption Geometry.toJson l.geometry) :=
  ⟨rfl, rfl, rfl⟩

/--
The plan that a layer holds and exports comes from one pass, or from the last one that came to an
end and a later one that failed to bind a geometry.
-/
theorem Recorded.plan_from_passes {description : Description} {steps : List Step}
    (created : create c.plot description = .ok start) (h : Recorded c start steps l)
    (bound : l.geometry = some geometry) :
    FromPasses (allCalls steps) l geometry ∧
      (l.planJson c.plot.name).get? "scales" = some l.scales.toJson ∧
      (l.planJson c.plot.name).get? "coordinate" = some l.coordinate.toJson ∧
      (l.planJson c.plot.name).get? "geometry" = some geometry.toJson := by
  obtain ⟨-, options, -, rfl⟩ := create_eq_ok.mp created
  have traced : Traced (allCalls steps) l := by
    refine h.invariant (P := fun steps l => Traced (allCalls steps) l) ?_ ?_
    · intro geometry held
      cases held
    · intro steps op l w r l' w' performs traced
      rw [allCalls_concat]
      refine Traced.performs ?_ performs
      rwa [List.append_nil]
  obtain ⟨scales, coordinate, exported⟩ := get?_planJson c.plot.name l
  rw [bound] at exported
  exact ⟨traced geometry bound, scales, coordinate, exported⟩

theorem plan_from_passes_narrowed :
    ∃ geometry, narrowed.geometry = some geometry ∧
      FromPasses (allCalls narrowedSteps) narrowed geometry ∧
      (narrowed.planJson "column").get? "scales" = some narrowed.scales.toJson ∧
      (narrowed.planJson "column").get? "coordinate" = some narrowed.coordinate.toJson ∧
      (narrowed.planJson "column").get? "geometry" = some geometry.toJson := by
  have planned : narrowed.geometry.isSome = true := by decide +kernel
  obtain ⟨geometry, bound⟩ := Option.isSome_iff_exists.mp planned
  exact ⟨geometry, bound, Recorded.plan_from_passes create_labelless recorded_narrowed bound⟩

/-- The number of ticks on the y axis. -/
def yTicks? (scales : ScaleSet) : Option UInt32 := (Entries.get? scales "y").bind Scale.tickCount

/-- The scales and the animations of the drawn column are those of seven ticks. -/
theorem narrowed_calls : (allCalls narrowedSteps).all (fun
    | .scale options (.ok scales) =>
      options.number? "yAxis.tickCount" != some 7 || yTicks? scales == some 7
    | .animation options _ _ => options.number? "yAxis.tickCount" == some 7
    | _ => true) = true := by
  decide +kernel

/--
Narrowing fails with the label, and yet it changes the scales: no pass has made them together with
the geometry that is held.
-/
theorem narrowed_torn :
    create labelless.plot Plot.Column.unlabelled = .ok Plot.Column.newUnlabelled ∧
      Recorded labelless Plot.Column.newUnlabelled narrowedSteps narrowed ∧
      ((narrowing.perform labelless).exec halfDrawn { renders := 1 }).1.1 =
        .error (.unsupportedComponent "label") ∧
      halfDrawn.scales ≠ narrowed.scales ∧ narrowed.geometry.isSome = true ∧
      ∀ pass : Pass, pass.calls <:+: allCalls narrowedSteps →
        pass.geometry? = narrowed.geometry → pass.scales ≠ narrowed.scales := by
  have seven : yTicks? halfDrawn.scales = some 7 := by decide +kernel
  have two : yTicks? narrowed.scales = some 2 := by decide +kernel
  have planned : narrowed.geometry.isSome = true := by decide +kernel
  refine ⟨create_labelless, recorded_narrowed, by decide +kernel, ?_, planned, ?_⟩
  · intro same
    rw [same, two] at seven
    cases seven
  · intro pass among bound same
    rw [← bound] at planned
    have checked := fun call hc => List.all_eq_true.mp narrowed_calls call (among.subset hc)
    rcases pass with ⟨options, scales, coordinate, e | ⟨made, animated⟩⟩
    · cases planned
    · have animation := checked (.animation options made animated) (by simp [Pass.calls])
      have scale := checked (.scale options (.ok scales)) (by simp [Pass.calls])
      simp only [bne, Bool.or_eq_true, Bool.not_eq_true'] at animation scale
      rw [animation, show scales = narrowed.scales from same, two] at scale
      revert scale
      decide

end Layer

end Charting
