import Charting.Plot.Scatter
import Charting.Proofs.Layer.Record
import Charting.Proofs.Options.Agreement
import Charting.Proofs.Plot.ColumnLabels

/-!
# A drawing leaves one plan

When an operation has drawn, everything the layer holds comes from one set of options: the plan, the
scene that was last drawn, and the overlay on it. These options are those of the layer, or options
that agree with them, for the later rules may have rewritten them without any difference that a
reader could see.
-/

namespace Charting

/-- What the hooks of a plot type compute if they look at nothing but their arguments. -/
structure HookFunctions where
  scale : Options → Except Failure ScaleSet
  coordinate : Options → Coordinate
  animation : Options → Geometry → Geometry
  overlay : Scene → Options → Option ConversionTag

/-- The hooks answer with these functions in every world. -/
structure HookFunctions.Describe {σ : Type} (f : HookFunctions) (plot : PlotType σ) : Prop where
  scale : ∀ options w, ((plot.scale options).run.run w).1 = f.scale options
  coordinate : ∀ options w, ((plot.coordinate options).run w).1 = f.coordinate options
  animation : ∀ options geometry w,
    ((plot.animation options geometry).run w).1 = f.animation options geometry
  overlay : ∀ scene options w, ((plot.attachOverlay scene options).run w).1 = f.overlay scene options

/-- The options for which a geometry was bound, and what came of it. -/
def Call.binding? : Call → Option (Options × Except Failure Geometry)
  | .geometry options answer => some (options, answer)
  | _ => none

/-- The geometries bound among some calls, in their order. -/
def geometries (calls : List Call) : List (Options × Except Failure Geometry) :=
  calls.filterMap Call.binding?

theorem geometries_append (calls more : List Call) :
    geometries (calls ++ more) = geometries calls ++ geometries more :=
  List.filterMap_append

theorem Call.IsAside.unbinding {call : Call} (h : call.IsAside) : call.binding? = none := by
  cases call with
  | geometry => exact absurd trivial h.1
  | _ => rfl

theorem Adds.geometries {σ : Type} {w w' : σ × List Call}
    (h : Adds (fun call => call.binding? = none) w w') :
    Charting.geometries w'.2 = Charting.geometries w.2 := by
  obtain ⟨calls, kind, log⟩ := h
  have none_bound : Charting.geometries calls = [] := List.filterMap_eq_nil_iff.mpr kind
  rw [log, geometries_append, none_bound, List.append_nil]

namespace Layer

/--
The plan that a layer holds is the one of these options. Factories may keep state, so its geometry
is the one that they made for the options when a geometry was last bound, in whatever world.
-/
structure PlannedFrom {σ : Type} (c : Collaborators σ) (f : HookFunctions) (options : Options)
    (calls : List Call) (l : Layer) : Prop where
  scales : f.scale options = .ok l.scales
  coordinate : l.coordinate = f.coordinate options
  geometry : ∃ made w w', (geometries calls).getLast? = some (options, .ok made) ∧
    (c.plot.addGeometry c.factories options).run.run w = (.ok made, w') ∧
    l.geometry = some (silence options (f.animation options made))

variable {σ : Type} {c : Collaborators σ} {f : HookFunctions} {options : Options} {l l' : Layer}
  {w w' : σ × List Call}

/-- The plan only changes where the layer is planned. -/
theorem PlannedFrom.stays (h : PlannedFrom c f options w.2 l)
    (added : Adds (fun call => call.binding? = none) w w')
    (same : l'.scales = l.scales ∧ l'.coordinate = l.coordinate ∧ l'.geometry = l.geometry) :
    PlannedFrom c f options w'.2 l' := by
  obtain ⟨scales, coordinate, geometry⟩ := h
  obtain ⟨scales', coordinate', geometry'⟩ := same
  refine ⟨by rw [scales', scales], by rw [coordinate', coordinate], ?_⟩
  rw [added.geometries, geometry']
  exact geometry

theorem Compiles.plannedFrom (hooks : f.Describe c.plot)
    (h : Compiles c.noted l w (.ok ()) l' w') : PlannedFrom c f l.options w'.2 l' := by
  cases h with
  | @planned scales coordinate made geometry _ _ _ _ scale coordinates bind animate =>
      obtain ⟨scale, -⟩ := run_noting (fun answer => [.scale l.options answer]) _ scale
      obtain ⟨coordinates, -⟩ :=
        run_noting (fun answer => [.coordinate l.options answer]) _ coordinates
      obtain ⟨bind, bound⟩ := run_noting (fun answer => [.geometry l.options answer])
        (c.plot.addGeometry c.factories l.options).run bind
      obtain ⟨animate, animated⟩ :=
        run_noting (fun answer => [.animation l.options made answer]) _ animate
      refine ⟨?_, ?_, made, _, _, ?_, bind, ?_⟩
      · rw [← hooks.scale l.options w.1]
        exact congrArg Prod.fst scale
      · rw [← hooks.coordinate l.options _, coordinates]
      · have here : geometries [.geometry l.options (.ok made)] = [(l.options, .ok made)] := rfl
        have idle : geometries [.animation l.options made geometry] = [] := rfl
        rw [animated, bound, geometries_append, geometries_append, here, idle, List.append_nil,
          List.getLast?_concat]
      · rw [← hooks.animation l.options made _, animate]

theorem AppliesRules.plannedFrom {stage count}
    (h : AppliesRules c.noted stage l w (.ok count) l' w')
    (planned : PlannedFrom c f options w.2 l) : PlannedFrom c f options w'.2 l' :=
  planned.stays (h.adds.mono fun _ aside => aside.unbinding)
    (by rw [h.eq_with]; exact ⟨rfl, rfl, rfl⟩)

theorem Renders.plannedFrom (h : Renders c.noted l w (.ok ()) l' w')
    (planned : PlannedFrom c f options w.2 l) : PlannedFrom c f options w'.2 l' := by
  have called : Adds (fun call => call.binding? = none) w w' :=
    h.adds_render.mono fun call drawing => by
      obtain ⟨plan, answer, rfl⟩ := drawing
      rfl
  exact planned.stays called (by rw [h.eq_with]; exact ⟨rfl, rfl, rfl⟩)

theorem Prepares.plannedFrom {op : Operation} (hooks : f.Describe c.plot)
    (h : Prepares c.noted op l w l' w') : PlannedFrom c f l'.options w'.2 l' := by
  cases h with
  | render init rules compile events =>
      have planned := compile.plannedFrom hooks
      rw [← compile.options] at planned
      obtain ⟨-, log⟩ := run_noting (fun _ => [.events]) _ events
      exact planned.stays (.of_call log rfl) ⟨rfl, rfl, rfl⟩
  | resize valid rendered rules compile =>
      have planned := compile.plannedFrom hooks
      rwa [← compile.options] at planned
  | changeData rendered compile =>
      have planned := compile.plannedFrom hooks
      rwa [← compile.options] at planned

/-! ## The last drawing -/

theorem Renders.adds_drawing (h : Renders c.noted l w (.ok ()) l' w') :
    ∃ geometry scene, l'.geometry = some geometry ∧ l'.scene = some scene ∧
      drawings w'.2 = drawings w.2 ++ [(l'.planWith geometry, .ok scene)] := by
  cases h with
  | drawn planned answer =>
      obtain ⟨-, log⟩ := run_noting (fun answer => [.render _ answer]) (c.renderer _).run answer
      refine ⟨_, _, planned, rfl, ?_⟩
      rw [log, drawings_append]
      rfl

/--
A drawn layer with one plan: that of the options, which the scene was drawn from last and the
overlay lies on.
-/
structure Coherent {σ : Type} (c : Collaborators σ) (f : HookFunctions) (options : Options)
    (calls : List Call) (l : Layer) : Prop where
  planned : PlannedFrom c f options calls l
  drawn : ∃ geometry scene, l.geometry = some geometry ∧ l.scene = some scene ∧
    (drawings calls).getLast? = some ({ l.planWith geometry with options }, .ok scene) ∧
    l.overlay = f.overlay scene l.options
  stage : l.stage = .afterRender

theorem Overlays.coherent {geometry : Geometry} {scene : Scene} (hooks : f.Describe c.plot)
    (h : Overlays c.noted l w l' w') (planned : PlannedFrom c f options w.2 l)
    (bound : l.geometry = some geometry) (seen : l.scene = some scene)
    (last : (drawings w.2).getLast? = some ({ l.planWith geometry with options }, .ok scene)) :
    Coherent c f options w'.2 { l' with stage := .afterRender } := by
  have log := h.undrawn.drawings
  have planned : PlannedFrom c f options w'.2 { l' with stage := .afterRender } :=
    planned.stays (h.adds.mono fun _ aside => aside.unbinding)
      (by rw [h.eq_with]; exact ⟨rfl, rfl, rfl⟩)
  cases h with
  | bare unseen => simp [unseen] at seen
  | laid seen' attach =>
      obtain rfl := Option.some.inj (seen.symm.trans seen')
      obtain ⟨attach, -⟩ :=
        run_noting (fun _ => [.overlay]) (c.plot.attachOverlay scene l.options) attach
      refine ⟨planned, ⟨geometry, scene, bound, seen, ?_, ?_⟩, rfl⟩
      · rw [log, last]
        rfl
      · rw [← hooks.overlay scene l.options w.1, attach]

/--
A drawing of a plan is coherent. Without a second drawing the plan is that of the options before the
later rules, which the rules have left as they were or in agreement with what they were.
-/
theorem Draws.coherent (hooks : f.Describe c.plot) (planned : PlannedFrom c f l.options w.2 l)
    (h : Draws c.noted l w (.ok ()) l' w') :
    ∃ options, (options = l'.options ∨ (options == l'.options) = true) ∧
      Coherent c f options w'.2 l' := by
  cases h with
  | @kept l₁ _ _ l₂ _ l₃ _ render rules same overlay =>
      obtain ⟨geometry, scene, bound, seen, added⟩ := render.adds_drawing
      have planned := rules.plannedFrom (render.plannedFrom planned)
      have frame := rules.eq_with
      have bound₂ : l₂.geometry = some geometry := by rw [frame]; exact bound
      have seen₂ : l₂.scene = some scene := by rw [frame]; exact seen
      refine ⟨l.options, ?_, overlay.coherent hooks planned bound₂ seen₂ ?_⟩
      · rw [overlay.eq_with, ← render.options]
        exact rules.agree same
      · rw [rules.undrawn.drawings, added, List.getLast?_concat, frame, ← render.options]
        rfl
  | redrawn render rules changed compile redraw overlay =>
      obtain ⟨geometry, scene, bound, seen, added⟩ := redraw.adds_drawing
      have planned := redraw.plannedFrom (compile.plannedFrom hooks)
      refine ⟨_, ?_, overlay.coherent hooks planned bound seen ?_⟩
      · rw [overlay.eq_with, redraw.options, compile.options]
        exact .inl rfl
      · rw [added, List.getLast?_concat, ← compile.options, ← redraw.options]
        rfl

/--
After every operation that drew and returned, the layer holds one plan, made from its options or
from options that agree with them.
-/
theorem perform_coherent {op : Operation} {w w' : σ} (hooks : f.Describe c.plot)
    (draws : op.draws l = true) (run : (op.perform c).exec l w = ((.ok (), l'), w')) :
    ∃ options, (options = l'.options ∨ (options == l'.options) = true) ∧
      Coherent c f options (op.calls c l w) l' := by
  have noted := op.exec_noted c l w
  simp only [run] at noted
  obtain ⟨l₁, w₁, prepared, drawn⟩ := (Performs.of_exec noted).drawn draws
  obtain ⟨options, agree, coherent⟩ := drawn.coherent hooks (prepared.plannedFrom hooks)
  exact ⟨options, agree, coherent⟩

/-- The hooks of a column plot, of whose caller no function has anything to answer. -/
def columnHooks : HookFunctions where
  scale options := ScaleSet.cartesian options (.ofKind .cat)
  coordinate _ := {}
  animation _ geometry := geometry
  overlay scene options := ((Plot.Column.headless.plot.attachOverlay scene options).run {}).1

theorem columnHooks_describe : columnHooks.Describe Plot.Column.headless.plot where
  scale _ _ := rfl
  coordinate _ _ := rfl
  animation _ _ _ := rfl
  overlay scene options w := by
    have alike : Alike (fun _ _ => True) (Plot.Column.headless.plot.attachOverlay scene options)
        (Plot.Column.headless.plot.attachOverlay scene options) :=
      Plot.Column.attachOverlay_alike (fun _ _ _ => alike_pure OptionTree.null) scene
    exact (alike w {} trivial).1

/-- The rules have asked for a label after the first drawing, so that there is a second one. -/
theorem perform_coherent_columns :
    (drawings (Operation.render.calls Plot.Column.headless Plot.Column.newUnlabelled {})).length =
        2 ∧
      ∃ options, (options = Plot.Column.drawnUnlabelled.options ∨
          (options == Plot.Column.drawnUnlabelled.options) = true) ∧
        Coherent Plot.Column.headless columnHooks options
          (Operation.render.calls Plot.Column.headless Plot.Column.newUnlabelled {})
          Plot.Column.drawnUnlabelled :=
  ⟨by decide +kernel, perform_coherent columnHooks_describe rfl Plot.Column.render_newUnlabelled⟩

/-! ## A chart with a NaN -/

def plainScatter : Collaborators Layout.Headless where
  plot := Plot.Scatter.plot Layout.Headless
  renderer := Layout.Headless.render

/-- One row, and a number as an option of the caller's own. -/
def notedScatter (note : Float) : Description where
  options := .obj [("xField", .str "x"), ("yField", .str "y"), ("note", .num note)]
  data := [[("x", .num (.int 1)), ("y", .num (.int 2))]]

def newScatter (note : Float) : Layer where
  viewport := {}
  data := (notedScatter note).data
  options := ⟨(((OptionTree.obj []).mergeObject .baseDefaults).mergeObject
    Plot.Scatter.defaults).mergeObject (notedScatter note).options⟩

def drawnScatter (note : Float) : Layer := ((render plainScatter).exec (newScatter note) {}).1.2

/-- The value that is no number. -/
def notANumber : Float := 0 / 0

set_option maxRecDepth 4000 in
/-- A chart with a NaN among its options is drawn, but no options agree with those it has then. -/
theorem drawnScatter_disagrees :
    create plainScatter.plot (notedScatter notANumber) = .ok (newScatter notANumber) ∧
      ((render plainScatter).exec (newScatter notANumber) {}).1 =
        (.ok (), drawnScatter notANumber) ∧
      ¬∃ options : Options, options.root.fields.WellKeyed ∧
        (options == (drawnScatter notANumber).options) = true := by
  refine ⟨rfl, Prod.ext rfl rfl, ?_⟩
  rintro ⟨options, keyed, agree⟩
  have found : (drawnScatter notANumber).options.root.get? "note" = some (.num notANumber) := rfl
  rw [show (options == (drawnScatter notANumber).options) = _ from
    OptionTree.not_agrees_of_nan rfl found keyed] at agree
  cases agree

end Layer

end Charting
