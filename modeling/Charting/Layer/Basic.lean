import Charting.Description
import Charting.Layer.Stage
import Charting.Options.Defaults
import Charting.PlotType

/-!
# Layers

A layer takes one chart from its options to a scene. Planning computes scales, coordinate system and
geometry from the options; drawing hands the plan to the renderer, lets the rules look at the scene,
and plans and draws once more if they changed the options. An operation that fails leaves the layer
as far as it got, except that a failed drawing drops the scene and what was laid over it.
-/

namespace Charting

/-- Those a layer works with: its plot type, the factories and the renderer. -/
structure Collaborators (σ : Type) where
  plot : PlotType σ
  factories : Factories σ := .standard
  renderer : Plan → Attempt σ Scene

structure Layer where
  viewport : Viewport
  data : List Datum
  options : Options
  scales : ScaleSet := []
  coordinate : Coordinate := {}
  geometry : Option Geometry := none
  scene : Option Scene := none
  overlay : Option ConversionTag := none
  events : EventBindings := {}
  /-- The last stage that was completed. -/
  stage : Stage := .options
  /-- The chart has been planned and its events are bound, so that changes redraw it. -/
  rendered : Bool := false

/-- An operation on a layer in the world `σ`; the layer stays changed when it fails. -/
abbrev LayerM (σ α : Type) := ExceptT Failure (StateT Layer (StateM σ)) α

namespace LayerM

variable {σ α : Type}

/-- Calls a collaborator, whose failure is the operation's. -/
def call (attempt : Attempt σ α) : LayerM σ α :=
  ExceptT.mk (StateT.lift attempt.run)

/-- Works on the options of the layer, which keep what was written if it fails. -/
def onOptions (work : OptionsM σ α) : LayerM σ α := ExceptT.mk do
  let layer ← get
  let (outcome, options) ← StateT.lift (work.run.run layer.options)
  set { layer with options }
  return outcome

end LayerM

namespace Layer

variable {σ : Type}

/-- A layer for a description: the size must be valid, and the options are resolved. -/
def create (plot : PlotType σ) (description : Description) : Except Failure Layer :=
  if description.viewport.isValid then do
    let options ← Options.resolve .baseDefaults plot.defaults description.options
    return { viewport := description.viewport, data := description.data, options }
  else .error (.invalidViewport description.viewport)

def enter (stage : Stage) : LayerM σ Unit := modify fun layer => { layer with stage }

/-- What a rule may look at. -/
def ruleContext (layer : Layer) : RuleContext :=
  { viewport := layer.viewport, data := layer.data, scene := layer.scene }

/--
Runs the rules of a stage if the options want them, and counts those that completed. The later
rules need a scene.
-/
def applyResponsive (c : Collaborators σ) (stage : RuleStage) : LayerM σ Nat := do
  let layer ← get
  if stage = .afterRender && layer.scene.isNone then
    throw (.invalidStage stage.name Stage.render.name)
  else if layer.options.isResponsive then
    LayerM.onOptions (ExceptT.lift (c.plot.rules.apply stage layer.ruleContext))
  else return 0

/-- Switches a geometry's animation off if the options do. -/
def silence (options : Options) (geometry : Geometry) : Geometry :=
  if options.bool? "animation" == some false then { geometry with animate := some false }
  else geometry

def compile (c : Collaborators σ) : LayerM σ Unit := do
  let options := (← get).options
  let scales ← LayerM.call (c.plot.scale options)
  modify fun layer => { layer with scales }
  enter .scale
  let coordinate ← LayerM.call (c.plot.coordinate options)
  modify fun layer => { layer with coordinate }
  enter .coordinate
  let geometry ← LayerM.call (c.plot.addGeometry c.factories options)
  enter .addGeometry
  let geometry ← LayerM.call (c.plot.animation options geometry)
  modify fun layer => { layer with geometry := some (silence options geometry) }
  enter .animation

def bindEvents (c : Collaborators σ) : LayerM σ Unit := do
  let table ← LayerM.call c.plot.eventTable
  modify fun layer =>
    { layer with
      events := EventBindings.bind c.plot.name table c.plot.names (layer.options.get? "events") }
  enter .parseEvents

def planWith (layer : Layer) (geometry : Geometry) : Plan :=
  { viewport := layer.viewport
    options := layer.options
    scales := layer.scales
    coordinate := layer.coordinate
    geometry
    data := layer.data }

/-- Hands the plan to the renderer. If it fails, the old scene and its overlay are dropped. -/
def renderScene (c : Collaborators σ) : LayerM σ Unit := do
  let layer ← get
  match layer.geometry with
  | none => throw (.invalidStage Stage.render.name Stage.addGeometry.name)
  | some geometry =>
    tryCatch
      (do
        let scene ← LayerM.call (c.renderer (layer.planWith geometry))
        modify fun layer => { layer with scene := some scene }
        enter .render)
      (fun e => do
        modify fun layer => { layer with scene := none, overlay := none }
        throw e)

/-- Lays over the scene what the plot type wants. -/
def attachOverlay (c : Collaborators σ) : LayerM σ Unit := do
  let layer ← get
  let overlay ← match layer.scene with
    | some scene => LayerM.call (c.plot.attachOverlay scene layer.options)
    | none => pure none
  modify fun layer => { layer with overlay }

/--
Draws the plan and runs the later rules. If they changed the options, the chart is planned and
drawn once more, without running the rules again.
-/
def draw (c : Collaborators σ) : LayerM σ Unit := do
  renderScene c
  let before := (← get).options
  let _ ← applyResponsive c .afterRender
  if before.isResponsive && before != (← get).options then
    compile c
    renderScene c
  attachOverlay c
  enter .afterRender

def render (c : Collaborators σ) : LayerM σ Unit := do
  LayerM.onOptions c.plot.beforeInit
  enter .beforeInit
  let _ ← applyResponsive c .preRender
  compile c
  bindEvents c
  modify fun layer => { layer with rendered := true }
  draw c

/-- Plans and draws for a new size; the bound events stay. -/
def resize (c : Collaborators σ) (viewport : Viewport) : LayerM σ Unit := do
  if !viewport.isValid then throw (.invalidViewport viewport)
  if !(← get).rendered then throw (.invalidStage "resize" Stage.render.name)
  modify fun layer => { layer with viewport }
  let _ ← applyResponsive c .preRender
  compile c
  draw c

/-- Takes new rows; a chart that has been rendered is planned and drawn again. -/
def changeData (c : Collaborators σ) (data : List Datum) : LayerM σ Unit := do
  modify fun layer => { layer with data }
  if (← get).rendered then
    compile c
    draw c

def dispatch (invoke : Invoke σ) (layer : Layer) (event : EngineEvent) :
    StateM σ (List SemanticEvent) :=
  layer.events.dispatch invoke event

end Layer

end Charting
