import Charting.ConversionTag.Items
import Charting.Event
import Charting.Responsive

/-!
# Plot types

A plot type is a set of hooks, one for each stage in which plots differ; every hook it leaves alone
does the ordinary thing. Hooks, factories and renderers may keep state of their own in a world `σ`.
-/

namespace Charting

structure GeometryRequest where
  plotType : String
  options : Options

/-- The makers of geometries and of components such as labels. -/
structure Factories (σ : Type) where
  geometry : GeometryKind → String → GeometryRequest → Attempt σ Geometry
  component : String → LabelDescriptor → Attempt σ LabelHandle

/-- The hooks of a plot type that take part in binding its geometry. -/
structure GeometryHooks (σ : Type) where
  /-- The name of the plot type, which is also the name of its geometry. -/
  name : String
  names : NameMap
  variant : String
  /-- The type of its labels unless the caller says otherwise. -/
  labelType : String := "label"
  /-- An overlay takes a part of the band. -/
  overlayEnabled : Options → StateM σ Bool := fun _ => pure false
  /-- Changes the geometry once fields, width and label are bound. -/
  adjust : Options → Geometry → Attempt σ Geometry := fun _ geometry => pure geometry

/-! ## Standard factories -/

namespace Geometry

/-- The geometry that the options describe: columns from one set of options, points from another. -/
def ofOptions (kind : GeometryKind) (variant : String) (options : Options) :
    Except Failure Geometry :=
  let plain : Geometry :=
    { kind, variant
      colorField := options.string? "colorField"
      color := options.present? "color" }
  match kind with
  | .interval =>
    if variant = "main" then
      .ok { plain with
        size := options.present? "columnSize"
        style := options.present? "columnStyle"
        minWidth := options.number? "minWidth"
        maxWidth := options.number? "maxWidth" }
    else .error (.collaborator ("interval geometry has no `" ++ variant ++ "` variant"))
  | .point =>
    .ok { plain with
      size := options.present? "pointSize"
      style := options.present? "pointStyle"
      shape := some ((options.string? "shape").getD variant) }

end Geometry

/-- Wraps a label descriptor; there is no other kind of component. -/
def LabelHandle.ofDescriptor (kind : String) (descriptor : LabelDescriptor) :
    Except Failure LabelHandle :=
  if kind = "label" then .ok { component := kind, descriptor }
  else .error (.unsupportedComponent kind)

/-- Factories that read the options and wrap labels. -/
def Factories.standard {σ : Type} : Factories σ where
  geometry kind variant request := .ofExcept (Geometry.ofOptions kind variant request.options)
  component kind descriptor := .ofExcept (LabelHandle.ofDescriptor kind descriptor)

/-! ## Binding -/

namespace GeometryHooks

variable {σ : Type}

/-- The part of the band that is left to the geometry when an overlay is shown. -/
def overlayWidthRatio : Float := 2 / 5

/-- The label slot for label options that are not null. -/
def bindLabel (factories : Factories σ) (labelType : String) (label : OptionTree)
    (yField : String) : Attempt σ LabelSlot :=
  if label.bool? == some false then pure .suppressed
  else
    let position := ((label.get? "position").bind OptionTree.string?).getD ""
    match LabelDescriptor.resolve position label with
    | none => pure .suppressed
    | some descriptor =>
      .bound <$> factories.component "label" (descriptor.withDefaults [yField] labelType)

/-- Binds a geometry of the given kind and variant to the fields of the options. -/
def bindKind (hooks : GeometryHooks σ) (factories : Factories σ) (kind : GeometryKind)
    (variant : String) (options : Options) : Attempt σ Geometry := do
  let xField ← Attempt.ofExcept (options.requireString "xField")
  let yField ← Attempt.ofExcept (options.requireString "yField")
  let made ← factories.geometry kind variant { plotType := hooks.name, options }
  let overlay ← hooks.overlayEnabled options
  let label ← match options.present? "label" with
    | some label => bindLabel factories hooks.labelType label yField
    | none => pure made.label
  hooks.adjust options { made with
    positionFields := [xField, yField]
    widthRatio := if overlay then some overlayWidthRatio else made.widthRatio
    label }

/-- The engine's primitive for the plot type's own geometry. -/
def engineKind (hooks : GeometryHooks σ) : Except Failure GeometryKind := do
  let engineName ← match hooks.names.toEngine? hooks.name with
    | some name => pure name
    | none => throw (.unknownGeometry hooks.name hooks.name)
  match GeometryKind.ofName? engineName with
  | some kind => return kind
  | none => throw (.unknownGeometry hooks.name engineName)

def bind (hooks : GeometryHooks σ) (factories : Factories σ) (options : Options) :
    Attempt σ Geometry := do
  let kind ← Attempt.ofExcept hooks.engineKind
  hooks.bindKind factories kind hooks.variant options

end GeometryHooks

structure PlotType (σ : Type) extends GeometryHooks σ where
  /-- The options of the plot type, over those of every chart. -/
  defaults : OptionTree
  eventTable : StateM σ (List EventRow) := pure []
  rules : RuleSet σ := {}
  /-- Changes the options before anything is planned. -/
  beforeInit : OptionsM σ Unit := pure ()
  scale : Options → Attempt σ ScaleSet :=
    fun options => Attempt.ofExcept (ScaleSet.cartesian options Scale.unconstrained)
  coordinate : Options → StateM σ Coordinate := fun _ => pure {}
  addGeometry : Factories σ → Options → Attempt σ Geometry :=
    fun factories options => toGeometryHooks.bind factories options
  /-- Sets up animation; switching it off altogether is not left to the plot type. -/
  animation : Options → Geometry → StateM σ Geometry := fun _ geometry => pure geometry
  attachOverlay : Scene → Options → StateM σ (Option ConversionTag) := fun _ _ => pure none

end Charting
