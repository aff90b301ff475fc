import Charting.Proofs.Layer.Counts
import Charting.Proofs.Layer.Depiction
import Charting.Proofs.Registry

/-!
# The rows of the built-in plots

A built-in plot that is drawn without a canvas shows each of its rows once, in their order, whatever
operations came before and whichever of them failed.
-/

namespace Charting

/-! ## Placed geometries -/

theorem LabelDescriptor.head?_withDefaults (d : LabelDescriptor) (yField labelType : String) :
    ∃ field, (d.withDefaults [yField] labelType).fields.head? = some field := by
  rw [withDefaults]
  cases d.fields with
  | nil => exact ⟨yField, rfl⟩
  | cons field rest => exact ⟨field, rfl⟩

theorem LabelSlot.head?_ofOptions {labelType yField : String} {options : Options}
    {handle : LabelHandle} (h : LabelSlot.ofOptions labelType yField options = .bound handle) :
    ∃ field, handle.descriptor.fields.head? = some field := by
  rw [LabelSlot.ofOptions] at h
  split at h
  · cases h
  · split at h
    · cases h
    · split at h
      · cases h
      · cases h
        exact LabelDescriptor.head?_withDefaults _ _ _

/-- A chart is placed by its two fields, unless the plot type changes them. -/
theorem Geometry.ofChart_placed {kind : GeometryKind} {variant labelType : String}
    {overlaid : Options → Bool} {adjust : Options → Geometry → Geometry} {options : Options}
    {geometry : Geometry}
    (h : Geometry.ofChart kind variant labelType overlaid adjust options = .ok geometry)
    (keeps : ∀ made, (adjust options made).positionFields = made.positionFields ∧
      (adjust options made).label = made.label) : geometry.Placed := by
  obtain ⟨xField, yField, made, -, -, -, rfl⟩ := Geometry.ofChart_eq_ok.mp h
  constructor
  · rw [(keeps _).1]
    exact Nat.le_refl 2
  · intro handle labelled
    rw [(keeps _).2] at labelled
    exact LabelSlot.head?_ofOptions labelled

theorem Plot.Column.places (start : Options) : (behaviour start).Places := fun h =>
  Geometry.ofChart_placed h fun made => ⟨by rw [adjust]; split <;> rfl, label_adjust made⟩

theorem Plot.Scatter.places : behaviour.Places := by
  intro options geometry h
  have made : Geometry.ofChart .point "circle" "pointLabel" (fun _ => false) (fun _ made => made)
      options = .ok geometry := h
  exact Geometry.ofChart_placed made fun _ => ⟨rfl, rfl⟩

/-! ## Worlds beside the counts -/

section Beside

variable {σ : Type} (invoke : Invoke σ)

/-- The caller's functions do not see the counts. -/
theorem Invoke.beside_fixed (counts : Layout.Headless) (f : Callback) (args : List OptionTree) :
    Alike (fun w x => x = (counts, w)) (invoke f args) (invoke.beside f args) := by
  rintro w _ rfl
  exact ⟨rfl, rfl⟩

theorem Plot.Column.rules_spare {τ : Type} {part : σ → τ} :
    ∀ rule ∈ (rules σ).all, ∀ context options w,
      part (((rule.attempt context).run options).run w).2 = part w := by
  simp only [rules, List.mem_cons, List.not_mem_nil, or_false]
  rintro rule (rfl | rfl | rfl) context options w <;>
    exact Rule.attempt_ofFunction_spares _ _ _ _ _ _

theorem Plot.Column.hooksSpare (start : Options) :
    Collaborators.HooksSpare
      { plot := plot invoke.beside, renderer := Layout.Headless.beside } Prod.fst := by
  refine (describes invoke.beside Layout.Headless.beside start).hooksSpare
    (RuleSet.apply_spares rules_spare) ?_
  rintro scene options ⟨counts, w⟩
  obtain ⟨-, kept⟩ :=
    attachOverlay_alike (fun f _ => invoke.beside_fixed counts f) scene w (counts, w) rfl
  exact (congrArg Prod.fst kept :)

theorem Plot.Scatter.hooksSpare (start : Options) :
    Collaborators.HooksSpare
      { plot := plot (Layout.Headless × σ), renderer := Layout.Headless.beside } Prod.fst :=
  (describes Layout.Headless.beside start).hooksSpare
    (RuleSet.apply_spares fun _ none => by cases none) fun _ _ _ => rfl

theorem Plot.Column.ties (renderer : Plan → Attempt σ Scene) :
    Collaborators.Ties { plot := plot invoke, renderer } := by
  intro scene options tag w w' attach
  simp only [plot] at attach
  split at attach
  · exact ConversionTag.ends_attach attach
  · cases attach

theorem Plot.Scatter.ties (renderer : Plan → Attempt σ Scene) :
    Collaborators.Ties { plot := plot σ, renderer } := by
  intro scene options tag w w' attach
  cases attach

end Beside

theorem Layout.Headless.beside_faithful {σ : Type} (plot : PlotType (Layout.Headless × σ)) :
    Collaborators.Faithful { plot, renderer := Layout.Headless.beside } :=
  Collaborators.Plain.faithful fun plan x => (Layout.Headless.run_beside plan x).1

namespace Layer

/-- What a layer shows and what the renderer counts after some steps, in terms of the rows. -/
structure KeepsRows (steps : List Step) (l : Layer) (counts : Layout.Headless) : Prop where
  scene : ∀ scene, l.scene = some scene → Depicts l scene
  /-- There is one tag for each two neighbouring rows, in their order. -/
  overlay : ∀ tag, l.overlay = some tag → l.scene.isSome = true ∧
    tag.ends = (List.range (l.data.length - 1)).map fun i => (i, i + 1)
  /-- The drawings that succeeded are counted, and the last of them is measured. -/
  counts : counts = {
    renders := (drawnScenes (allCalls steps)).length
    lastElements := ((drawnScenes (allCalls steps)).getLast?.map (·.elements.length)).getD 0
    lastLabels := ((drawnScenes (allCalls steps)).getLast?.map (·.labels.length)).getD 0 }

theorem Runs.keepsRows {κ σ : Type} {b : Behaviour κ} {table : List EventRow}
    {plot : PlotType (Layout.Headless × σ)} {start l : Layer} {steps : List Step} {first : σ}
    {w : Layout.Headless × σ} (laws : b.Lawful start.options)
    (desc : b.Describes start.options table { plot, renderer := Layout.Headless.beside })
    (places : b.Places)
    (ties : Collaborators.Ties { plot, renderer := Layout.Headless.beside })
    (hooks : Collaborators.HooksSpare { plot, renderer := Layout.Headless.beside } Prod.fst)
    (valid : start.viewport.isValid = true)
    (new : start = { viewport := start.viewport, data := start.data, options := start.options })
    (run : Runs { plot, renderer := Layout.Headless.beside } start ({}, first) steps l w) :
    KeepsRows steps l w.1 := by
  have portrays := run.reachable.portrays laws desc (Layout.Headless.beside_faithful plot) valid
    (by rw [new]) (by rw [new]) (by rw [new])
  refine ⟨fun scene seen => (portrays.scene scene seen).depicts places,
    fun tag laid => portrays.overlaid places ties laid, ?_⟩
  have tallied := run.tallied hooks rfl
  rw [Layout.Headless.tally_eq] at tallied
  simpa using tallied

end Layer

namespace Registry

variable {σ : Type} {invoke : Invoke σ} {name : String} {description : Description}
  {plot : PlotType (Layout.Headless × σ)} {start l : Layer} {steps : List Step} {first : σ}
  {w : Layout.Headless × σ}

/--
No row is lost, repeated or moved. Whatever was done to a built-in plot, a scene that it holds
depicts the rows and the size that it has, an overlay ties each row to the next one, and the
renderer has counted the drawings that succeeded.
-/
theorem rows_kept (created : (builtin invoke.beside).create name description = .ok (plot, start))
    (run : Layer.Runs { plot, renderer := Layout.Headless.beside } start ({}, first) steps l w) :
    Layer.KeepsRows steps l w.1 := by
  obtain ⟨found, made⟩ := create_eq_ok.mp created
  obtain ⟨valid, options, -, rfl⟩ := Layer.create_eq_ok.mp made
  rcases get?_builtin found with ⟨-, rfl⟩ | ⟨-, rfl⟩
  · exact run.keepsRows (Plot.Column.lawful options) (Plot.Column.describes _ _ options)
      (Plot.Column.places options) (Plot.Column.ties _ _) (Plot.Column.hooksSpare invoke options)
      valid rfl
  · exact run.keepsRows (Plot.Scatter.lawful options) (Plot.Scatter.describes _ options)
      Plot.Scatter.places (Plot.Scatter.ties _) (Plot.Scatter.hooksSpare options) valid rfl

/-! ## Rows that come and go -/

/-- The columns without a canvas. -/
def countedColumns : Collaborators (Layout.Headless × Nat) where
  plot := Plot.Column.plot silent.beside
  renderer := Layout.Headless.beside

/-- What a rendering leaves of the two columns, in a world that has counted two drawings. -/
def renderedColumns : (Except Failure Unit × Layer) × (Layout.Headless × Nat) :=
  (Operation.render.perform countedColumns).exec newColumns ({}, 0)

/-- Three rows, of which the second has no value. -/
def feeding : Operation := .changeData [
  [("x", .str "a"), ("y", .num (.int 3))],
  [("x", .str "b")],
  [("x", .str "c"), ("y", .num (.int 6))]]

def fedColumns : (Except Failure Unit × Layer) × (Layout.Headless × Nat) :=
  (feeding.perform countedColumns).exec renderedColumns.1.2 renderedColumns.2

def feedingSteps : List Step :=
  [⟨.render, Operation.render.calls countedColumns newColumns ({}, 0)⟩,
    ⟨feeding, feeding.calls countedColumns renderedColumns.1.2 renderedColumns.2⟩]

theorem run_fedColumns :
    Layer.Runs countedColumns newColumns ({}, 0) feedingSteps fedColumns.1.2 fedColumns.2 := by
  have new : Layer.Runs countedColumns newColumns ({}, 0) [] newColumns ({}, 0) := .start
  have rendered := new.next .render
  rw [← renderedColumns] at rendered
  have fed := rendered.next feeding
  rw [← fedColumns] at fed
  exact fed

set_option maxRecDepth 4000 in
theorem create_countedColumns : (builtin silent.beside).create "column" twoColumns =
    .ok (countedColumns.plot, newColumns) :=
  create_eq_ok.mpr ⟨rfl, Layer.create_eq_ok.mpr ⟨rfl, _, rfl, rfl⟩⟩

theorem rows_kept_fedColumns :
    Layer.KeepsRows feedingSteps fedColumns.1.2 fedColumns.2.1 ∧
      fedColumns.1.2.scene.isSome = true ∧ fedColumns.1.2.overlay.isSome = true ∧
      fedColumns.2.1 = { renders := 3, lastElements := 3, lastLabels := 2 } := by
  exact ⟨rows_kept create_countedColumns run_fedColumns, by decide +kernel⟩

end Registry

end Charting
