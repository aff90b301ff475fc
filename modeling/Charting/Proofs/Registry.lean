import Charting.Proofs.Layer.Fresh
import Charting.Proofs.Plot.ColumnHistory
import Charting.Proofs.Plot.ScatterHistory
import Charting.Registry

/-!
# The built-in plots have no history

Whatever a built-in plot went through, once it is drawn it is what a new one would be. Only the
texts of its conversion tags may tell the two apart, if a function of the caller that remembers
something makes them.
-/

namespace Charting.Registry

variable {σ : Type} {registry : Registry σ} {invoke : Invoke σ} {name : String}
  {description : Description} {plot : PlotType σ} {l : Layer}

theorem create_eq_ok :
    registry.create name description = .ok (plot, l) ↔
      registry.get? name = some plot ∧ Layer.create plot description = .ok l := by
  rw [create]
  cases registry.get? name with
  | none => simp
  | some found =>
      simp only [Outcome.map_eq_ok, Prod.mk.injEq, Option.some.injEq]
      constructor
      · rintro ⟨l', made, rfl, rfl⟩
        exact ⟨rfl, made⟩
      · rintro ⟨rfl, made⟩
        exact ⟨l, made, rfl, rfl⟩

theorem get?_builtin (h : (builtin invoke).get? name = some plot) :
    name = "column" ∧ plot = Plot.Column.plot invoke ∨
      name = "scatter" ∧ plot = Plot.Scatter.plot σ := by
  simp only [get?, builtin, Entries.get?] at h
  split at h
  · rename_i column
    cases h
    exact .inl ⟨column.symm, rfl⟩
  · split at h
    · rename_i scatter
      cases h
      exact .inr ⟨scatter.symm, rfl⟩
    · cases h

/--
Any operations may come before, in any world, and any of them may fail. An operation that draws
leaves a built-in plot as the first rendering of a new one does, for the same options and for the
size and the rows that it has then. The overlays are the same too, unless a function of the caller
makes the texts of the tags, and answers the new plot differently because it is not rendered in the
world in which the operation attached its overlay.
-/
theorem drawn_eq_new {renderer : Plan → Attempt σ Scene} {start l' : Layer} {op : Operation}
    {w w' : σ} (created : (builtin invoke).create name description = .ok (plot, start))
    (faithful : Collaborators.Faithful { plot, renderer })
    (reached : Layer.Reachable { plot, renderer } start l) (draws : op.draws l = true)
    (run : (op.perform { plot, renderer }).exec l w = ((.ok (), l'), w')) :
    ∃ plot' new,
      (builtin invoke.beside).create name
        { description with viewport := l'.viewport, data := l'.data } = .ok (plot', new) ∧
      ∀ counts w₁, ∃ fresh x,
        (Layer.render { plot := plot', renderer := Layout.Headless.beside }).exec new
          (counts, w₁) = ((.ok (), fresh), x) ∧
        fresh = { l' with overlay := fresh.overlay } ∧
        (name = "scatter" ∨ (∀ f ∈ Plot.Column.tagFormatter? l'.options, invoke.Steady f) ∨
          w₁ = op.overlayWorld { plot, renderer } l w → fresh = l') := by
  obtain ⟨found, made⟩ := create_eq_ok.mp created
  obtain ⟨valid, options, resolved, rfl⟩ := Layer.create_eq_ok.mp made
  rcases get?_builtin found with ⟨rfl, rfl⟩ | ⟨rfl, rfl⟩
  · obtain ⟨valid', rendered⟩ := reached.eq_new (Plot.Column.lawful options)
      (Plot.Column.describes invoke renderer options)
      (Plot.Column.describes invoke.beside Layout.Headless.beside options) ⟨rfl, rfl⟩
      (fun scene _ => Plot.Column.attachOverlay_alike invoke.beside_alike scene) faithful valid
      draws run
    refine ⟨_, _, create_eq_ok.mpr ⟨rfl, Layer.create_eq_ok.mpr ⟨valid', options, resolved, rfl⟩⟩,
      fun counts w₁ => ?_⟩
    obtain ⟨fresh, x, drawn, kept, same⟩ := rendered (counts, w₁)
    exact ⟨fresh, x, drawn, kept, fun known => same (known.resolve_left (by decide))⟩
  · have bare : ∀ scene options, Alike (invoke.Knows none)
        ((Plot.Scatter.plot σ).attachOverlay scene options)
        ((Plot.Scatter.plot (Layout.Headless × σ)).attachOverlay scene options) :=
      fun _ _ => alike_pure none
    obtain ⟨valid', rendered⟩ := reached.eq_new (Plot.Scatter.lawful options)
      (Plot.Scatter.describes renderer options)
      (Plot.Scatter.describes Layout.Headless.beside options) ⟨rfl, rfl⟩ bare faithful valid
      draws run
    refine ⟨_, _, create_eq_ok.mpr ⟨rfl, Layer.create_eq_ok.mpr ⟨valid', options, resolved, rfl⟩⟩,
      fun counts w₁ => ?_⟩
    obtain ⟨fresh, x, drawn, kept, same⟩ := rendered (counts, w₁)
    exact ⟨fresh, x, drawn, kept, fun _ => same (.inl (by simp))⟩

/-! ## A drawing after a failure -/

/-- The headless renderer, except that its first call fails; the world counts the calls. -/
def hesitant (plan : Plan) : Attempt Nat Scene := ExceptT.mk fun calls =>
  (if calls = 0 then .error (.collaborator "transient") else Layout.draw plan, calls + 1)

theorem hesitant_faithful (plot : PlotType Nat) :
    Collaborators.Faithful { plot, renderer := hesitant } := by
  intro plan calls scene calls' answer
  have split := congrArg Prod.fst answer
  change (if calls = 0 then .error (.collaborator "transient") else Layout.draw plan) =
    Except.ok scene at split
  split at split
  · cases split
  · exact split

/-- Functions that have no answer to give. -/
def silent : Invoke Nat := fun _ _ => pure .null

def hesitantColumns : Collaborators Nat where
  plot := Plot.Column.plot silent
  renderer := hesitant

/-- Two columns with labels and conversion tags, whose rules are switched on. -/
def twoColumns : Description where
  options := .obj [("xField", .str "x"), ("yField", .str "y"), ("responsive", .bool true),
    ("padding", .num 10), ("label", .bool true), ("conversionTag", .shown true)]
  data := [[("x", .str "a"), ("y", .num (.int 3))], [("x", .str "b"), ("y", .num (.int 5))]]

def newColumns : Layer where
  viewport := {}
  data := twoColumns.data
  options := ⟨(((OptionTree.obj []).mergeObject .baseDefaults).mergeObject
    Plot.Column.defaults).mergeObject twoColumns.options⟩

/-- The columns after a rendering, which fails. -/
def undrawnColumns : Layer := ((Operation.render.perform hesitantColumns).exec newColumns 0).1.2

def smaller : Viewport := { width := 200, height := 100 }

/-- The columns after they have been given the smaller size. -/
def drawnColumns : Layer :=
  (((Operation.resize smaller).perform hesitantColumns).exec undrawnColumns 1).1.2

set_option maxRecDepth 4000 in
theorem create_newColumns : (builtin silent).create "column" twoColumns =
    .ok (Plot.Column.plot silent, newColumns) :=
  create_eq_ok.mpr ⟨rfl, Layer.create_eq_ok.mpr ⟨rfl, _, rfl, rfl⟩⟩

set_option maxRecDepth 4000 in
theorem drawn_eq_new_columns :
    ∃ plot' new,
      (builtin silent.beside).create "column"
        { twoColumns with viewport := drawnColumns.viewport, data := drawnColumns.data } =
          .ok (plot', new) ∧
      ∀ counts w₁, ∃ x,
        (Layer.render { plot := plot', renderer := Layout.Headless.beside }).exec new
          (counts, w₁) = ((.ok (), drawnColumns), x) := by
  have failed : ((Operation.render.perform hesitantColumns).exec newColumns 0).1.1 =
      .error (.collaborator "transient") := by
    decide +kernel
  have outcome :
      (((Operation.resize smaller).perform hesitantColumns).exec undrawnColumns 1).1.1 = .ok () := by
    decide +kernel
  have drawn : ((Operation.resize smaller).perform hesitantColumns).exec undrawnColumns 1 =
      ((.ok (), drawnColumns),
        (((Operation.resize smaller).perform hesitantColumns).exec undrawnColumns 1).2) := by
    rw [drawnColumns, ← outcome]
  have reached : Layer.Reachable hesitantColumns newColumns undrawnColumns :=
    .perform .start (LayerM.exec_of_outcome failed)
  obtain ⟨plot', new, made, rendered⟩ :=
    drawn_eq_new create_newColumns (hesitant_faithful _) reached rfl drawn
  refine ⟨plot', new, made, fun counts w₁ => ?_⟩
  obtain ⟨fresh, x, run, -, same⟩ := rendered counts w₁
  rw [same (.inr (.inl fun _ _ _ _ _ => rfl))] at run
  exact ⟨x, run⟩

/-! ## Texts that depend on the past -/

/-- A function of the caller that counts its calls. -/
def counting : Invoke Nat := fun _ _ calls => (.str (toString (calls + 1)), calls + 1)

/-- Columns that are drawn without a canvas, beside the number of calls. -/
def countingColumns : Collaborators (Layout.Headless × Nat) where
  plot := Plot.Column.plot counting.beside
  renderer := Layout.Headless.beside

/-- Two columns with a conversion tag between them, whose text is made by a function. -/
def countedTags (viewport : Viewport) : Description where
  options := .obj [("xField", .str "x"), ("yField", .str "y"),
    ("conversionTag", .shown true [("value", .obj [("formatter", .fn ⟨0⟩)])])]
  data := twoColumns.data
  viewport

def newCounted (viewport : Viewport) : Layer where
  viewport
  data := twoColumns.data
  options := ⟨(((OptionTree.obj []).mergeObject .baseDefaults).mergeObject
    Plot.Column.defaults).mergeObject (countedTags viewport).options⟩

/-- The columns after they have been rendered and given the smaller size. -/
def resizedCounted : (Except Failure Unit × Layer) × (Layout.Headless × Nat) :=
  LayerM.exec (do Layer.render countingColumns; Layer.resize countingColumns smaller)
    (newCounted {}) ({}, 0)

/-- New columns of the smaller size, rendered after some calls. -/
def freshCounted (calls : Nat) : (Except Failure Unit × Layer) × (Layout.Headless × Nat) :=
  (Layer.render countingColumns).exec (newCounted smaller) ({}, calls)

def tagTexts (l : Layer) : List (Option String) :=
  (l.overlay.map fun tag => tag.items.map TagItem.text).getD []

set_option maxRecDepth 4000 in
theorem create_counted {viewport : Viewport} (valid : viewport.isValid = true) :
    (builtin counting.beside).create "column" (countedTags viewport) =
      .ok (countingColumns.plot, newCounted viewport) :=
  create_eq_ok.mpr ⟨rfl, Layer.create_eq_ok.mpr ⟨valid, _, rfl, rfl⟩⟩

theorem overlay_ne {l l' : Layer} (told : tagTexts l ≠ tagTexts l') : l.overlay ≠ l'.overlay :=
  fun same => told (by rw [tagTexts, tagTexts, same])

theorem texts_resizedCounted :
    resizedCounted.1.1 = .ok () ∧ resizedCounted.1.2.viewport = smaller ∧
      tagTexts resizedCounted.1.2 = [some "2"] :=
  ⟨by decide +kernel, by decide +kernel, by decide +kernel⟩

theorem texts_freshCounted {calls : Nat} (known : calls = 0 ∨ calls = 2) :
    (freshCounted calls).1.1 = .ok () ∧ tagTexts (freshCounted calls).1.2 ≠ [some "2"] := by
  rcases known with rfl | rfl
  · exact ⟨by decide +kernel, by decide +kernel⟩
  · exact ⟨by decide +kernel, by decide +kernel⟩

/--
A function that counts its calls gives the tag of a resized plot the text `2`. A new plot of that
size has another text, whether it is rendered after the resizing or in the world as it was at first.
-/
theorem counted_disagrees :
    (builtin counting.beside).create "column" (countedTags {}) =
        .ok (countingColumns.plot, newCounted {}) ∧
      (builtin counting.beside).create "column" (countedTags smaller) =
        .ok (countingColumns.plot, newCounted smaller) ∧
      resizedCounted.1.1 = .ok () ∧ resizedCounted.1.2.viewport = smaller ∧
      tagTexts resizedCounted.1.2 = [some "2"] ∧
      ∀ calls, calls = 0 ∨ calls = resizedCounted.2.2 →
        (freshCounted calls).1.1 = .ok () ∧
          (freshCounted calls).1.2.overlay ≠ resizedCounted.1.2.overlay := by
  obtain ⟨outcome, viewport, second⟩ := texts_resizedCounted
  have calls : resizedCounted.2.2 = 2 := by decide +kernel
  refine ⟨create_counted rfl, create_counted rfl, outcome, viewport, second, fun n known => ?_⟩
  rw [calls] at known
  obtain ⟨outcome, other⟩ := texts_freshCounted known
  refine ⟨outcome, overlay_ne ?_⟩
  rw [second]
  exact other

end Charting.Registry
