import Charting.Proofs.Label
import Charting.Proofs.Layer.Finished
import Charting.Proofs.Plot.ColumnHistory

/-!
# Labels of columns

The last rule writes into the label option whatever it is, and what it writes makes an object of it.
So a label stays hidden only if it is an object that says so; a label that is missing, null or false
appears.
-/

namespace Charting

namespace Plot.Column

variable {v : Verdict} {options : Options}

theorem bool?_label_visible :
    options.bool? "label.visible" =
      (((options.get? "label").getD (.obj [])).get? "visible").bind OptionTree.bool? := by
  have path : options.get? "label.visible" =
      ((options.get? "label").getD (.obj [])).get? "visible" :=
    Options.get?_of_keys rfl rfl rfl
  rw [Options.bool?, path]

/-- The label of the columns once the rules have written into its options. -/
theorem slotOf_writeVerdict_cases
    (keyed : ∀ label, options.get? "label" = some label → Entries.WellKeyed label.fields) :
    (options.bool? "label.visible" = some false ∧
      slotOf (writeVerdict v options) = .suppressed) ∨
    (options.bool? "label.visible" ≠ some false ∧
      ∃ handle, slotOf (writeVerdict v options) = .bound handle) := by
  let label := (options.get? "label").getD (.obj [])
  have keyed : Entries.WellKeyed label.fields := by
    cases given : options.get? "label" with
    | none => simp [label, given, Entries.WellKeyed, Entries.keys]
    | some t => simpa [label, given] using keyed t given
  rw [bool?_label_visible, slotOf_writeVerdict]
  simp only
  generalize (((move v.moved label).get? "position").bind OptionTree.string?).getD "" = position
  obtain ⟨extra, moved⟩ := resolve_move position v.moved label
  rw [moved]
  cases resolved : LabelDescriptor.resolve position label with
  | none => exact .inl ⟨(LabelDescriptor.resolve_eq_none_iff keyed).mp resolved, rfl⟩
  | some descriptor =>
      refine .inr ⟨fun hidden => ?_, _, rfl⟩
      rw [(LabelDescriptor.resolve_eq_none_iff keyed).mpr hidden] at resolved
      cases resolved

/-- What a new chart has in the place of an object of the defaults: that, or the caller's merged
with it. -/
theorem default_wellKeyed {user value : OptionTree} {key : String} {own : OptionMap}
    (resolved : Options.resolve .baseDefaults defaults user = .ok options)
    (keyed : Entries.WellKeyed user.fields) (alone : OptionTree.segments key = [key])
    (before : Entries.get?
      (((OptionTree.obj []).mergeObject .baseDefaults).mergeObject defaults).fields key =
        some (.obj own))
    (keyed' : Entries.WellKeyed own) (given : options.get? key = some value) :
    Entries.WellKeyed value.fields := by
  rw [Options.resolve] at resolved
  split at resolved
  · cases resolved
    let known := ((OptionTree.obj []).mergeObject .baseDefaults).mergeObject defaults
    have merged : known.mergeObject user =
        .obj (OptionTree.mergeFields known.fields user.fields) :=
      OptionTree.mergeObject_obj user
    rw [Options.get?_of_key alone] at given
    change (known.mergeObject user).get? key = some value at given
    rw [merged, OptionTree.get?, OptionTree.fields_obj, OptionTree.get?_mergeFields keyed,
      before] at given
    cases h : Entries.get? user.fields key with
    | none =>
        rw [h] at given
        cases given
        exact keyed'
    | some above =>
        rw [h] at given
        cases given
        cases above with
        | obj fields => exact OptionTree.wellKeyed_mergeFields keyed'
        | _ => exact List.nodup_nil
  · cases resolved

theorem label_wellKeyed {user label : OptionTree}
    (resolved : Options.resolve .baseDefaults defaults user = .ok options)
    (keyed : Entries.WellKeyed user.fields) (given : options.get? "label" = some label) :
    Entries.WellKeyed label.fields := by
  let own : OptionMap :=
    [("visible", .bool false), ("position", .str "top"), ("adjustColor", .bool true)]
  have before : Entries.get?
      (((OptionTree.obj []).mergeObject .baseDefaults).mergeObject defaults).fields "label" =
        some (.obj own) := rfl
  have keyed' : Entries.WellKeyed own := by
    rw [Entries.WellKeyed]
    decide
  exact default_wellKeyed resolved keyed rfl before keyed' given

variable {σ : Type}

/--
With the rules switched on, a label is hidden after every drawing if it was hidden at first by an
object, and it is there after every drawing if not. The caller's options have no key twice.
-/
theorem label_of_drawn {invoke : Invoke σ} {renderer : Plan → Attempt σ Scene}
    {description : Description} {start l l' : Layer} {op : Operation} {w w' : σ}
    (created : Layer.create (plot invoke) description = .ok start)
    (faithful : Collaborators.Faithful { plot := plot invoke, renderer })
    (on : start.options.isResponsive = true)
    (keyed : Entries.WellKeyed description.options.fields)
    (reached : Layer.Reachable { plot := plot invoke, renderer } start l)
    (draws : op.draws l = true)
    (run : (op.perform { plot := plot invoke, renderer }).exec l w = ((.ok (), l'), w')) :
    ∃ geometry scene, l'.geometry = some geometry ∧ l'.scene = some scene ∧
      (start.options.bool? "label.visible" = some false →
        geometry.label = .suppressed ∧ scene.labels = []) ∧
      (start.options.bool? "label.visible" ≠ some false →
        ∃ handle, geometry.label = .bound handle) := by
  obtain ⟨valid, options, resolved, rfl⟩ := Layer.create_eq_ok.mp created
  obtain ⟨-, first, final, scene, -, settled, planned, drawn, eq⟩ :=
    reached.finishes (lawful options) (describes invoke renderer options) faithful valid rfl rfl
      draws run
  obtain rfl := Layout.eq_scene_of_draw drawn
  let fitted := writeTicks l'.viewport.height options
  have same : Options.SameBut ["yAxis"] fitted options := writeTicks_sameBut _ _
  have written : l'.options =
      writeVerdict ((behaviour options).judge l'.data (Layout.scene first)) fitted := by
    rw [settled]
    simp only [behaviour, fitted, show options.isResponsive = true from on, ↓reduceIte]
  have slot := label_of_plan? planned
  rw [written] at slot
  have shown : fitted.bool? "label.visible" = options.bool? "label.visible" := by
    rw [Options.bool?, Options.bool?, same.get? (by decide)]
  refine ⟨final.geometry, _, by rw [eq], by rw [eq], ?_⟩
  show (options.bool? "label.visible" = some false → _) ∧
    (options.bool? "label.visible" ≠ some false → _)
  rw [← shown, slot]
  rcases slotOf_writeVerdict_cases (fun label given =>
    label_wellKeyed resolved keyed ((same.get? (by decide)).symm.trans given)) with
    ⟨hidden, suppressed⟩ | ⟨visible, bound⟩
  · refine ⟨fun _ => ⟨suppressed, ?_⟩, fun visible => absurd hidden visible⟩
    rw [Layout.scene, slot, suppressed]
    rfl
  · exact ⟨fun hidden => absurd hidden visible, fun _ => bound⟩

/-! ## A label that is switched off -/

def headless : Collaborators Layout.Headless where
  plot := plot fun _ _ => pure .null
  renderer := Layout.Headless.render

/-- One column whose label is false, and whose rules are switched on. -/
def unlabelled : Description where
  options := .obj [("xField", .str "x"), ("yField", .str "y"), ("responsive", .bool true),
    ("padding", .num 10), ("label", .bool false)]
  data := [[("x", .str "a"), ("y", .num (.int 3))]]

def newUnlabelled : Layer where
  viewport := {}
  data := unlabelled.data
  options := ⟨(((OptionTree.obj []).mergeObject .baseDefaults).mergeObject
    defaults).mergeObject unlabelled.options⟩

def drawnUnlabelled : Layer := ((Operation.render.perform headless).exec newUnlabelled {}).1.2

set_option maxRecDepth 4000 in
theorem create_newUnlabelled : Layer.create headless.plot unlabelled = .ok newUnlabelled :=
  Layer.create_eq_ok.mpr ⟨rfl, _, rfl, rfl⟩

theorem render_newUnlabelled :
    (Operation.render.perform headless).exec newUnlabelled {} =
      ((.ok (), drawnUnlabelled), ((Operation.render.perform headless).exec newUnlabelled {}).2) := by
  have outcome : ((Operation.render.perform headless).exec newUnlabelled {}).1.1 = .ok () := by
    decide +kernel
  rw [drawnUnlabelled, ← outcome]

theorem label_of_drawnUnlabelled :
    ∃ geometry scene, drawnUnlabelled.geometry = some geometry ∧
      drawnUnlabelled.scene = some scene ∧
      (newUnlabelled.options.bool? "label.visible" = some false →
        geometry.label = .suppressed ∧ scene.labels = []) ∧
      (newUnlabelled.options.bool? "label.visible" ≠ some false →
        ∃ handle, geometry.label = .bound handle) := by
  have on : newUnlabelled.options.isResponsive = true := by decide +kernel
  have keyed : Entries.WellKeyed unlabelled.options.fields := by
    rw [Entries.WellKeyed]
    decide
  exact label_of_drawn create_newUnlabelled (Layout.Headless.render_plain _).faithful on keyed .start
    rfl render_newUnlabelled

/-- The label is false, and nothing asks for one; after the first drawing there is one. -/
theorem drawnUnlabelled_labelled :
    Layer.create headless.plot unlabelled = .ok newUnlabelled ∧
      newUnlabelled.options.get? "label" = some (.bool false) ∧
      newUnlabelled.options.isResponsive = true ∧
      ((Operation.render.perform headless).exec newUnlabelled {}).1 = (.ok (), drawnUnlabelled) ∧
      (drawnUnlabelled.geometry.bind fun geometry => geometry.label.handle?).isSome = true ∧
      (drawnUnlabelled.scene.map fun scene => scene.labels.length) = some 1 := by
  refine ⟨create_newUnlabelled, rfl, ?_, ?_, ?_⟩
  · decide +kernel
  · rw [render_newUnlabelled]
  · decide +kernel

end Plot.Column

end Charting
