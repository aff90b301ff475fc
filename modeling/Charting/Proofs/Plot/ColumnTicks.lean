import Charting.Layer.Export
import Charting.Proofs.BoundFields
import Charting.Proofs.Number.Whole
import Charting.Proofs.Options.Exchange
import Charting.Proofs.Plot.ColumnLabels

/-!
# Ticks for a height

The number of ticks that fits the height is written into the options of the y axis, whatever the
caller gave there, and read back when the scales are planned. Later rules write elsewhere, and new
rows do not change the height; so a drawing always ends with the ticks of its own height.
-/

namespace Charting

variable {options : Options} {axis : OptionTree} {n : UInt32}

/-! ## From the options to the scale -/

theorem Scale.tickCount_constrain (written : axis.get? "tickCount" = some (.num n.toFloat))
    (s : Scale) : (s.constrain axis).tickCount = some n := by
  have count : (((axis.get? "tickCount").bind OptionTree.number?).bind countOfFloat?) = some n := by
    rw [written]
    exact BinaryFraction.countOfFloat?_toFloat n
  rw [Scale.constrain]
  simp only [count, Option.some_or]

/-- The y axis has the last word on the scale of the y field, the field of the x axis or not. -/
theorem ScaleSet.placed_yField (baseline : Scale) (xField yField : String)
    (given : options.get? "yAxis" = some axis) :
    ∃ s : Scale, placed options baseline xField yField yField = s.constrain axis := by
  simp only [placed, given, Option.map_some, Option.getD_some, ↓reduceIte]
  split <;> exact ⟨_, rfl⟩

namespace Plot.Column

theorem toNat_tickCount (height : UInt32) :
    (tickCount height).toNat = max 2 (min 8 (height.toNat / 40)) := by
  have greater (a b : UInt32) : (max a b).toNat = max a.toNat b.toNat := by
    change (if a ≤ b then b else a).toNat = _
    split <;> rename_i h <;> rw [UInt32.le_iff_toNat_le] at h <;> omega
  have smaller (a b : UInt32) : (min a b).toNat = min a.toNat b.toNat := by
    change (if a ≤ b then a else b).toNat = _
    split <;> rename_i h <;> rw [UInt32.le_iff_toNat_le] at h <;> omega
  rw [tickCount, greater, smaller, UInt32.toNat_div]
  rfl

/-- The verdict on a scene leaves the ticks alone. -/
theorem ticks_of_written (v : Verdict) (height : UInt32) (options : Options) :
    (writeVerdict v (writeTicks height options)).get? "yAxis.tickCount" =
      some (.num (tickCount height).toFloat) := by
  rw [get?_writeVerdict (by decide)]
  exact OptionTree.find?_put _ _ _

theorem axis_of_ticks {value : OptionTree} (h : options.get? "yAxis.tickCount" = some value) :
    ∃ axis, options.get? "yAxis" = some axis ∧ axis.get? "tickCount" = some value := by
  have read : options.get? "yAxis.tickCount" =
      ((options.get? "yAxis").getD (.obj [])).get? "tickCount" :=
    Options.get?_of_keys rfl rfl rfl
  rw [read] at h
  cases given : options.get? "yAxis" with
  | none =>
      rw [given] at h
      cases h
  | some axis =>
      rw [given] at h
      exact ⟨axis, rfl, h⟩

theorem exported_ticks {x : Float} (finite : x.isFinite = true)
    (h : options.get? "yAxis.tickCount" = some (.num x)) :
    (options.root.toJson.get? "yAxis").bind (fun axis => axis.get? "tickCount") =
      some (.ofFloat x) := by
  obtain ⟨axis, given, ticks⟩ := axis_of_ticks h
  rw [Options.get?_of_key rfl] at given
  rw [OptionTree.get?_toJson, given, Option.map_some, Option.bind_some, OptionTree.get?_toJson,
    ticks, Option.map_some, OptionTree.toJson, if_pos finite]

variable {σ : Type}

/--
With the rules switched on, every drawing ends with the ticks of the height that the layer has then:
in the scale of the y field, in the options and in what is exported of them.
-/
theorem ticks_of_drawn {invoke : Invoke σ} {renderer : Plan → Attempt σ Scene}
    {description : Description} {start l l' : Layer} {op : Operation} {w w' : σ}
    (created : Layer.create (plot invoke) description = .ok start)
    (faithful : Collaborators.Faithful { plot := plot invoke, renderer })
    (on : start.options.isResponsive = true)
    (reached : Layer.Reachable { plot := plot invoke, renderer } start l)
    (draws : op.draws l = true)
    (run : (op.perform { plot := plot invoke, renderer }).exec l w = ((.ok (), l'), w')) :
    ∃ yField scale n x b,
      l'.options.string? "yField" = some yField ∧
      Entries.get? l'.scales yField = some scale ∧ scale.tickCount = some n ∧
      n.toNat = max 2 (min 8 (l'.viewport.height.toNat / 40)) ∧
      l'.options.get? "yAxis.tickCount" = some (.num x) ∧
      BinaryFraction.ofFloat? x = some b ∧ b.value = n.toNat ∧
      (((l'.planJson "column").get? "options").bind fun options => options.get? "yAxis").bind
        (fun axis => axis.get? "tickCount") = some (.ofFloat x) := by
  obtain ⟨valid, options, -, rfl⟩ := Layer.create_eq_ok.mp created
  obtain ⟨-, first, final, scene, -, settled, planned, -, eq⟩ :=
    reached.finishes (lawful options) (describes invoke renderer options) faithful valid rfl rfl
      draws run
  let n := tickCount l'.viewport.height
  -- finished options are the first ones with the ticks of this height and a verdict over them
  have written : l'.options.get? "yAxis.tickCount" = some (.num n.toFloat) := by
    rw [settled]
    simp only [behaviour, show options.isResponsive = true from on, ↓reduceIte]
    exact ticks_of_written _ _ _
  obtain ⟨axis, given, ticks⟩ := axis_of_ticks written
  obtain ⟨scales, geometry, resolved, -, plan⟩ := Behaviour.plan?_eq_ok.mp planned
  obtain ⟨xField, yField, -, hy, covers⟩ := ScaleSet.covers_cartesian resolved
  obtain ⟨s, placed⟩ := ScaleSet.placed_yField (.ofKind .cat) xField yField given
  have held : l'.scales = scales := by rw [eq, plan]
  obtain ⟨b, exact, same⟩ := BinaryFraction.ofFloat?_toFloat n
  have finite : n.toFloat.isFinite = true := by
    rw [← BinaryFraction.isSome_ofFloat?, exact]
    rfl
  refine ⟨yField, s.constrain axis, n, n.toFloat, b, hy, ?_, ?_, ?_, written, exact, same, ?_⟩
  · rw [held, covers.positional yField (by simp), placed]
  · exact Scale.tickCount_constrain ticks s
  · exact toNat_tickCount _
  · exact exported_ticks finite written

/-! ## An axis that is no object -/

/-- A column of one field on both axes, with a text in the place of its y axis. -/
def untitled : Description where
  options := .obj [("xField", .str "v"), ("yField", .str "v"), ("responsive", .bool true),
    ("padding", .num 10), ("yAxis", .str "none")]
  data := [[("v", .num (.int 3))]]
  viewport := { height := 239 }

def newUntitled : Layer where
  viewport := untitled.viewport
  data := untitled.data
  options := ⟨(((OptionTree.obj []).mergeObject .baseDefaults).mergeObject
    defaults).mergeObject untitled.options⟩

def drawnUntitled : Layer := ((Operation.render.perform headless).exec newUntitled {}).1.2

set_option maxRecDepth 4000 in
theorem create_newUntitled : Layer.create headless.plot untitled = .ok newUntitled :=
  Layer.create_eq_ok.mpr ⟨rfl, _, rfl, rfl⟩

/-- A height of 239 pixels has five ticks, of which the caller's axis knew nothing. -/
theorem ticks_of_drawnUntitled :
    (newUntitled.options.get? "yAxis").bind OptionTree.string? = some "none" ∧
      ∃ yField scale n, drawnUntitled.options.string? "yField" = some yField ∧
        Entries.get? drawnUntitled.scales yField = some scale ∧ scale.tickCount = some n ∧
        n.toNat = 5 := by
  have on : newUntitled.options.isResponsive = true := by decide +kernel
  have outcome : ((Operation.render.perform headless).exec newUntitled {}).1.1 = .ok () := by
    decide +kernel
  have run : (Operation.render.perform headless).exec newUntitled {} =
      ((.ok (), drawnUntitled), ((Operation.render.perform headless).exec newUntitled {}).2) :=
    LayerM.exec_of_outcome outcome
  have height : drawnUntitled.viewport.height = 239 := by decide +kernel
  obtain ⟨yField, scale, n, -, -, hy, held, count, fits, -⟩ := ticks_of_drawn create_newUntitled
    (Layout.Headless.render_plain _).faithful on .start rfl run
  rw [height] at fits
  exact ⟨rfl, yField, scale, n, hy, held, count, fits⟩

end Plot.Column

end Charting
