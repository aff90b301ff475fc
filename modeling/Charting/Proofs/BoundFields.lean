import Charting.Proofs.Registry
import Charting.Proofs.Scale

/-!
# Scales of the fields of a chart

Planning reads the fields of a chart twice, for its scales and for its geometry. Both come to the
same fields: there is a scale for each of them and no other, and a chart that lacks one of the two
fields of its axes has neither scales nor geometry.
-/

namespace Charting

namespace ScaleSet

variable {options : Options} {baseline : Scale} {scales : ScaleSet} {xField yField : String}
  {color : Option String}

/--
The scale of a field on the axes. The x field starts from the baseline and the y field from nothing,
and a field in both places obeys both axes.
-/
def placed (options : Options) (baseline : Scale) (xField yField field : String) : Scale :=
  let along (axis : String) (s : Scale) : Scale := ((options.get? axis).map s.constrain).getD s
  if field = xField then
    if field = yField then along "yAxis" (along "xAxis" baseline) else along "xAxis" baseline
  else along "yAxis" .unconstrained

/-- The scales are those of the fields on the axes and of the color field, each of them once. -/
structure Covers (scales : ScaleSet) (options : Options) (baseline : Scale)
    (xField yField : String) (color : Option String) : Prop where
  wellKeyed : Entries.WellKeyed scales
  keys : Entries.keys scales = ([xField, yField] ++ color.toList).eraseDups
  positional : ∀ field ∈ [xField, yField],
    Entries.get? scales field = some (placed options baseline xField yField field)
  /-- No axis has a say in the scale of a color that is not on the axes. -/
  colored : ∀ field, color = some field → field ∉ [xField, yField] →
    Entries.get? scales field = some (.ofKind .cat)

theorem constrain_axis {f : ScaleField} {axis : String} (h : f.axis = some axis) (s : Scale) :
    f.constrain options s = ((options.get? axis).map s.constrain).getD s := by
  rw [ScaleField.constrain, h, Option.bind_some]
  cases options.get? axis <;> rfl

theorem foldl_constrain_of_unmoved {fields : List ScaleField}
    (unmoved : ∀ f ∈ fields, f.axis = none) (s : Scale) :
    fields.foldl (fun s f => f.constrain options s) s = s := by
  induction fields with
  | nil => rfl
  | cons f rest ih =>
      obtain ⟨first, others⟩ := List.forall_mem_cons.mp unmoved
      rw [List.foldl_cons, ScaleField.constrain, first]
      exact ih others

/-- The fields of a chart on two axes, in the order in which they are named. -/
def charted (baseline : Scale) (xField yField : String) (color : Option String) :
    List ScaleField :=
  { field := xField, baseline, axis := some "xAxis" } ::
    { field := yField, baseline := .unconstrained, axis := some "yAxis" } ::
    (color.map fun field => { field, baseline := .ofKind .cat }).toList

theorem cartesian_eq_ok :
    cartesian options baseline = .ok scales ↔
      ∃ xField yField, options.string? "xField" = some xField ∧
        options.string? "yField" = some yField ∧
        scales = resolve (charted baseline xField yField (options.string? "colorField")) options := by
  simp only [cartesian, Outcome.bind_eq_ok, Outcome.pure_eq_ok, Options.requireString_eq_ok,
    exists_and_left]
  rfl

theorem filter_charted (baseline : Scale) (xField yField : String) (color : Option String)
    (field : String) :
    (charted baseline xField yField color).filter (fun f => f.field == field) =
      (if field = xField then [{ field, baseline, axis := some "xAxis" }] else []) ++
      (if field = yField then
        [{ field, baseline := .unconstrained, axis := some "yAxis" }] else []) ++
      (if color = some field then [{ field, baseline := .ofKind .cat }] else []) := by
  simp only [charted, List.filter_cons, beq_iff_eq, eq_comm (a := field)]
  cases color with
  | none => split <;> split <;> simp_all
  | some c =>
      by_cases hc : c = field <;> split <;> split <;> simp_all

/-- A field on the axes is the one of its first axis, whatever its color says. -/
theorem get?_charted {color : Option String} {field : String}
    (among : field ∈ [xField, yField]) (options : Options) :
    Entries.get? (resolve (charted baseline xField yField color) options) field =
      some (placed options baseline xField yField field) := by
  -- the color has no axis, so that it leaves the scale of a field on the axes alone
  obtain ⟨colored, named, unmoved⟩ : ∃ colored,
      (charted baseline xField yField color).filter (fun f => f.field == field) =
        (if field = xField then [{ field, baseline, axis := some "xAxis" }] else []) ++
        (if field = yField then
          [{ field, baseline := .unconstrained, axis := some "yAxis" }] else []) ++ colored ∧
      ∀ f ∈ colored, f.axis = none := by
    refine ⟨_, filter_charted baseline xField yField color field, fun f among => ?_⟩
    split at among
    · rw [List.mem_singleton.mp among]
    · cases among
  by_cases hx : field = xField
  · by_cases hy : field = yField
    · rw [if_pos hx, if_pos hy, List.cons_append, List.cons_append, List.nil_append,
        List.cons_append, List.nil_append] at named
      rw [get?_resolve named, List.foldl_cons, List.foldl_cons,
        foldl_constrain_of_unmoved unmoved, constrain_axis rfl, constrain_axis rfl, placed,
        if_pos hx, if_pos hy]
    · rw [if_pos hx, if_neg hy, List.append_nil, List.cons_append, List.nil_append] at named
      rw [get?_resolve named, List.foldl_cons, foldl_constrain_of_unmoved unmoved,
        constrain_axis rfl, placed, if_pos hx, if_neg hy]
  · have hy : field = yField := by simpa [hx] using among
    rw [if_neg hx, if_pos hy, List.nil_append, List.cons_append, List.nil_append] at named
    rw [get?_resolve named, List.foldl_cons, foldl_constrain_of_unmoved unmoved,
      constrain_axis rfl, placed, if_neg hx]

theorem get?_charted_color {field : String} (apart : field ∉ [xField, yField])
    (options : Options) :
    Entries.get? (resolve (charted baseline xField yField (some field)) options) field =
      some (.ofKind .cat) := by
  have named := filter_charted baseline xField yField (some field) field
  simp only [List.mem_cons, List.not_mem_nil, or_false, not_or] at apart
  rw [if_neg apart.1, if_neg apart.2, if_pos rfl] at named
  rw [get?_resolve named]
  rfl

theorem covers_cartesian (h : cartesian options baseline = .ok scales) :
    ∃ xField yField, options.string? "xField" = some xField ∧
      options.string? "yField" = some yField ∧
      scales.Covers options baseline xField yField (options.string? "colorField") := by
  obtain ⟨xField, yField, hx, hy, rfl⟩ := cartesian_eq_ok.mp h
  refine ⟨xField, yField, hx, hy, wellKeyed_resolve _ _, ?_, fun field among => ?_, ?_⟩
  · rw [keys_resolve]
    cases options.string? "colorField" <;> rfl
  · exact get?_charted among options
  · intro field colored apart
    rw [colored]
    exact get?_charted_color apart options

theorem cartesian_eq_error {e : Failure} (h : cartesian options baseline = .error e) :
    options.string? "xField" = none ∧ e = .missingOption "xField" ∨
      options.string? "xField" ≠ none ∧ options.string? "yField" = none ∧
        e = .missingOption "yField" := by
  simp only [cartesian, Outcome.bind_eq_error, Options.requireString_eq_error,
    Options.requireString_eq_ok, Outcome.pure_ne_error, and_false, exists_false, or_false] at h
  rcases h with x | ⟨xField, hx, y⟩
  · exact .inl x
  · exact .inr ⟨by simp [hx], y⟩

end ScaleSet

/-! ## Planning -/

/-- A chart on two axes: its scales start from a baseline, and its geometry is always bound. -/
structure Behaviour.OnAxes {κ : Type} (b : Behaviour κ) (baseline : Scale) : Prop where
  scale : ∀ options, b.scale options = ScaleSet.cartesian options baseline
  geometry : ∀ {options xField yField}, options.string? "xField" = some xField →
    options.string? "yField" = some yField →
      ∃ made, b.geometry options = .ok made ∧ made.positionFields = [xField, yField] ∧
        made.colorField = options.string? "colorField"

theorem Plot.Column.onAxes (start : Options) : (behaviour start).OnAxes (.ofKind .cat) where
  scale _ := rfl
  geometry {options _ _} hx hy := by
    refine ⟨_, Geometry.ofChart_eq_ok.mpr ⟨_, _, _, hx, hy, rfl, rfl⟩, ?_⟩
    rw [adjust]
    cases (options.string? "type").filter shapes.contains <;> exact ⟨rfl, rfl⟩

theorem Plot.Scatter.onAxes : behaviour.OnAxes .unconstrained where
  scale _ := rfl
  geometry {options _ _} hx hy := by
    have bound : Geometry.ofChart .point "circle" "pointLabel" (fun _ => false)
        (fun _ made => made) options = .ok _ :=
      Geometry.ofChart_eq_ok.mpr ⟨_, _, _, hx, hy, rfl, rfl⟩
    exact ⟨_, bound, rfl, rfl⟩

namespace Layer

variable {κ σ : Type} {b : Behaviour κ} {start : Options} {table : List EventRow}
  {c : Collaborators σ} {l l' : Layer} {w w' : σ} {baseline : Scale}

theorem fields_silence (options : Options) (geometry : Geometry) :
    (silence options geometry).positionFields = geometry.positionFields ∧
      (silence options geometry).colorField = geometry.colorField := by
  rw [silence]
  split <;> exact ⟨rfl, rfl⟩

/-- A chart on two axes is planned unless it lacks one of its fields, of which the x field is looked
for first. -/
theorem Compiles.lacks {e : Failure} (desc : b.Describes start table c) (axes : b.OnAxes baseline)
    (h : Compiles c l w (.error e) l' w') :
    l.options.string? "xField" = none ∧ e = .missingOption "xField" ∨
      l.options.string? "xField" ≠ none ∧ l.options.string? "yField" = none ∧
        e = .missingOption "yField" := by
  have unplanned := h.no_plan desc l.viewport l.data
  simp only [Behaviour.plan?, axes.scale, Outcome.bind_eq_error, Outcome.pure_ne_error, and_false,
    exists_false, or_false] at unplanned
  rcases unplanned with unscaled | ⟨scales, scaled, unbound⟩
  · exact ScaleSet.cartesian_eq_error unscaled
  · obtain ⟨xField, yField, hx, hy, -⟩ := ScaleSet.covers_cartesian scaled
    obtain ⟨made, bound, -⟩ := axes.geometry hx hy
    cases bound.symm.trans unbound

theorem Compiles.covers (desc : b.Describes start table c) (axes : b.OnAxes baseline)
    (h : Compiles c l w (.ok ()) l' w') :
    ∃ xField yField geometry, l.options.string? "xField" = some xField ∧
      l.options.string? "yField" = some yField ∧ l'.geometry = some geometry ∧
      geometry.positionFields = [xField, yField] ∧
      l'.scales.Covers l.options baseline xField yField geometry.colorField := by
  obtain ⟨-, geometry, bound, planned⟩ := h.plans desc
  obtain ⟨scales, made, scaled, made_ok, plan⟩ := Behaviour.plan?_eq_ok.mp planned
  rw [h.options] at scaled made_ok plan
  rw [axes.scale] at scaled
  obtain ⟨xField, yField, hx, hy, covers⟩ := ScaleSet.covers_cartesian scaled
  obtain ⟨made', again, position, color⟩ := axes.geometry hx hy
  obtain rfl := Except.ok.inj (again.symm.trans made_ok)
  have silenced : geometry = silence l.options made' := congrArg Plan.geometry plan
  have same : l'.scales = scales := congrArg Plan.scales plan
  obtain ⟨position', color'⟩ := fields_silence l.options made'
  refine ⟨xField, yField, geometry, hx, hy, bound, ?_, ?_⟩
  · rw [silenced, position', position]
  · rw [same, silenced, color', color]
    exact covers

theorem planned_or_lacks (desc : b.Describes start table c) (axes : b.OnAxes baseline) (l : Layer)
    (w : σ) :
    let after := (compile c).exec l w
    ((∃ e, after.1.1 = .error e) ↔
      l.options.string? "xField" = none ∨ l.options.string? "yField" = none) ∧
    (∀ e, after.1.1 = .error e →
      e = .missingOption (if l.options.string? "xField" = none then "xField" else "yField")) ∧
    (after.1.1 = .ok () → ∃ xField yField geometry,
      l.options.string? "xField" = some xField ∧ l.options.string? "yField" = some yField ∧
      after.1.2.geometry = some geometry ∧ geometry.positionFields = [xField, yField] ∧
      after.1.2.scales.Covers l.options baseline xField yField geometry.colorField) := by
  rcases run : (compile c).exec l w with ⟨⟨r, l'⟩, w'⟩
  have exits := Compiles.of_exec run
  cases r with
  | error e =>
      rcases exits.lacks desc axes with ⟨hx, rfl⟩ | ⟨hx, hy, rfl⟩
      · simp [hx]
      · simp [hx, hy]
  | ok _ =>
      obtain ⟨xField, yField, geometry, hx, hy, covered⟩ := exits.covers desc axes
      refine ⟨by simp [hx, hy], nofun, fun _ => ⟨xField, yField, geometry, hx, hy, covered⟩⟩

end Layer

namespace Registry

variable {σ : Type} {invoke : Invoke σ} {name : String} {plot : PlotType σ}

/--
Planning a built-in plot fails for the lack of a field alone. If it does not fail, the scales are
those of the fields to which the geometry is bound, with nothing left out and nothing added.
-/
theorem scales_of_compile (found : (builtin invoke).get? name = some plot)
    (renderer : Plan → Attempt σ Scene) (l : Layer) (w : σ) :
    let after := (Layer.compile { plot, renderer }).exec l w
    ((∃ e, after.1.1 = .error e) ↔
      l.options.string? "xField" = none ∨ l.options.string? "yField" = none) ∧
    (∀ e, after.1.1 = .error e →
      e = .missingOption (if l.options.string? "xField" = none then "xField" else "yField")) ∧
    (after.1.1 = .ok () → ∃ xField yField geometry,
      l.options.string? "xField" = some xField ∧ l.options.string? "yField" = some yField ∧
      after.1.2.geometry = some geometry ∧ geometry.positionFields = [xField, yField] ∧
      after.1.2.scales.Covers l.options
        (if name = "column" then .ofKind .cat else .unconstrained)
        xField yField geometry.colorField) := by
  rcases get?_builtin found with ⟨rfl, rfl⟩ | ⟨rfl, rfl⟩
  · exact Layer.planned_or_lacks (Plot.Column.describes invoke renderer l.options)
      (Plot.Column.onAxes l.options) l w
  · exact Layer.planned_or_lacks (Plot.Scatter.describes renderer l.options)
      Plot.Scatter.onAxes l w

/-- Points that are colored by the field of their x axis, whose values count as times. -/
def striped : Layer where
  viewport := {}
  data := []
  options := ⟨.obj [("xField", .str "x"), ("yField", .str "y"), ("colorField", .str "x"),
    ("xAxis", .obj [("type", .str "time")])]⟩

/-- The color has no scale of its own, and is laid out as the times are. -/
theorem scales_of_compile_striped :
    let points : Collaborators Nat := { plot := Plot.Scatter.plot Nat, renderer := hesitant }
    let planned := ((Layer.compile points).exec striped 0).1
    (builtin silent).get? "scatter" = some points.plot ∧ planned.1 = .ok () ∧
      Entries.keys planned.2.scales = ["x", "y"] ∧
      Entries.get? planned.2.scales "x" = some (.ofKind .time) := by
  intro points planned
  have found : (builtin silent).get? "scatter" = some points.plot := rfl
  have outcome : planned.1 = .ok () := rfl
  obtain ⟨-, -, succeeds⟩ := scales_of_compile found hesitant striped 0
  obtain ⟨xField, yField, geometry, hx, hy, bound, -, covers⟩ := succeeds outcome
  obtain rfl : "x" = xField := Option.some.inj hx
  obtain rfl : "y" = yField := Option.some.inj hy
  have color : geometry.colorField = some "x" := by
    rw [← Option.some.inj bound]
    rfl
  rw [color] at covers
  refine ⟨found, outcome, covers.keys, ?_⟩
  rw [covers.positional "x" List.mem_cons_self]
  rfl

end Registry

end Charting
