import Charting.PlotType
import Charting.Proofs.Failure

/-!
# What the standard factories bind

With the standard factories, and hooks that look at the options only, binding a geometry is a
function of the options.
-/

namespace Charting

/-- The label slot for the `label` option. -/
def LabelSlot.ofOptions (labelType yField : String) (options : Options) : LabelSlot :=
  match options.present? "label" with
  | none => .unset
  | some label =>
    if label.bool? == some false then .suppressed
    else
      match LabelDescriptor.resolve (((label.get? "position").bind OptionTree.string?).getD "")
        label with
      | none => .suppressed
      | some descriptor =>
        .bound { component := "label", descriptor := descriptor.withDefaults [yField] labelType }

/-- The geometry for the options, with the fields, the width and the label of the chart. -/
def Geometry.ofChart (kind : GeometryKind) (variant labelType : String)
    (overlaid : Options → Bool) (adjust : Options → Geometry → Geometry) (options : Options) :
    Except Failure Geometry := do
  let xField ← options.requireString "xField"
  let yField ← options.requireString "yField"
  let made ← Geometry.ofOptions kind variant options
  return adjust options { made with
    positionFields := [xField, yField]
    widthRatio := if overlaid options then some GeometryHooks.overlayWidthRatio else made.widthRatio
    label := .ofOptions labelType yField options }

theorem Options.requireString_eq_ok {options : Options} {path value : String} :
    options.requireString path = .ok value ↔ options.string? path = some value := by
  rw [Options.requireString]
  cases options.string? path with
  | none => exact ⟨nofun, nofun⟩
  | some s => exact ⟨fun h => by cases h; rfl, fun h => by cases h; rfl⟩

theorem Options.requireString_eq_error {options : Options} {path : String} {e : Failure} :
    options.requireString path = .error e ↔
      options.string? path = none ∧ e = .missingOption path := by
  rw [Options.requireString]
  cases options.string? path with
  | none =>
      refine ⟨fun h => ?_, fun h => by rw [h.2]⟩
      cases h
      exact ⟨rfl, rfl⟩
  | some s => exact ⟨nofun, nofun⟩

theorem Geometry.ofChart_eq_ok {kind : GeometryKind} {variant labelType : String}
    {overlaid : Options → Bool} {adjust : Options → Geometry → Geometry} {options : Options}
    {geometry : Geometry} :
    Geometry.ofChart kind variant labelType overlaid adjust options = .ok geometry ↔
      ∃ xField yField made, options.string? "xField" = some xField ∧
        options.string? "yField" = some yField ∧
        Geometry.ofOptions kind variant options = .ok made ∧
        geometry = adjust options { made with
          positionFields := [xField, yField]
          widthRatio :=
            if overlaid options then some GeometryHooks.overlayWidthRatio else made.widthRatio
          label := .ofOptions labelType yField options } := by
  simp only [Geometry.ofChart, Outcome.bind_eq_ok, Outcome.pure_eq_ok, Options.requireString_eq_ok,
    exists_and_left]

/-- A chart on two axes has scales when it names its two fields. -/
theorem ScaleSet.cartesian_ok_iff {options : Options} {baseline : Scale} :
    (∃ scales, ScaleSet.cartesian options baseline = .ok scales) ↔
      (options.string? "xField").isSome = true ∧ (options.string? "yField").isSome = true := by
  simp only [ScaleSet.cartesian, Outcome.bind_eq_ok, Outcome.pure_eq_ok,
    Options.requireString_eq_ok, Option.isSome_iff_exists]
  constructor
  · rintro ⟨scales, xField, hx, yField, hy, -⟩
    exact ⟨⟨xField, hx⟩, yField, hy⟩
  · rintro ⟨⟨xField, hx⟩, yField, hy⟩
    exact ⟨_, xField, hx, yField, hy, rfl⟩

variable {σ : Type}

/-- Neither a label nor a width nor an animation is bound with the fields. -/
theorem Geometry.bare_ofOptions {kind : GeometryKind} {variant : String} {options : Options}
    {made : Geometry} (h : Geometry.ofOptions kind variant options = .ok made) :
    made.label = .unset ∧ made.widthRatio = none ∧ made.animate = none := by
  cases kind with
  | interval =>
      rw [Geometry.ofOptions] at h
      split at h
      · cases h
        exact ⟨rfl, rfl, rfl⟩
      · cases h
  | point =>
      cases h
      exact ⟨rfl, rfl, rfl⟩

theorem bindLabel_standard (labelType yField : String) {options : Options} {label : OptionTree}
    (given : options.present? "label" = some label) :
    (GeometryHooks.bindLabel .standard labelType label yField : Attempt σ LabelSlot) =
      pure (LabelSlot.ofOptions labelType yField options) := by
  rw [LabelSlot.ofOptions, given, GeometryHooks.bindLabel]
  cases off : label.bool? == some false with
  | true => simp only [off, ↓reduceIte]
  | false =>
      simp only [off, Bool.false_eq_true, ↓reduceIte]
      cases LabelDescriptor.resolve (((label.get? "position").bind OptionTree.string?).getD "")
        label with
      | none => rfl
      | some descriptor => rfl

/-- The plot type adjusts a geometry that is a function of the options and of its own overlay. -/
theorem run_bindKind_standard (hooks : GeometryHooks σ) (kind : GeometryKind) (variant : String)
    {options : Options} {overlaid : Bool} {w w₁ : σ}
    (asked : (hooks.overlayEnabled options).run w = (overlaid, w₁)) :
    (hooks.bindKind .standard kind variant options).run.run w =
      match Geometry.ofChart kind variant hooks.labelType (fun _ => overlaid) (fun _ made => made)
        options with
      | .error e => (.error e, w)
      | .ok made => (hooks.adjust options made).run.run w₁ := by
  rw [Geometry.ofChart, GeometryHooks.bindKind]
  cases options.requireString "xField" with
  | error e => rfl
  | ok xField =>
      cases options.requireString "yField" with
      | error e => rfl
      | ok yField =>
          have standard : (Factories.standard : Factories σ).geometry kind variant
              { plotType := hooks.name, options } =
                Attempt.ofExcept (Geometry.ofOptions kind variant options) := rfl
          rw [standard]
          cases bound : Geometry.ofOptions kind variant options with
          | error e => rfl
          | ok made =>
              let adjusted (overlaid : Bool) (label : LabelSlot) : Attempt σ Geometry :=
                hooks.adjust options { made with
                  positionFields := [xField, yField]
                  widthRatio :=
                    if overlaid then some GeometryHooks.overlayWidthRatio else made.widthRatio
                  label }
              let overlay := (hooks.overlayEnabled options).run w
              let slot := LabelSlot.ofOptions hooks.labelType yField options
              show _ = (adjusted overlaid slot).run.run w₁
              cases given : options.present? "label" with
              | none =>
                  show (adjusted overlay.1 made.label).run.run overlay.2 = _
                  have unset : slot = .unset := by simp only [slot, LabelSlot.ofOptions, given]
                  rw [(Geometry.bare_ofOptions bound).1, unset]
                  simp only [overlay, asked]
              | some label =>
                  show (GeometryHooks.bindLabel .standard hooks.labelType label yField >>=
                    adjusted overlay.1).run.run overlay.2 = _
                  rw [bindLabel_standard hooks.labelType yField given]
                  simp only [overlay, asked]
                  rfl

theorem run_bindKind (hooks : GeometryHooks σ) {overlaid : Options → Bool}
    {adjust : Options → Geometry → Geometry}
    (overlays : hooks.overlayEnabled = fun options => pure (overlaid options))
    (adjusts : hooks.adjust = fun options geometry => pure (adjust options geometry))
    (kind : GeometryKind) (variant : String) (options : Options) (w : σ) :
    (hooks.bindKind .standard kind variant options).run.run w =
      (Geometry.ofChart kind variant hooks.labelType overlaid adjust options, w) := by
  have asked : (hooks.overlayEnabled options).run w = (overlaid options, w) := by
    rw [overlays]
    rfl
  rw [run_bindKind_standard hooks kind variant asked, adjusts, Geometry.ofChart, Geometry.ofChart]
  cases options.requireString "xField" with
  | error e => rfl
  | ok xField =>
      cases options.requireString "yField" with
      | error e => rfl
      | ok yField => cases Geometry.ofOptions kind variant options <;> rfl

end Charting
