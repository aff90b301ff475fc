import Charting.Layout.Headless
import Charting.Proofs.Number.Exact

/-!
# Where bars stand

In exact numbers the bars of a plan stand next to each other on the bottom edge of the canvas, each
in the band of its row and none outside, and no row with a larger value gets a lower bar. This takes
a width that stays within a band, and nothing of the range or the values.
-/

namespace Charting.Layout

open Quantity

/-! ## A bar for each row -/

section Rows

variable {α : Type} [Add α] [Sub α] [Mul α] [Div α] [LT α] [DecidableLT α] [BEq α] [Quantity α]

/-- The elements of a plan for bars: each row has the bar of its value in its own band. -/
theorem elements_eq_mapIdx (read : Float → α) {plan : Plan} {xField yField : String}
    {rest : List String} (kind : plan.geometry.kind = .interval)
    (fields : plan.geometry.positionFields = xField :: yField :: rest) :
    elements read plan = plan.data.mapIdx fun index datum =>
      { index
        datum
        box := barAt plan.viewport (barWidth read plan.geometry) (fieldRange read plan yField)
          plan.data.length index ((datum.number? yField).map read) } := by
  have drawn : boxes read plan = intervalBoxes read plan yField := by
    simp only [boxes, fields, kind]
  rw [elements, drawn, intervalBoxes, bars, List.length_map]
  refine List.ext_getElem (by simp) fun i _ _ => ?_
  simp

end Rows

/-! ## Widths and heights in exact numbers -/

/-- Whatever is said of the width of a bar leaves it within a band. -/
structure BarWidth.Fits (width : BarWidth ℚ) (band : ℚ) : Prop where
  ratio : ∀ part, width.ratio = some part → 0 ≤ part ∧ part ≤ 1
  most : ∀ limit, width.most = some limit → 0 ≤ limit
  least : ∀ limit, width.least = some limit → 0 ≤ limit ∧ limit ≤ band

theorem BarWidth.Fits.ofBand {width : BarWidth ℚ} {band : ℚ} (fits : width.Fits band)
    (room : 0 ≤ band) : 0 ≤ width.ofBand band ∧ width.ofBand band ≤ band := by
  -- the share of the band, the upper limit and then the lower one: none of them leaves the band
  have wanted : 0 ≤ band * width.ratio.getD (half (ofNat 1)) ∧
      band * width.ratio.getD (half (ofNat 1)) ≤ band := by
    have share : 0 ≤ width.ratio.getD (half (ofNat 1)) ∧ width.ratio.getD (half (ofNat 1)) ≤ 1 := by
      cases given : width.ratio with
      | none => norm_num [half_eq_div_two, ofNat_eq_cast]
      | some part => exact fits.ratio part given
    exact ⟨mul_nonneg room share.1, mul_le_of_le_one_right room share.2⟩
  rw [BarWidth.ofBand]
  generalize band * width.ratio.getD (half (ofNat 1)) = x at wanted
  have atMost : 0 ≤ (width.most.map fun most => Quantity.least x most).getD x ∧
      (width.most.map fun most => Quantity.least x most).getD x ≤ band := by
    cases given : width.most with
    | none => exact wanted
    | some limit =>
        rw [Option.map_some, Option.getD_some, least_eq_min]
        exact ⟨le_min wanted.1 (fits.most limit given), (min_le_left _ _).trans wanted.2⟩
  generalize (width.most.map fun most => Quantity.least x most).getD x = y at atMost
  cases given : width.least with
  | none => exact atMost
  | some limit =>
      obtain ⟨positive, narrow⟩ := fits.least limit given
      rw [Option.map_some, Option.getD_some, greatest_eq_max]
      exact ⟨positive.trans (le_max_right _ _), max_le atMost.2 narrow⟩

theorem fullHeightValue_pos (range : ℚ × ℚ) : 0 < fullHeightValue range := by
  rw [fullHeightValue]
  split_ifs with positive
  · exact positive
  · exact one_pos

section Height

variable {height full : ℚ} (value : Option ℚ)

theorem barHeight_eq :
    barHeight height full value = min (max (value.getD 0) 0 / full) 1 * height := by
  rw [barHeight, least_eq_min, greatest_eq_max]
  rfl

theorem barHeight_nonneg (tall : 0 ≤ height) (positive : 0 < full) :
    0 ≤ barHeight height full value := by
  rw [barHeight_eq]
  positivity

theorem barHeight_le (tall : 0 ≤ height) : barHeight height full value ≤ height := by
  rw [barHeight_eq]
  exact mul_le_of_le_one_left tall (min_le_right _ _)

theorem barHeight_mono {x y : ℚ} (le : x ≤ y) (tall : 0 ≤ height) (positive : 0 < full) :
    barHeight height full (some x) ≤ barHeight height full (some y) := by
  rw [barHeight_eq, barHeight_eq, Option.getD_some, Option.getD_some]
  gcongr

end Height

/-! ## The place of a bar -/

/-- The width of one of so many bands. -/
def bandWidth (viewport : Viewport) (count : Nat) : ℚ := viewport.width.toNat / count

section Place

variable {viewport : Viewport} {width : BarWidth ℚ} {range : ℚ × ℚ} {count i j : Nat}
  {value : Option ℚ}

theorem bandWidth_nonneg : 0 ≤ bandWidth viewport count := by
  rw [bandWidth]
  positivity

theorem bandWidth_pos (valid : viewport.isValid = true) (used : 0 < count) :
    0 < bandWidth viewport count := by
  have wide : 0 < viewport.width := by
    rw [Viewport.isValid, Bool.and_eq_true] at valid
    exact of_decide_eq_true valid.1
  have wide : (0 : ℚ) < viewport.width.toNat := Nat.cast_pos.mpr (UInt32.lt_iff_toNat_lt.mp wide)
  rw [bandWidth]
  positivity

theorem minX_barAt : (barAt viewport width range count i value).minX =
    bandWidth viewport count * (i + 1 / 2) - width.ofBand (bandWidth viewport count) / 2 := by
  simp [barAt, bandWidth, half_eq_div_two, ofNat_eq_cast]

theorem maxX_barAt : (barAt viewport width range count i value).maxX =
    bandWidth viewport count * (i + 1 / 2) + width.ofBand (bandWidth viewport count) / 2 := by
  simp [barAt, bandWidth, half_eq_div_two, ofNat_eq_cast]

theorem maxY_barAt : (barAt viewport width range count i value).maxY = viewport.height.toNat := rfl

theorem height_barAt : (barAt viewport width range count i value).height =
    barHeight (viewport.height.toNat : ℚ) (fullHeightValue range) value := sub_sub_cancel _ _

theorem barAt_in_band (fits : width.Fits (bandWidth viewport count)) (range : ℚ × ℚ) (i : Nat)
    (value : Option ℚ) :
    let box := barAt viewport width range count i value
    bandWidth viewport count * i ≤ box.minX ∧ box.minX ≤ box.maxX ∧
      box.maxX ≤ bandWidth viewport count * (i + 1) := by
  obtain ⟨nonneg, narrow⟩ := fits.ofBand bandWidth_nonneg
  intro box
  rw [minX_barAt, maxX_barAt]
  refine ⟨?_, ?_, ?_⟩ <;> linarith

theorem barAt_on_canvas (fits : width.Fits (bandWidth viewport count)) (row : i < count) :
    let box := barAt viewport width range count i value
    0 ≤ box.minX ∧ box.maxX ≤ viewport.width.toNat := by
  obtain ⟨left, -, right⟩ := barAt_in_band fits range i value
  have used : (count : ℚ) ≠ 0 := Nat.cast_ne_zero.mpr (Nat.ne_of_gt (Nat.zero_lt_of_lt row))
  have last : ((i : ℚ) + 1) ≤ count := by exact_mod_cast row
  refine ⟨(mul_nonneg bandWidth_nonneg (Nat.cast_nonneg i)).trans left, right.trans ?_⟩
  calc
    bandWidth viewport count * (i + 1) ≤ bandWidth viewport count * count :=
      mul_le_mul_of_nonneg_left last bandWidth_nonneg
    _ = viewport.width.toNat := div_mul_cancel₀ _ used

theorem barAt_from_ground :
    let box := barAt viewport width range count i value
    0 ≤ box.minY ∧ box.minY ≤ box.maxY := by
  have tall : (0 : ℚ) ≤ viewport.height.toNat := Nat.cast_nonneg _
  have nonneg := barHeight_nonneg value tall (fullHeightValue_pos range)
  have low : barHeight (viewport.height.toNat : ℚ) (fullHeightValue range) value ≤
      viewport.height.toNat := barHeight_le value tall
  exact ⟨sub_nonneg.mpr low, sub_le_self _ nonneg⟩

theorem barAt_apart {value' : Option ℚ} (fits : width.Fits (bandWidth viewport count))
    (room : 0 < bandWidth viewport count) (before : i < j) :
    let box := barAt viewport width range count i value
    let next := barAt viewport width range count j value'
    box.minX < next.minX ∧ box.maxX ≤ next.minX := by
  have step : ((i : ℚ) + 1) ≤ j := by exact_mod_cast before
  have right := (barAt_in_band fits range i value).2.2
  have left := (barAt_in_band fits range j value').1
  have bands : bandWidth viewport count * (i + 1) ≤ bandWidth viewport count * j :=
    mul_le_mul_of_nonneg_left step room.le
  refine ⟨?_, right.trans (bands.trans left)⟩
  -- bars may be of no width, so that this does not follow from the bands
  rw [minX_barAt, minX_barAt]
  linarith

end Place

/-! ## The bars of a plan -/

/--
The bars of a plan in their places: one for each row and in the order of the rows from left to
right, inside the canvas and on its bottom edge, none over another, and with heights that grow with
the values.
-/
structure WellPlaced (exact : Float → ℚ) (plan : Plan) (field : String)
    (elements : List (Element ℚ)) : Prop where
  rows : elements.map (fun e => (e.datum, e.index)) = plan.data.zipIdx
  inside : ∀ e ∈ elements, 0 ≤ e.box.minX ∧ e.box.maxX ≤ plan.viewport.width.toNat ∧
    0 ≤ e.box.minY ∧ e.box.maxY ≤ plan.viewport.height.toNat
  ordered : ∀ e ∈ elements, e.box.minX ≤ e.box.maxX ∧ e.box.minY ≤ e.box.maxY
  grounded : ∀ e ∈ elements, e.box.maxY = plan.viewport.height.toNat
  apart : elements.Pairwise fun e next =>
    e.box.minX < next.box.minX ∧ e.box.maxX ≤ next.box.minX
  growing : ∀ e ∈ elements, ∀ e' ∈ elements, ∀ x y, e.datum.number? field = some x →
    e'.datum.number? field = some y → exact x ≤ exact y → e.box.height ≤ e'.box.height

/--
The bars of a plan are in their places whenever the settings of their width leave them within their
bands, whatever the rows, the scales and the rationals are that its numbers stand for.
-/
theorem elements_wellPlaced (exact : Float → ℚ) {plan : Plan} {xField yField : String}
    {rest : List String} (kind : plan.geometry.kind = .interval)
    (fields : plan.geometry.positionFields = xField :: yField :: rest)
    (valid : plan.viewport.isValid = true)
    (fits : (barWidth exact plan.geometry).Fits (bandWidth plan.viewport plan.data.length)) :
    WellPlaced exact plan yField (elements exact plan) := by
  rw [elements_eq_mapIdx exact kind fields]
  constructor
  case rows =>
    rw [List.mapIdx_eq_zipIdx_map, List.map_map]
    exact List.map_id _
  case inside =>
    intro e drawn
    obtain ⟨i, row, rfl⟩ := List.mem_mapIdx.mp drawn
    exact ⟨(barAt_on_canvas fits row).1, (barAt_on_canvas fits row).2, barAt_from_ground.1, le_rfl⟩
  case ordered =>
    intro e drawn
    obtain ⟨i, row, rfl⟩ := List.mem_mapIdx.mp drawn
    exact ⟨(barAt_in_band fits _ i _).2.1, barAt_from_ground.2⟩
  case grounded =>
    intro e drawn
    obtain ⟨i, row, rfl⟩ := List.mem_mapIdx.mp drawn
    exact maxY_barAt
  case apart =>
    refine List.pairwise_iff_getElem.mpr fun i j first second before => ?_
    have row : i < plan.data.length := by rwa [List.length_mapIdx] at first
    simp only [List.getElem_mapIdx]
    exact barAt_apart fits (bandWidth_pos valid (Nat.zero_lt_of_lt row)) before
  case growing =>
    intro e drawn e' drawn' x y known known' le
    obtain ⟨i, row, rfl⟩ := List.mem_mapIdx.mp drawn
    obtain ⟨j, row', rfl⟩ := List.mem_mapIdx.mp drawn'
    rw [height_barAt, height_barAt, known, known']
    exact barHeight_mono le (Nat.cast_nonneg _) (fullHeightValue_pos _)

/-- Three rows with a limited y scale, drawn in bars of limited width beside conversion tags. -/
def limitedBars : Plan where
  viewport := { width := 400, height := 300 }
  options := default
  scales := [("x", { kind := some .cat }), ("y", { max := some 8 })]
  coordinate := {}
  geometry :=
    { kind := .interval
      variant := "main"
      positionFields := ["x", "y"]
      minWidth := some 60
      maxWidth := some 20
      widthRatio := some 0.4 }
  data := [[("x", .str "a"), ("y", .num (.int 3))], [("x", .str "b"), ("y", .num (.int (-1)))],
    [("x", .str "c")]]

/-- The lower limit of the width is above the upper one, which then has no say. -/
theorem elements_wellPlaced_limited :
    limitedBars.geometry.kind = .interval ∧ limitedBars.geometry.positionFields = ["x", "y"] ∧
      limitedBars.viewport.isValid = true ∧
      (barWidth exactValue limitedBars.geometry).Fits
        (bandWidth limitedBars.viewport limitedBars.data.length) ∧
      WellPlaced exactValue limitedBars "y" (elements exactValue limitedBars) := by
  have valid : limitedBars.viewport.isValid = true := by decide
  have fits : (barWidth exactValue limitedBars.geometry).Fits
      (bandWidth limitedBars.viewport limitedBars.data.length) :=
    { ratio := by
        rintro _ ⟨⟩
        exact ⟨by decide +kernel, by decide +kernel⟩
      most := by
        rintro _ ⟨⟩
        decide +kernel
      least := by
        rintro _ ⟨⟩
        exact ⟨by decide +kernel, by decide +kernel⟩ }
  exact ⟨rfl, rfl, valid, fits, elements_wellPlaced exactValue rfl rfl valid fits⟩

end Charting.Layout
