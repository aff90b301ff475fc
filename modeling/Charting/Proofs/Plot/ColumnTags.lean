import Charting.Proofs.Plot.ColumnLabels

/-!
# Room for the tags of columns

How wide the columns are is planned before they are drawn, and the tags between them are attached
once the rules have rewritten the options. Both look at options that no rule writes, so the columns
leave room for tags exactly when there are tags.
-/

namespace Charting

namespace Layer

variable {κ σ : Type} {b : Behaviour κ} {start : Options} {table : List EventRow}
  {c : Collaborators σ} {l l' : Layer} {w w' : σ} {bound : EventBindings}

theorem Overlays.attached (h : Overlays c l w l' w') (seen : l.scene.isSome = true) :
    ∃ scene, (c.plot.attachOverlay scene l'.options).run w = (l'.overlay, w') := by
  cases h with
  | bare unseen => simp [unseen] at seen
  | @laid scene _ _ _ attach => exact ⟨scene, attach⟩

theorem Planned.plans (h : Planned b l) :
    ∃ plan, l.geometry = some plan.geometry ∧ b.plan? l.options l.viewport l.data = .ok plan := by
  obtain ⟨geometry, bound, planned⟩ := h
  exact ⟨_, bound, planned⟩

/--
Whatever the renderer answers, the geometry after a drawing is planned for options that the rules
have made of the first ones, and the overlay is attached for options that they have made of them.
-/
theorem Draws.overlaid (laws : b.Lawful start) (desc : b.Describes start table c)
    (live : Live b start bound l) (planned : Planned b l) (h : Draws c l w (.ok ()) l' w') :
    (∃ options viewport data plan, b.Adapted start viewport options ∧
      b.plan? options viewport data = .ok plan ∧ l'.geometry = some plan.geometry) ∧
    b.Adapted start l'.viewport l'.options ∧
    ∃ scene w₀, (c.plot.attachOverlay scene l'.options).run w₀ = (l'.overlay, w') := by
  have adapted {l : Layer} (live : Live b start bound l) : b.Adapted start l.viewport l.options :=
    (live.1.rendered live.2).1
  have after := adapted (live.draws laws desc h)
  cases h with
  | kept render rules same overlay =>
      obtain ⟨plan, bound, planned⟩ := planned.plans
      obtain ⟨scene, attach⟩ := overlay.attached rules.seen_after
      refine ⟨⟨_, _, _, plan, adapted live, planned, ?_⟩, after, scene, _, attach⟩
      rw [overlay.eq_with, rules.eq_with, render.eq_with]
      exact bound
  | redrawn render rules changed compile redraw overlay =>
      -- the plan is made anew for what the rules have settled on
      have settled := ((live.renders laws render).settles laws desc rules).1
      obtain ⟨plan, bound, planned⟩ := (compile.plans desc).2.plans
      obtain ⟨scene, attach⟩ := overlay.attached redraw.scene_isSome
      refine ⟨⟨_, _, _, plan, adapted (settled.compiles laws compile), planned, ?_⟩, after, scene,
        _, attach⟩
      rw [overlay.eq_with, redraw.eq_with]
      exact bound

end Layer

namespace Plot.Column

variable {start options : Options} {viewport : Viewport} {data : List Datum} {plan : Plan}

/-! ## The plan -/

theorem adjust_room (geometry : Geometry) :
    (adjust options geometry).widthRatio = geometry.widthRatio ∧
      (adjust options geometry).animate = geometry.animate := by
  rw [adjust]
  split <;> exact ⟨rfl, rfl⟩

/-- Room is left for the tags that are to be shown, and the columns move unless told not to. -/
theorem room_of_plan? (h : (behaviour start).plan? options viewport data = .ok plan) :
    plan.geometry.widthRatio =
        (if showsTags options then some GeometryHooks.overlayWidthRatio else none) ∧
      plan.geometry.isAnimated = (options.bool? "animation" != some false) := by
  obtain ⟨scales, geometry, -, hg, rfl⟩ := Behaviour.plan?_eq_ok.mp h
  obtain ⟨xField, yField, made, -, -, hmade, rfl⟩ := Geometry.ofChart_eq_ok.mp hg
  obtain ⟨-, width, animate⟩ := Geometry.bare_ofOptions hmade
  simp only [Layer.silence]
  split
  · rename_i off
    refine ⟨?_, ?_⟩
    · exact (adjust_room _).1.trans (by rw [width])
    · rw [beq_iff_eq] at off
      rw [off]
      rfl
  · rename_i on
    refine ⟨(adjust_room _).1.trans (by rw [width]), ?_⟩
    rw [Geometry.isAnimated, (adjust_room _).2, animate]
    simpa using on

/-! ## The tags -/

variable {σ : Type} {invoke : Invoke σ}

/-- What the caller says about tags, or null. -/
def tagOptions (options : Options) : OptionTree := (options.get? "conversionTag").getD .null

/-- The tags are set by the caller's options, and where these are silent as the columns are. -/
theorem attachOverlay_spec {scene : Scene} {tag : Option ConversionTag} {yField : String} {w w' : σ}
    (keyed : Entries.WellKeyed (tagOptions options).fields)
    (hy : options.string? "yField" = some yField)
    (attached : ((plot invoke).attachOverlay scene options).run w = (tag, w')) :
    (tag.isSome = true ↔ showsTags options = true) ∧
      ∀ held, tag = some held →
        held.spec.field = (options.string? "conversionTag.field").getD yField ∧
        held.spec.animation = (options.bool? "conversionTag.animation").getD
          (options.bool? "animation" != some false) := by
  simp only [plot] at attached
  rw [tagSpec?] at attached
  by_cases shown : showsTags options = true
  · rw [if_pos shown, hy] at attached
    let spec := TagSpec.resolve yField true (options.bool? "animation" != some false)
      (tagOptions options)
    obtain ⟨visible, field, -, animation, -⟩ :=
      TagSpec.resolve_own yField true (options.bool? "animation" != some false) keyed
    have visible_at : options.get? "conversionTag.visible" = (tagOptions options).get? "visible" :=
      Options.get?_of_keys rfl rfl rfl
    have field_at : options.get? "conversionTag.field" = (tagOptions options).get? "field" :=
      Options.get?_of_keys rfl rfl rfl
    have animation_at : options.get? "conversionTag.animation" =
        (tagOptions options).get? "animation" :=
      Options.get?_of_keys rfl rfl rfl
    have on : spec.visible = true := by
      rw [showsTags, beq_iff_eq, Options.bool?, visible_at] at shown
      exact visible.trans (by rw [shown]; rfl)
    have attached : (ConversionTag.attach invoke scene.elements spec).run w = (tag, w') := attached
    have laid := ConversionTag.spec_attach attached
    rw [if_pos on] at laid
    obtain ⟨held, rfl, same⟩ := Option.map_eq_some_iff.mp laid
    refine ⟨by simp [shown], fun _ h => ?_⟩
    obtain rfl := Option.some.inj h
    rw [same, Options.string?, Options.bool?, field_at, animation_at]
    exact ⟨field, animation⟩
  · rw [if_neg shown] at attached
    cases attached
    exact ⟨by simp [shown], by simp⟩

theorem tagOptions_wellKeyed {user : OptionTree}
    (resolved : Options.resolve .baseDefaults defaults user = .ok start)
    (keyed : Entries.WellKeyed user.fields) : Entries.WellKeyed (tagOptions start).fields := by
  let own : OptionMap := [("visible", .bool false)]
  have before : Entries.get?
      (((OptionTree.obj []).mergeObject .baseDefaults).mergeObject defaults).fields
        "conversionTag" = some (.obj own) := rfl
  have keyed' : Entries.WellKeyed own := by
    rw [Entries.WellKeyed]
    decide
  rw [tagOptions]
  cases given : start.get? "conversionTag" with
  | none => exact List.nodup_nil
  | some value => exact default_wellKeyed resolved keyed rfl before keyed' given

/-! ## After a drawing -/

/--
With any renderer, and whatever came before: after a drawing there are tags if and only if there is
room for them, which is if and only if the options show them. The caller's options have no key
twice.
-/
theorem tags_of_drawn {renderer : Plan → Attempt σ Scene} {description : Description}
    {first l l' : Layer} {op : Operation} {w w' : σ}
    (created : Layer.create (plot invoke) description = .ok first)
    (keyed : Entries.WellKeyed description.options.fields)
    (reached : Layer.Reachable { plot := plot invoke, renderer } first l)
    (draws : op.draws l = true)
    (run : (op.perform { plot := plot invoke, renderer }).exec l w = ((.ok (), l'), w')) :
    ∃ geometry yField, l'.geometry = some geometry ∧ l'.options.string? "yField" = some yField ∧
      (l'.overlay.isSome = true ↔ l'.options.bool? "conversionTag.visible" = some true) ∧
      (geometry.widthRatio = some (2 / 5) ↔
        l'.options.bool? "conversionTag.visible" = some true) ∧
      (l'.options.bool? "conversionTag.visible" ≠ some true → geometry.widthRatio = none) ∧
      ∀ tag, l'.overlay = some tag →
        tag.spec.field = (l'.options.string? "conversionTag.field").getD yField ∧
        tag.spec.animation =
          (l'.options.bool? "conversionTag.animation").getD geometry.isAnimated := by
  obtain ⟨valid, options, resolved, rfl⟩ := Layer.create_eq_ok.mp created
  have laws := lawful options
  have desc := describes invoke renderer options
  obtain ⟨l₁, w₁, prepared, drawn⟩ := (Layer.Performs.of_exec run).drawn draws
  obtain ⟨-, planned, live⟩ := prepared.held laws desc (reached.held laws desc valid rfl rfl)
  obtain ⟨⟨options', _, _, plan, adapted, made, bound⟩, after, scene, w₀, attached⟩ :=
    drawn.overlaid laws desc live planned
  -- no rule writes what the plan and the tags look at, so it is the same in both options
  have now := adapted_sameBut after
  have same {path : String} (outside : (OptionTree.segments path).head
      (OptionTree.segments_ne_nil path) ∉ ["yAxis", "xAxis", "label"]) :
      options'.get? path = l'.options.get? path :=
    ((adapted_sameBut adapted).get? outside).trans (now.get? outside).symm
  obtain ⟨width, animated⟩ := room_of_plan? made
  rw [showsTags, Options.bool?, same (by decide)] at width
  rw [Options.bool?, same (by decide)] at animated
  obtain ⟨-, named⟩ := plan?_ok_iff.mp ⟨plan, made⟩
  rw [Options.string?, same (by decide)] at named
  obtain ⟨yField, hy⟩ := Option.isSome_iff_exists.mp named
  have keyed' : Entries.WellKeyed (tagOptions l'.options).fields := by
    rw [tagOptions, now.get? (by decide)]
    exact tagOptions_wellKeyed resolved keyed
  obtain ⟨overlaid, set⟩ := attachOverlay_spec keyed' hy attached
  rw [showsTags, beq_iff_eq] at overlaid
  refine ⟨plan.geometry, yField, bound, hy, overlaid, ?_, fun hidden => ?_, fun tag held => ?_⟩
  · rw [width, ← Options.bool?]
    by_cases shown : l'.options.bool? "conversionTag.visible" = some true
    · simp [shown, GeometryHooks.overlayWidthRatio]
    · simp [shown]
  · rw [width, ← Options.bool?]
    simp [hidden]
  · obtain ⟨field, animation⟩ := set tag held
    rw [animated]
    exact ⟨field, animation⟩

/-! ## Tags for another field -/

/-- Two columns that stand still, with tags between them that compare another field. -/
def tagged : Description where
  options := .obj [("xField", .str "x"), ("yField", .str "y"), ("responsive", .bool true),
    ("padding", .num 10), ("animation", .bool false),
    ("conversionTag", .shown true [("field", .str "z")])]
  data := [[("x", .str "a"), ("y", .num (.int 3))], [("x", .str "b"), ("y", .num (.int 5))]]

def newTagged : Layer where
  viewport := {}
  data := tagged.data
  options := ⟨(((OptionTree.obj []).mergeObject .baseDefaults).mergeObject
    defaults).mergeObject tagged.options⟩

def drawnTagged : Layer := ((Operation.render.perform headless).exec newTagged {}).1.2

set_option maxRecDepth 4000 in
theorem create_newTagged : Layer.create headless.plot tagged = .ok newTagged :=
  Layer.create_eq_ok.mpr ⟨rfl, _, rfl, rfl⟩

theorem tags_of_drawnTagged :
    ∃ geometry tag, drawnTagged.geometry = some geometry ∧ drawnTagged.overlay = some tag ∧
      geometry.widthRatio = some (2 / 5) ∧ tag.spec.field = "z" ∧
      tag.spec.animation = geometry.isAnimated := by
  have outcome : ((Operation.render.perform headless).exec newTagged {}).1.1 = .ok () := by
    decide +kernel
  have keyed : Entries.WellKeyed tagged.options.fields := by
    rw [Entries.WellKeyed]
    decide
  have run : (Operation.render.perform headless).exec newTagged {} =
      ((.ok (), drawnTagged), ((Operation.render.perform headless).exec newTagged {}).2) :=
    LayerM.exec_of_outcome outcome
  obtain ⟨geometry, yField, bound, -, overlaid, reserved, -, set⟩ :=
    tags_of_drawn create_newTagged keyed .start rfl run
  have shown : drawnTagged.options.bool? "conversionTag.visible" = some true := by decide +kernel
  have field : drawnTagged.options.string? "conversionTag.field" = some "z" := by decide +kernel
  have silent : drawnTagged.options.bool? "conversionTag.animation" = none := by decide +kernel
  obtain ⟨tag, held⟩ := Option.isSome_iff_exists.mp (overlaid.mpr shown)
  obtain ⟨compared, animation⟩ := set tag held
  rw [field] at compared
  rw [silent] at animation
  exact ⟨geometry, tag, bound, held, reserved.mpr shown, compared, animation⟩

end Plot.Column

end Charting
