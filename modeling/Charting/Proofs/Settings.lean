import Charting.Settings.Chart

/-!
# Which setting of a key wins

The changes that make a chart set options, some by their type and some under a free key. The two are
kept apart until the options are read off. Of the typed settings of a key the last one wins, and so
it is with the free ones; but a typed setting wins over every free one, the later ones included.
-/

namespace Charting

/-! ## Settings -/

/-- A value for a key, set by a typed change or as a free option. -/
structure Setting where
  key : String
  value : OptionTree
  typed : Bool

namespace Setting

/-- The value of the last setting of a key. -/
def last? (settings : List Setting) (key : String) : Option OptionTree :=
  (settings.filter fun setting => setting.key == key).getLast?.map Setting.value

def lastTyped? (settings : List Setting) : String → Option OptionTree :=
  last? (settings.filter fun setting => setting.typed)

def lastFree? (settings : List Setting) : String → Option OptionTree :=
  last? (settings.filter fun setting => !setting.typed)

variable {settings more : List Setting} {key : String}

theorem last?_append :
    last? (settings ++ more) key = (last? more key).or (last? settings key) := by
  simp only [last?, List.filter_append, List.getLast?_append, Option.map_or]

theorem last?_cons (setting : Setting) :
    last? (setting :: settings) key =
      (last? settings key).or (if setting.key = key then some setting.value else none) := by
  rw [← List.singleton_append, last?_append]
  by_cases same : setting.key = key <;> simp [last?, same]

theorem lastFree?_eq_last? (h : lastTyped? settings key = none) :
    lastFree? settings key = last? settings key := by
  induction settings with
  | nil => rfl
  | cons setting rest ih =>
      cases typed : setting.typed with
      | false =>
          have h : lastTyped? rest key = none := by simpa [lastTyped?, typed] using h
          rw [last?_cons, ← ih h]
          simp [lastFree?, typed, last?_cons]
      | true =>
          have h : (lastTyped? rest key).or
              (if setting.key = key then some setting.value else none) = none := by
            simpa [lastTyped?, typed, last?_cons] using h
          rw [Option.or_eq_none_iff] at h
          rw [last?_cons, h.2, Option.or_none, ← ih h.1]
          simp [lastFree?, typed]

theorem or_eq_last?_iff :
    (lastTyped? settings key).or (lastFree? settings key) = last? settings key ↔
      lastTyped? settings key = none ∨ lastTyped? settings key = last? settings key := by
  cases typed : lastTyped? settings key with
  | none => simp [lastFree?_eq_last? typed]
  | some value => simp

end Setting

/-- What the two fields of a new chart set. -/
def opening (xField yField : String) : List Setting :=
  [⟨"xField", .str xField, true⟩, ⟨"yField", .str yField, true⟩]

/-- What a change sets. Handlers of events are gathered under one key of their own. -/
def CommonChange.settings : CommonChange → List Setting
  | .colorField field => [⟨"colorField", .str field, true⟩]
  | .xAxis axis => [⟨"xAxis", .obj axis.toOptions, true⟩]
  | .yAxis axis => [⟨"yAxis", .obj axis.toOptions, true⟩]
  | .label settings => [⟨"label", .obj settings.toOptions, true⟩]
  | .responsive on => [⟨"responsive", .bool on, true⟩]
  | .padding space => [⟨"padding", space.toOptions, true⟩]
  | .animation on => [⟨"animation", .bool on, true⟩]
  | .event _ _ => []
  | .option key value => [⟨key, value, false⟩]

def ColumnChange.settings : ColumnChange → List Setting
  | .common change => change.settings
  | .columnSize size => [⟨"columnSize", .num size, true⟩]
  | .widthClamp least most => [⟨"minWidth", .num least, true⟩, ⟨"maxWidth", .num most, true⟩]
  | .columnStyle style => [⟨"columnStyle", style.toOptions, true⟩]
  | .conversionTag tag => [⟨"conversionTag", .obj tag.toOptions, true⟩]

def ScatterChange.settings : ScatterChange → List Setting
  | .common change => change.settings
  | .pointSize size => [⟨"pointSize", .num size, true⟩]
  | .pointStyle style => [⟨"pointStyle", style.toOptions, true⟩]
  | .shape name => [⟨"shape", .str name, true⟩]

/-! ## Laying settings over each other -/

namespace Entries

variable {α : Type}

/-- Sets the keys that have a value. -/
def lay (table : Entries (Option α)) (entries : Entries α) : Entries α :=
  table.foldl (fun entries (key, value) => insertSome key value entries) entries

theorem get?_lay {table : Entries (Option α)} (h : WellKeyed table) (entries : Entries α)
    (key : String) :
    get? (lay table entries) key = (get? table key).join.or (get? entries key) := by
  induction table generalizing entries with
  | nil => rfl
  | cons entry rest ih =>
      obtain ⟨k, v⟩ := entry
      obtain ⟨new, below⟩ := List.nodup_cons.mp h
      have laid : lay ((k, v) :: rest) entries = lay rest (insertSome k v entries) := rfl
      rw [laid, ih below, get?_insertSome]
      by_cases same : k = key
      · subst same
        simp [get?, get?_eq_none_iff.mpr new]
      · simp [get?, same]

theorem join_get?_of_unset {table : Entries (Option α)} (unset : ∀ entry ∈ table, entry.2 = none)
    (key : String) : (get? table key).join = none := by
  induction table with
  | nil => rfl
  | cons entry rest ih =>
      obtain ⟨k, v⟩ := entry
      obtain ⟨rfl, below⟩ := List.forall_mem_cons.mp unset
      rw [get?]
      split
      · rfl
      · exact ih below

theorem wellKeyed_nil : WellKeyed ([] : Entries α) := .nil

theorem WellKeyed.insertSome {entries : Entries α} (h : WellKeyed entries) (key : String)
    (value : Option α) : WellKeyed (insertSome key value entries) := by
  cases value with
  | none => exact h
  | some v => exact h.insert key v

theorem WellKeyed.lay {entries : Entries α} (h : WellKeyed entries) (table : Entries (Option α)) :
    WellKeyed (lay table entries) := by
  induction table generalizing entries with
  | nil => exact h
  | cons entry rest ih => exact ih (h.insertSome entry.1 entry.2)

theorem WellKeyed.insertObject {entries : OptionMap} (h : WellKeyed entries) (key : String)
    (value : OptionMap) : WellKeyed (insertObject key value entries) := by
  rw [Entries.insertObject]
  split
  · exact h
  · exact h.insert key _

/-- An object that is left out for being empty reads as the empty object. -/
theorem get?_insertObject_self {key : String} {entries : OptionMap}
    (new : get? entries key = none) (value : OptionMap) :
    (get? (insertObject key value entries) key).getD (.obj []) = .obj value := by
  rw [Entries.insertObject]
  split
  · rename_i empty
    rw [new, List.isEmpty_iff.mp empty]
    rfl
  · rw [get?_insert, if_pos rfl]
    rfl

theorem get?_insertObject_of_ne {key other : String} (h : key ≠ other)
    (value entries : OptionMap) :
    get? (insertObject key value entries) other = get? entries other := by
  rw [insertObject]
  split
  · rfl
  · rw [get?_insert, if_neg h]

/-- Makes some settings, one after the other. -/
def put (wrap : OptionTree → α) (settings : List Setting) (entries : Entries α) : Entries α :=
  settings.foldl (fun entries setting => insert setting.key (wrap setting.value) entries) entries

theorem get?_put (wrap : OptionTree → α) (settings : List Setting) (entries : Entries α)
    (key : String) :
    get? (put wrap settings entries) key =
      ((Setting.last? settings key).map wrap).or (get? entries key) := by
  induction settings generalizing entries with
  | nil => rfl
  | cons setting rest ih =>
      have first : put wrap (setting :: rest) entries =
          put wrap rest (insert setting.key (wrap setting.value) entries) := rfl
      rw [first, ih, get?_insert, Setting.last?_cons]
      by_cases same : setting.key = key
      · cases Setting.last? rest key <;> simp [same]
      · simp [same]

end Entries

/-- A setting of a kind, written under its key, is read as what it was. -/
theorem OptionTree.read_written {α : Type} {written : Option OptionTree} {setting : Option α}
    {wrap : α → OptionTree} {read : OptionTree → Option α} (as : written = setting.map wrap)
    (reads : ∀ a, read (wrap a) = some a) : written.bind read = setting := by
  rw [as]
  cases setting with
  | none => rfl
  | some a => exact reads a

/-! ## Charts -/

/-- The typed settings of a chart, with none for those that were not made. -/
def CommonSettings.table (s : CommonSettings) : Entries (Option OptionTree) :=
  [("xField", some (.str s.xField)), ("yField", some (.str s.yField)),
    ("colorField", s.colorField.map .str), ("xAxis", s.xAxis.map fun a => .obj a.toOptions),
    ("yAxis", s.yAxis.map fun a => .obj a.toOptions),
    ("label", s.label.map fun l => .obj l.toOptions), ("responsive", s.responsive.map .bool),
    ("padding", s.padding.map Padding.toOptions), ("animation", s.animation.map .bool)]

def ColumnSettings.own (s : ColumnSettings) : Entries (Option OptionTree) :=
  [("columnSize", s.columnSize.map .num), ("maxWidth", s.maxWidth.map .num),
    ("minWidth", s.minWidth.map .num), ("columnStyle", s.columnStyle.map ElementStyle.toOptions),
    ("conversionTag", s.conversionTag.map fun t => .obj t.toOptions)]

def ScatterSettings.own (s : ScatterSettings) : Entries (Option OptionTree) :=
  [("pointSize", s.pointSize.map .num), ("pointStyle", s.pointStyle.map ElementStyle.toOptions),
    ("shape", s.shape.map .str)]

theorem CommonSettings.toOptions_eq (s : CommonSettings) :
    s.toOptions = Entries.insertObject "events" s.events (Entries.lay s.table s.extra) := rfl

/-- The options of a chart: what is in its tables, and else what is free. -/
theorem get?_lay_toOptions {s : CommonSettings} {own : Entries (Option OptionTree)} {key : String}
    (keyed : Entries.WellKeyed (s.table ++ own)) (named : key ≠ "events") :
    Entries.get? (Entries.lay own s.toOptions) key =
      (Entries.get? (s.table ++ own) key).join.or (Entries.get? s.extra key) := by
  have below : Entries.WellKeyed own := by
    rw [Entries.WellKeyed, Entries.keys, List.map_append] at keyed
    exact (List.nodup_append.mp keyed).2.1
  have split : Entries.lay (s.table ++ own) s.extra =
      Entries.lay own (Entries.lay s.table s.extra) := List.foldl_append
  rw [CommonSettings.toOptions_eq, Entries.get?_lay below,
    Entries.get?_insertObject_of_ne named.symm, ← Entries.get?_lay below, ← split,
    Entries.get?_lay keyed]

theorem join_get?_opening {xField yField : String} {rest : Entries (Option OptionTree)}
    (unset : ∀ entry ∈ rest, entry.2 = none) (key : String) :
    (Entries.get? (("xField", some (.str xField)) :: ("yField", some (.str yField)) :: rest)
      key).join = Setting.last? (opening xField yField) key := by
  have nothing : (Entries.get? rest key).join = none := Entries.join_get?_of_unset unset key
  rw [opening, Setting.last?_cons, Setting.last?_cons]
  by_cases first : "xField" = key
  · subst first
    simp [Entries.get?, Setting.last?]
  · by_cases second : "yField" = key
    · subst second
      simp [Entries.get?, Setting.last?]
    · simp [Entries.get?, Setting.last?, first, second, nothing]

/-- A kind of chart that is made by changes, and what each of them does to its tables. -/
structure Builder (State Change : Type) where
  first : String → String → State
  apply : State → Change → State
  settings : Change → List Setting
  toOptions : State → OptionTree
  common : State → CommonSettings
  own : State → Entries (Option OptionTree)
  laid : ∀ s, (toOptions s).fields = Entries.lay (own s) (common s).toOptions
  keyed : ∀ s, Entries.WellKeyed ((common s).table ++ own s)
  typed : ∀ s change, (common (apply s change)).table ++ own (apply s change) =
    Entries.put some ((settings change).filter fun setting => setting.typed)
      ((common s).table ++ own s)
  free : ∀ s change, (common (apply s change)).extra =
    Entries.put id ((settings change).filter fun setting => !setting.typed) (common s).extra
  opens : ∀ xField yField key,
    (Entries.get? ((common (first xField yField)).table ++ own (first xField yField)) key).join =
      Setting.last? (opening xField yField) key
  bare : ∀ xField yField, (common (first xField yField)).extra = []

namespace Builder

variable {State Change α : Type} (b : Builder State Change)

def made (xField yField : String) (changes : List Change) : List Setting :=
  opening xField yField ++ changes.flatMap b.settings

theorem foldl_eq_put (view : State → Entries α) {wrap : OptionTree → α} {kind : Setting → Bool}
    (step : ∀ s change,
      view (b.apply s change) = Entries.put wrap ((b.settings change).filter kind) (view s))
    (changes : List Change) (s : State) :
    view (changes.foldl b.apply s) =
      Entries.put wrap ((changes.flatMap b.settings).filter kind) (view s) := by
  induction changes generalizing s with
  | nil => rfl
  | cons change rest ih =>
      rw [List.foldl_cons, ih, step, List.flatMap_cons, List.filter_append]
      exact List.foldl_append.symm

theorem get?_foldl (xField yField : String) (changes : List Change) {key : String}
    (named : key ≠ "events") :
    (b.toOptions (changes.foldl b.apply (b.first xField yField))).get? key =
      (Setting.lastTyped? (b.made xField yField changes) key).or
        (Setting.lastFree? (b.made xField yField changes) key) := by
  -- the typed settings are put into the tables, the free ones into an empty list
  have typed := b.foldl_eq_put (fun s => (b.common s).table ++ b.own s) b.typed changes
    (b.first xField yField)
  have free := b.foldl_eq_put (fun s => (b.common s).extra) b.free changes (b.first xField yField)
  have opened : Setting.lastTyped? (b.made xField yField changes) key =
      (Setting.last? ((changes.flatMap b.settings).filter fun setting => setting.typed) key).or
        (Setting.last? (opening xField yField) key) := by
    rw [Setting.lastTyped?, made, List.filter_append, Setting.last?_append]
    rfl
  have freed : Setting.lastFree? (b.made xField yField changes) key =
      Setting.last? ((changes.flatMap b.settings).filter fun setting => !setting.typed) key := by
    rw [Setting.lastFree?, made, List.filter_append]
    rfl
  rw [OptionTree.get?, b.laid, get?_lay_toOptions (b.keyed _) named, typed, free,
    Entries.get?_put, Entries.get?_put, b.bare, opened, freed, ← b.opens xField yField key]
  cases Setting.last? ((changes.flatMap b.settings).filter fun setting => setting.typed) key <;>
    simp

theorem get?_foldl_eq_last?_iff (xField yField : String) (changes : List Change) {key : String}
    (named : key ≠ "events") :
    (b.toOptions (changes.foldl b.apply (b.first xField yField))).get? key =
        Setting.last? (b.made xField yField changes) key ↔
      Setting.lastTyped? (b.made xField yField changes) key = none ∨
        Setting.lastTyped? (b.made xField yField changes) key =
          Setting.last? (b.made xField yField changes) key := by
  rw [b.get?_foldl xField yField changes named]
  exact Setting.or_eq_last?_iff

end Builder

def columnBuilder : Builder ColumnSettings ColumnChange where
  first xField yField := { common := { xField, yField } }
  apply := ColumnSettings.apply
  settings := ColumnChange.settings
  toOptions := ColumnSettings.toOptions
  common := ColumnSettings.common
  own := ColumnSettings.own
  laid _ := rfl
  keyed _ := by simp [Entries.WellKeyed, Entries.keys, CommonSettings.table, ColumnSettings.own]
  typed s change := by
    cases change with
    | common change => cases change <;> rfl
    | _ => rfl
  free s change := by
    cases change with
    | common change => cases change <;> rfl
    | _ => rfl
  opens _ _ key := join_get?_opening (by simp [ColumnSettings.own]) key
  bare _ _ := rfl

def scatterBuilder : Builder ScatterSettings ScatterChange where
  first xField yField := { common := { xField, yField } }
  apply := ScatterSettings.apply
  settings := ScatterChange.settings
  toOptions := ScatterSettings.toOptions
  common := ScatterSettings.common
  own := ScatterSettings.own
  laid _ := rfl
  keyed _ := by simp [Entries.WellKeyed, Entries.keys, CommonSettings.table, ScatterSettings.own]
  typed s change := by
    cases change with
    | common change => cases change <;> rfl
    | _ => rfl
  free s change := by
    cases change with
    | common change => cases change <;> rfl
    | _ => rfl
  opens _ _ key := join_get?_opening (by simp [ScatterSettings.own]) key
  bare _ _ := rfl

/--
Under a key other than that of the handlers stands the last typed setting of it, and if there is
none, the last free one; a key that nothing sets is absent. So the last setting of all wins unless
it is free and comes after a typed one.
-/
theorem get?_build {key : String} (named : key ≠ "events") (xField yField : String) :
    (∀ changes : List ColumnChange,
      let made := opening xField yField ++ changes.flatMap ColumnChange.settings
      let value? := (ColumnSettings.build xField yField changes).toOptions.get? key
      value? = (Setting.lastTyped? made key).or (Setting.lastFree? made key) ∧
        (value? = Setting.last? made key ↔ Setting.lastTyped? made key = none ∨
          Setting.lastTyped? made key = Setting.last? made key)) ∧
    ∀ changes : List ScatterChange,
      let made := opening xField yField ++ changes.flatMap ScatterChange.settings
      let value? := (ScatterSettings.build xField yField changes).toOptions.get? key
      value? = (Setting.lastTyped? made key).or (Setting.lastFree? made key) ∧
        (value? = Setting.last? made key ↔ Setting.lastTyped? made key = none ∨
          Setting.lastTyped? made key = Setting.last? made key) :=
  ⟨fun changes => ⟨columnBuilder.get?_foldl xField yField changes named,
      columnBuilder.get?_foldl_eq_last?_iff xField yField changes named⟩,
    fun changes => ⟨scatterBuilder.get?_foldl xField yField changes named,
      scatterBuilder.get?_foldl_eq_last?_iff xField yField changes named⟩⟩

theorem get?_build_animation :
    "animation" ≠ "events" ∧
      let changes : List ColumnChange :=
        [.common (.option "animation" (.bool true)), .common (.animation false)]
      (ColumnSettings.build "x" "y" changes).toOptions.get? "animation" = some (.bool false) :=
  ⟨by decide, ((get?_build (by decide) "x" "y").1 _).1⟩

/-- The animation is switched off by a free option, after it was switched on: it stays on. -/
theorem animation_kept :
    let changes : List ColumnChange :=
      [.common (.animation true), .common (.option "animation" (.bool false))]
    let made := opening "x" "y" ++ changes.flatMap ColumnChange.settings
    Setting.last? made "animation" = some (.bool false) ∧
      (ColumnSettings.build "x" "y" changes).toOptions.get? "animation" = some (.bool true) :=
  ⟨rfl, rfl⟩

end Charting
