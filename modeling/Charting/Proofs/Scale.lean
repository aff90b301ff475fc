import Charting.Proofs.Entries
import Charting.Proofs.Number.Counts
import Charting.Scale

/-!
# Which axis decides a setting of a scale

A scale has eleven settings, and an axis gives a setting when it has a well-formed value for it. Of
all the axes named for a field the last that gives a setting decides it; a setting that none of them
gives is that of the first baseline.
-/

namespace Charting

/-! ## Values of one kind -/

namespace OptionTree

variable {t t' : OptionTree}

theorem bool?_eq_some_iff {on : Bool} : t.bool? = some on ↔ t = .bool on := by
  cases t <;> simp [bool?]

theorem number?_eq_some_iff {x : Float} : t.number? = some x ↔ t = .num x := by
  cases t <;> simp [number?]

theorem string?_eq_some_iff {s : String} : t.string? = some s ↔ t = .str s := by
  cases t <;> simp [string?]

theorem nonNull?_eq_some_iff : t.nonNull? = some t' ↔ t ≠ .null ∧ t = t' := by
  cases t <;> simp [nonNull?, isNull]

end OptionTree

/-! ## Settings -/

inductive ScaleKey where
  | kind
  | min
  | max
  | minLimit
  | maxLimit
  | nice
  | tickCount
  | tickInterval
  | mask
  | displayName
  | formatter
deriving DecidableEq

inductive ScaleValue where
  | kind (kind : ScaleKind)
  | number (x : Float)
  | switch (on : Bool)
  | count (n : UInt32)
  | text (s : String)
  | formatter (t : OptionTree)

namespace ScaleKey

/-- The key under which an axis has the setting. -/
def name : ScaleKey → String
  | kind => "type"
  | min => "min"
  | max => "max"
  | minLimit => "minLimit"
  | maxLimit => "maxLimit"
  | nice => "nice"
  | tickCount => "tickCount"
  | tickInterval => "tickInterval"
  | mask => "mask"
  | displayName => "alias"
  | formatter => "formatter"

def get? : ScaleKey → Scale → Option ScaleValue
  | kind, s => s.kind.map .kind
  | min, s => s.min.map .number
  | max, s => s.max.map .number
  | minLimit, s => s.minLimit.map .number
  | maxLimit, s => s.maxLimit.map .number
  | nice, s => s.nice.map .switch
  | tickCount, s => s.tickCount.map .count
  | tickInterval, s => s.tickInterval.map .number
  | mask, s => s.mask.map .text
  | displayName, s => s.displayName.map .text
  | formatter, s => s.formatter.map .formatter

theorem ext {s s' : Scale} (h : ∀ key : ScaleKey, key.get? s = key.get? s') : s = s' := by
  have same {α : Type} {f : α → ScaleValue} (inj : Function.Injective f) {a b : Option α}
      (h : a.map f = b.map f) : a = b := Option.map_injective inj h
  cases s
  cases s'
  simp only [Scale.mk.injEq]
  exact ⟨same (fun _ _ => ScaleValue.kind.inj) (h kind),
    same (fun _ _ => ScaleValue.number.inj) (h min),
    same (fun _ _ => ScaleValue.number.inj) (h max),
    same (fun _ _ => ScaleValue.number.inj) (h minLimit),
    same (fun _ _ => ScaleValue.number.inj) (h maxLimit),
    same (fun _ _ => ScaleValue.switch.inj) (h nice),
    same (fun _ _ => ScaleValue.count.inj) (h tickCount),
    same (fun _ _ => ScaleValue.number.inj) (h tickInterval),
    same (fun _ _ => ScaleValue.text.inj) (h mask),
    same (fun _ _ => ScaleValue.text.inj) (h displayName),
    same (fun _ _ => ScaleValue.formatter.inj) (h formatter)⟩

/-! ## Well-formed values -/

/-- The value is well formed for the setting and stands for the given one. -/
inductive Takes : ScaleKey → OptionTree → ScaleValue → Prop where
  | kind (k : ScaleKind) : Takes kind (.str k.name) (.kind k)
  | linear : Takes kind (.str "value") (.kind .linear)
  | number {key : ScaleKey} (x : Float)
      (numeric : key ∈ [min, max, minLimit, maxLimit, tickInterval]) :
      Takes key (.num x) (.number x)
  | nice (on : Bool) : Takes nice (.bool on) (.switch on)
  | tickCount {x : Float} {b : BinaryFraction} {n : UInt32}
      (finite : BinaryFraction.ofFloat? x = some b) (positive : 0 ≤ b.value)
      (rounded : n.toNat = Min.min ⌊b.value + 1 / 2⌋₊ (2 ^ 32 - 1)) :
      Takes tickCount (.num x) (.count n)
  | text {key : ScaleKey} (s : String) (textual : key ∈ [mask, displayName]) :
      Takes key (.str s) (.text s)
  | formatter {t : OptionTree} (given : t ≠ .null) : Takes formatter t (.formatter t)

/-- Reads a value for a setting. -/
def read? : ScaleKey → OptionTree → Option ScaleValue
  | kind, t => (t.string?.bind ScaleKind.ofName?).map .kind
  | min, t | max, t | minLimit, t | maxLimit, t | tickInterval, t => t.number?.map .number
  | nice, t => t.bool?.map .switch
  | tickCount, t => (t.number?.bind countOfFloat?).map .count
  | mask, t | displayName, t => t.string?.map .text
  | formatter, t => t.nonNull?.map .formatter

theorem ofName?_eq_some_iff {name : String} {k : ScaleKind} :
    ScaleKind.ofName? name = some k ↔ name = k.name ∨ name = "value" ∧ k = .linear := by
  constructor
  · intro h
    unfold ScaleKind.ofName? at h
    split at h <;> cases h <;> simp [ScaleKind.name]
  · rintro (rfl | ⟨rfl, rfl⟩)
    · cases k <;> rfl
    · rfl

theorem read?_eq_some_iff {key : ScaleKey} {t : OptionTree} {v : ScaleValue} :
    key.read? t = some v ↔ key.Takes t v := by
  constructor
  · intro h
    cases key with
    | kind =>
        obtain ⟨k, named, rfl⟩ := Option.map_eq_some_iff.mp h
        obtain ⟨name, text, known⟩ := Option.bind_eq_some_iff.mp named
        rw [OptionTree.string?_eq_some_iff.mp text]
        rcases ofName?_eq_some_iff.mp known with rfl | ⟨rfl, rfl⟩
        · exact .kind k
        · exact .linear
    | min | max | minLimit | maxLimit | tickInterval =>
        obtain ⟨x, number, rfl⟩ := Option.map_eq_some_iff.mp h
        rw [OptionTree.number?_eq_some_iff.mp number]
        exact .number x (by simp)
    | nice =>
        obtain ⟨on, switch, rfl⟩ := Option.map_eq_some_iff.mp h
        rw [OptionTree.bool?_eq_some_iff.mp switch]
        exact .nice on
    | tickCount =>
        obtain ⟨n, counted, rfl⟩ := Option.map_eq_some_iff.mp h
        obtain ⟨x, number, counts⟩ := Option.bind_eq_some_iff.mp counted
        obtain ⟨b, finite, positive, rounded⟩ := BinaryFraction.countOfFloat?_eq_some_iff.mp counts
        rw [OptionTree.number?_eq_some_iff.mp number]
        exact .tickCount finite positive rounded
    | mask | displayName =>
        obtain ⟨s, text, rfl⟩ := Option.map_eq_some_iff.mp h
        rw [OptionTree.string?_eq_some_iff.mp text]
        exact .text s (by simp)
    | formatter =>
        obtain ⟨tree, given, rfl⟩ := Option.map_eq_some_iff.mp h
        obtain ⟨present, rfl⟩ := OptionTree.nonNull?_eq_some_iff.mp given
        exact .formatter present
  · intro h
    cases h with
    | kind k => cases k <;> rfl
    | linear => rfl
    | number x numeric =>
        simp only [List.mem_cons, List.not_mem_nil, or_false] at numeric
        rcases numeric with rfl | rfl | rfl | rfl | rfl <;> rfl
    | nice on => rfl
    | tickCount finite positive rounded =>
        have counted := BinaryFraction.countOfFloat?_eq_some_iff.mpr ⟨_, finite, positive, rounded⟩
        simp [read?, OptionTree.number?, counted]
    | text s textual =>
        simp only [List.mem_cons, List.not_mem_nil, or_false] at textual
        rcases textual with rfl | rfl <;> rfl
    | formatter given =>
        exact Option.map_eq_some_iff.mpr ⟨t, OptionTree.nonNull?_eq_some_iff.mpr ⟨given, rfl⟩, rfl⟩

/-! ## One axis -/

theorem get?_constrain (key : ScaleKey) (s : Scale) (axis : OptionTree) :
    key.get? (s.constrain axis) = ((axis.get? key.name).bind key.read?).or (key.get? s) := by
  cases key <;> simp only [get?, Scale.constrain, name, Option.map_or]
  all_goals cases axis.get? _ <;> rfl

theorem constrain_twice (s : Scale) (axis : OptionTree) :
    (s.constrain axis).constrain axis = s.constrain axis := by
  refine ext fun key => ?_
  rw [get?_constrain, get?_constrain, ← Option.or_assoc, Option.or_self]

theorem isSome_get?_constrain {key : ScaleKey} {s : Scale} (axis : OptionTree)
    (has : (key.get? s).isSome) : (key.get? (s.constrain axis)).isSome := by
  rw [get?_constrain, Option.isSome_or, has, Bool.or_true]

/-! ## The axes of a field -/

variable {options : Options} {key : ScaleKey} {f : ScaleField} {v : ScaleValue} {s : Scale}

/-- The axis that is named with a field has a well-formed value for the setting. -/
def Gives (options : Options) (key : ScaleKey) (f : ScaleField) (v : ScaleValue) : Prop :=
  ∃ axis t, f.axis.bind options.get? = some axis ∧ axis.get? key.name = some t ∧ key.Takes t v

/-- What a setting of a scale becomes when the axes of some entries apply to it. -/
inductive Decided (options : Options) (key : ScaleKey) (s : Scale) :
    List ScaleField → Option ScaleValue → Prop where
  | given (before : List ScaleField) {f : ScaleField} {after : List ScaleField} {v : ScaleValue}
      (gives : Gives options key f v) (last : ∀ g ∈ after, ∀ v, ¬ Gives options key g v) :
      Decided options key s (before ++ f :: after) (some v)
  | kept {entries : List ScaleField} (none : ∀ f ∈ entries, ∀ v, ¬ Gives options key f v) :
      Decided options key s entries (key.get? s)

/-- The value for a setting that the axis named with a field gives. -/
def given? (options : Options) (key : ScaleKey) (f : ScaleField) : Option ScaleValue :=
  (f.axis.bind options.get?).bind fun axis => (axis.get? key.name).bind key.read?

theorem given?_eq_some_iff : given? options key f = some v ↔ Gives options key f v := by
  simp only [given?, Gives, Option.bind_eq_some_iff, read?_eq_some_iff, exists_and_left]

theorem given?_eq_none_iff : given? options key f = none ↔ ∀ v, ¬ Gives options key f v := by
  simp only [Option.eq_none_iff_forall_ne_some, ne_eq, given?_eq_some_iff]

theorem get?_constrain_field :
    key.get? (f.constrain options s) = (given? options key f).or (key.get? s) := by
  unfold ScaleField.constrain given?
  cases f.axis.bind options.get? with
  | none => rfl
  | some axis => exact get?_constrain key s axis

theorem decided_constrain (options : Options) (key : ScaleKey) (entries : List ScaleField)
    (s : Scale) :
    Decided options key s entries
      (key.get? (entries.foldl (fun s f => f.constrain options s) s)) := by
  induction entries generalizing s with
  | nil => exact .kept (List.forall_mem_nil _)
  | cons f rest ih =>
      rw [List.foldl_cons]
      have settled := ih (f.constrain options s)
      generalize key.get? (rest.foldl _ _) = result at settled ⊢
      cases settled with
      | given before gives last => exact .given (f :: before) gives last
      | kept none =>
          -- the rest is silent, so that the first entry is the last that can give a value
          rw [get?_constrain_field]
          cases first : given? options key f with
          | some v => exact .given [] (given?_eq_some_iff.mp first) none
          | none => exact .kept (List.forall_mem_cons.mpr ⟨given?_eq_none_iff.mp first, none⟩)

end ScaleKey

/-! ## All fields -/

namespace ScaleSet

theorem resolve_eq_updates (fields : List ScaleField) (options : Options) :
    resolve fields options =
      Entries.updates ScaleField.field (fun f s => f.constrain options (s.getD f.baseline)) fields
        [] := rfl

theorem wellKeyed_resolve (fields : List ScaleField) (options : Options) :
    Entries.WellKeyed (resolve fields options) := by
  have empty : Entries.WellKeyed ([] : ScaleSet) := List.nodup_nil
  rw [resolve_eq_updates]
  exact empty.updates ..

theorem keys_resolve (fields : List ScaleField) (options : Options) :
    Entries.keys (resolve fields options) = (fields.map ScaleField.field).eraseDups := by
  rw [resolve_eq_updates, Entries.keys_updates_nil]

/-- The first baseline is where a field starts, and the axes of all its entries apply in order. -/
theorem get?_resolve {fields later : List ScaleField} {first : ScaleField} {name : String}
    (named : fields.filter (fun f => f.field == name) = first :: later) (options : Options) :
    Entries.get? (resolve fields options) name =
      some ((first :: later).foldl (fun s f => f.constrain options s) first.baseline) := by
  have started (later : List ScaleField) (s : Scale) :
      later.foldl (fun s f => some (f.constrain options (s.getD f.baseline))) (some s) =
        some (later.foldl (fun s f => f.constrain options s) s) := by
    induction later generalizing s with
    | nil => rfl
    | cons f rest ih => exact ih (f.constrain options s)
  rw [resolve_eq_updates, Entries.get?_updates, named]
  exact started later _

theorem resolve_decided (fields : List ScaleField) (options : Options) :
    Entries.WellKeyed (resolve fields options) ∧
      Entries.keys (resolve fields options) = (fields.map ScaleField.field).eraseDups ∧
      (∀ name first later, fields.filter (fun f => f.field == name) = first :: later →
        ∃ s, Entries.get? (resolve fields options) name = some s ∧
          ∀ key : ScaleKey, key.Decided options first.baseline (first :: later) (key.get? s)) ∧
      ∀ (s : Scale) (axis : OptionTree),
        (s.constrain axis).constrain axis = s.constrain axis ∧
          ∀ key : ScaleKey, (key.get? s).isSome → (key.get? (s.constrain axis)).isSome := by
  refine ⟨wellKeyed_resolve fields options, keys_resolve fields options,
    fun name first later named => ?_, fun s axis => ⟨?_, fun key has => ?_⟩⟩
  · exact ⟨_, get?_resolve named options, fun key => ScaleKey.decided_constrain ..⟩
  · exact ScaleKey.constrain_twice s axis
  · exact ScaleKey.isSome_get?_constrain axis has

/-! ## A field that is named twice -/

def positional : ScaleField where
  field := "v"
  baseline := .ofKind .pow
  axis := some "xAxis"

def coloring : ScaleField where
  field := "v"
  baseline := .ofKind .cat
  axis := some "yAxis"

/-- The tick count of the second axis is negative. -/
def axes : Options where
  root := .obj [
    ("xAxis", .obj [("min", .num 1), ("tickCount", .num 2.5)]),
    ("yAxis", .obj [("min", .num 5), ("tickCount", .num (-1))])]

theorem resolve_decided_twice :
    ∃ s, Entries.get? (resolve [positional, coloring] axes) "v" = some s ∧
      (s.kind, s.min, s.tickCount) = (some .pow, some 5, some 3) ∧
      ∀ key : ScaleKey, key.Decided axes positional.baseline [positional, coloring] (key.get? s) := by
  have settled : (Entries.get? (resolve [positional, coloring] axes) "v").map
      (fun s => (s.kind, s.min, s.tickCount)) = some (some .pow, some 5, some 3) := by
    decide +kernel
  obtain ⟨-, -, each, -⟩ := resolve_decided [positional, coloring] axes
  obtain ⟨s, found, decided⟩ := each "v" positional [coloring] rfl
  rw [found, Option.map_some, Option.some.injEq] at settled
  exact ⟨s, found, settled, decided⟩

end ScaleSet
end Charting
