import Charting.Proofs.Number.Whole
import Charting.Proofs.Scale
import Charting.Proofs.Settings

/-!
# Typed settings of an axis

Typed settings of an axis are written as options, and the scale on that axis takes them from there.
The two sides agree on keys and kinds: a setting that was made reaches the scale as it was made.
-/

namespace Charting

namespace AxisSettings

variable (s : AxisSettings)

/-- The typed settings, with none for those that were not made. -/
def table (s : AxisSettings) : Entries (Option OptionTree) :=
  [("visible", s.visible.map .bool), ("type", s.scaleType.map .str), ("min", s.min.map .num),
    ("max", s.max.map .num), ("nice", s.nice.map .bool),
    ("tickCount", s.tickCount.map fun n => .num n.toFloat),
    ("tickInterval", s.tickInterval.map .num), ("mask", s.mask.map .str),
    ("formatter", s.formatter.map .fn),
    ("title", s.titleVisible.map fun b => .obj [("visible", .bool b)])]

theorem wellKeyed_table : Entries.WellKeyed s.table := by
  simp [Entries.WellKeyed, Entries.keys, table]

variable {s}

theorem get?_toOptions (bare : s.extra = []) (key : String) :
    (OptionTree.obj s.toOptions).get? key = (Entries.get? s.table key).join := by
  change Entries.get? (Entries.lay s.table s.extra) key = _
  rw [Entries.get?_lay s.wellKeyed_table, bare, Entries.get?_nil, Option.or_none]

theorem read_toOptions {α : Type} {setting : Option α} {wrap : α → OptionTree}
    {read : OptionTree → Option α} {key : String} (bare : s.extra = [])
    (written : (Entries.get? s.table key).join = setting.map wrap)
    (reads : ∀ a, read (wrap a) = some a) :
    ((OptionTree.obj s.toOptions).get? key).bind read = setting := by
  rw [get?_toOptions bare]
  exact OptionTree.read_written written reads

end AxisSettings

/--
A scale under an axis with typed settings only takes each of them as it was made, the family if its
name is known, and keeps its own for the rest. The count of ticks is written as a number without
loss.
-/
theorem Scale.constrain_toOptions {s : AxisSettings} (bare : s.extra = []) (d : Scale) :
    d.constrain (.obj s.toOptions) =
        { kind := (s.scaleType.bind ScaleKind.ofName?).or d.kind
          min := s.min.or d.min
          max := s.max.or d.max
          minLimit := d.minLimit
          maxLimit := d.maxLimit
          nice := s.nice.or d.nice
          tickCount := s.tickCount.or d.tickCount
          tickInterval := s.tickInterval.or d.tickInterval
          mask := s.mask.or d.mask
          displayName := d.displayName
          formatter := (s.formatter.map .fn).or d.formatter } ∧
      ∀ n, s.tickCount = some n → ∃ x b,
        (OptionTree.obj s.toOptions).get? "tickCount" = some (.num x) ∧
          BinaryFraction.ofFloat? x = some b ∧ b.value = n.toNat := by
  have kind : ((OptionTree.obj s.toOptions).get? "type").bind OptionTree.string? = s.scaleType :=
    AxisSettings.read_toOptions bare rfl fun _ => rfl
  have min : ((OptionTree.obj s.toOptions).get? "min").bind OptionTree.number? = s.min :=
    AxisSettings.read_toOptions bare rfl fun _ => rfl
  have max : ((OptionTree.obj s.toOptions).get? "max").bind OptionTree.number? = s.max :=
    AxisSettings.read_toOptions bare rfl fun _ => rfl
  have nice : ((OptionTree.obj s.toOptions).get? "nice").bind OptionTree.bool? = s.nice :=
    AxisSettings.read_toOptions bare rfl fun _ => rfl
  have tickInterval :
      ((OptionTree.obj s.toOptions).get? "tickInterval").bind OptionTree.number? =
        s.tickInterval :=
    AxisSettings.read_toOptions bare rfl fun _ => rfl
  have mask : ((OptionTree.obj s.toOptions).get? "mask").bind OptionTree.string? = s.mask :=
    AxisSettings.read_toOptions bare rfl fun _ => rfl
  -- the count goes through a machine number, so that reading it is two steps
  have tickCount : (((OptionTree.obj s.toOptions).get? "tickCount").bind
      OptionTree.number?).bind countOfFloat? = s.tickCount := by
    rw [Option.bind_assoc]
    exact AxisSettings.read_toOptions bare rfl BinaryFraction.countOfFloat?_toFloat
  have formatter : ((OptionTree.obj s.toOptions).get? "formatter").bind OptionTree.nonNull? =
      s.formatter.map .fn := by
    rw [AxisSettings.get?_toOptions bare]
    change (s.formatter.map .fn).bind OptionTree.nonNull? = _
    cases s.formatter <;> rfl
  have minLimit : (OptionTree.obj s.toOptions).get? "minLimit" = none :=
    AxisSettings.get?_toOptions bare _
  have maxLimit : (OptionTree.obj s.toOptions).get? "maxLimit" = none :=
    AxisSettings.get?_toOptions bare _
  have displayName : (OptionTree.obj s.toOptions).get? "alias" = none :=
    AxisSettings.get?_toOptions bare _
  constructor
  · simp only [Scale.constrain, kind, min, max, minLimit, maxLimit, nice, tickCount, tickInterval,
      mask, displayName, formatter, Option.bind_none, Option.none_or]
  · intro n set
    obtain ⟨b, exact, same⟩ := BinaryFraction.ofFloat?_toFloat n
    refine ⟨n.toFloat, b, ?_, exact, same⟩
    rw [AxisSettings.get?_toOptions bare]
    exact congrArg (Option.map fun n : UInt32 => OptionTree.num n.toFloat) set

theorem Scale.constrain_toOptions_most_ticks :
    let s : AxisSettings :=
      { scaleType := some "unheard", tickCount := some 4294967295, mask := some "0.0",
        formatter := some ⟨7⟩, titleVisible := some false }
    s.extra = [] ∧
      (Scale.ofKind .cat).constrain (.obj s.toOptions) =
        { kind := some .cat, tickCount := some 4294967295, mask := some "0.0",
          formatter := some (.fn ⟨7⟩) } :=
  ⟨rfl, (Scale.constrain_toOptions rfl (.ofKind .cat)).1⟩

end Charting
