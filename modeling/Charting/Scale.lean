import Charting.Number.BinaryFraction
import Charting.Options.Exchange
import Charting.Options.Resolved

/-!
# Scales

A scale says how the values of one field are laid out. Each of its settings is optional, and an
empty scale leaves everything to the engine. An axis configuration overrides the settings it gives
in the right form and leaves the others.
-/

namespace Charting

inductive ScaleKind where
  | cat
  | timeCat
  | time
  | linear
  | log
  | pow
deriving DecidableEq, Repr

namespace ScaleKind

def name : ScaleKind → String
  | .cat => "cat"
  | .timeCat => "timeCat"
  | .time => "time"
  | .linear => "linear"
  | .log => "log"
  | .pow => "pow"

/-- The family of a name; `value` is another name of the linear one. -/
def ofName? : String → Option ScaleKind
  | "cat" => some .cat
  | "timeCat" => some .timeCat
  | "time" => some .time
  | "linear" => some .linear
  | "value" => some .linear
  | "log" => some .log
  | "pow" => some .pow
  | _ => none

/-- The values are categories, each with a band of its own. -/
def isDiscrete : ScaleKind → Bool
  | .cat => true
  | .timeCat => true
  | _ => false

end ScaleKind

structure Scale where
  kind : Option ScaleKind := none
  min : Option Float := none
  max : Option Float := none
  minLimit : Option Float := none
  maxLimit : Option Float := none
  nice : Option Bool := none
  tickCount : Option UInt32 := none
  tickInterval : Option Float := none
  mask : Option String := none
  displayName : Option String := none
  formatter : Option OptionTree := none
deriving Inhabited

/-- Scales by field, in the order in which the fields were first named. -/
abbrev ScaleSet := Entries Scale

namespace Scale

/-- A scale that leaves everything to the engine. -/
def unconstrained : Scale := {}

def ofKind (kind : ScaleKind) : Scale := { kind := some kind }

def isUnconstrained (s : Scale) : Bool :=
  s.kind.isNone && s.min.isNone && s.max.isNone && s.minLimit.isNone && s.maxLimit.isNone &&
    s.nice.isNone && s.tickCount.isNone && s.tickInterval.isNone && s.mask.isNone &&
    s.displayName.isNone && s.formatter.isNone

/--
The scale with the settings of an axis over its own. A setting of the wrong kind, an unknown
family and a tick count that is negative or not finite count as not given.
-/
def constrain (s : Scale) (axis : OptionTree) : Scale :=
  let number (key : String) := (axis.get? key).bind OptionTree.number?
  let string (key : String) := (axis.get? key).bind OptionTree.string?
  { kind := ((string "type").bind ScaleKind.ofName?).or s.kind
    min := (number "min").or s.min
    max := (number "max").or s.max
    minLimit := (number "minLimit").or s.minLimit
    maxLimit := (number "maxLimit").or s.maxLimit
    nice := ((axis.get? "nice").bind OptionTree.bool?).or s.nice
    tickCount := ((number "tickCount").bind countOfFloat?).or s.tickCount
    tickInterval := (number "tickInterval").or s.tickInterval
    mask := (string "mask").or s.mask
    displayName := (string "alias").or s.displayName
    formatter := ((axis.get? "formatter").bind OptionTree.nonNull?).or s.formatter }

def toJson (s : Scale) : Json :=
  .ofMembers [
    ("type", s.kind.map fun k => .str k.name),
    ("min", s.min.map .ofFloat),
    ("max", s.max.map .ofFloat),
    ("minLimit", s.minLimit.map .ofFloat),
    ("maxLimit", s.maxLimit.map .ofFloat),
    ("nice", s.nice.map .bool),
    ("tickCount", s.tickCount.map fun n => .ofNat n.toNat),
    ("tickInterval", s.tickInterval.map .ofFloat),
    ("mask", s.mask.map .str),
    ("alias", s.displayName.map .str),
    ("formatter", s.formatter.map OptionTree.toJson)]

end Scale

/-- A field to be given a scale: what it starts from, and the option that may constrain it. -/
structure ScaleField where
  field : String
  baseline : Scale
  axis : Option String := none

namespace ScaleField

/-- The scale with the constraints of this field's axis, if the options have one. -/
def constrain (f : ScaleField) (options : Options) (s : Scale) : Scale :=
  match f.axis.bind options.get? with
  | some axis => s.constrain axis
  | none => s

end ScaleField

namespace ScaleSet

/--
One scale per field. A field that is named twice starts from its first baseline, and every axis
named for it applies.
-/
def resolve (fields : List ScaleField) (options : Options) : ScaleSet :=
  fields.foldl
    (fun scales f =>
      Entries.update f.field (fun s => f.constrain options (s.getD f.baseline)) scales)
    []

/--
The scales of a plot on two axes: the x field from the given baseline, the y field from nothing,
and a categorical scale for the color field if there is one.
-/
def cartesian (options : Options) (xBaseline : Scale) : Except Failure ScaleSet := do
  let xField ← options.requireString "xField"
  let yField ← options.requireString "yField"
  let color := (options.string? "colorField").map fun field =>
    { field, baseline := Scale.ofKind .cat : ScaleField }
  return resolve
    ({ field := xField, baseline := xBaseline, axis := some "xAxis" } ::
      { field := yField, baseline := Scale.unconstrained, axis := some "yAxis" } ::
      color.toList)
    options

def toJson (scales : ScaleSet) : Json := .obj (scales.map fun (field, s) => (field, s.toJson))

end ScaleSet

end Charting
