import Charting.Failure
import Charting.Options.Merge
import Charting.Options.Path

/-!
# Resolved options

The options of one chart: the defaults of every chart, then those of the plot type, then what the
caller asked for. They are read and written by dotted paths.
-/

namespace Charting

/-- The options of one chart after its sources have been merged. -/
structure Options where
  root : OptionTree
deriving Inhabited

namespace Options

/-- The caller may give an object, or null for nothing. -/
def isConfiguration : OptionTree → Bool
  | .obj _ => true
  | .null => true
  | _ => false

/-- Merges three sources, the later over the earlier. A source that is no object adds nothing. -/
def resolve (base defaults user : OptionTree) : Except Failure Options :=
  if isConfiguration user then
    .ok ⟨(((OptionTree.obj []).mergeObject base).mergeObject defaults).mergeObject user⟩
  else .error (.invalidOption "<root>" "plot configuration must be an object")

def get? (options : Options) (path : String) : Option OptionTree := options.root.pointer? path

/-- There is a value at the path; null does not count. -/
def contains (options : Options) (path : String) : Bool :=
  (options.get? path).any fun value => !value.isNull

/-- The value at the path, unless it is null. -/
def present? (options : Options) (path : String) : Option OptionTree :=
  (options.get? path).bind OptionTree.nonNull?

def bool? (options : Options) (path : String) : Option Bool :=
  (options.get? path).bind OptionTree.bool?

def number? (options : Options) (path : String) : Option Float :=
  (options.get? path).bind OptionTree.number?

def string? (options : Options) (path : String) : Option String :=
  (options.get? path).bind OptionTree.string?

/-- The string at the path, which the chart cannot do without. -/
def requireString (options : Options) (path : String) : Except Failure String :=
  match options.string? path with
  | some s => .ok s
  | none => .error (.missingOption path)

def set (options : Options) (path : String) (value : OptionTree) : Options :=
  ⟨options.root.setPath path value⟩

/-- Two sets of options agree when their trees do. -/
instance : BEq Options := ⟨fun a b => a.root == b.root⟩

end Options

end Charting
