import Charting.Layout.Headless
import Charting.Number.Text
import Charting.Registry
import Charting.Text.Invisible

/-!
# Inspection

The text under which values show up in a log: constructors and fields by name, texts quoted.
-/

namespace Charting.Inspect

/-- Numbers are positional from `0.0001` up to sixteen digits before the point. -/
def numberLayout : NumberLayout where
  leastPlain := -4
  greatestPlain := 15
  positiveExponent := ""
  tie := .up
  nan := "NaN"
  infinity := "inf"
  negativeInfinity := "-inf"

/-- A character of a quoted text; one that cannot be seen is shown by its number. -/
def escapeChar (c : Char) : List Char :=
  match c with
  | '\x00' => ['\\', '0']
  | '\t' => ['\\', 't']
  | '\r' => ['\\', 'r']
  | '\n' => ['\\', 'n']
  | '"' => ['\\', '"']
  | '\\' => ['\\', '\\']
  | c =>
    if Text.isInvisible c then
      '\\' :: 'u' :: '\x7b' :: Nat.toDigits 16 c.toNat ++ ['\x7d']
    else [c]

def quote (s : String) : String :=
  String.ofList ('"' :: s.toList.flatMap escapeChar ++ ['"'])

def commaSeparated (items : List String) : String := String.intercalate ", " items

/-- A record by name with some of its fields; `partly` says that there are more. -/
def record (name : String) (fields : List (String × String)) (partly : Bool) : String :=
  let shown := fields.map fun (key, value) => key ++ ": " ++ value
  name ++ " \x7b " ++ commaSeparated (if partly then shown ++ [".."] else shown) ++ " \x7d"

mutual
/-- An option tree; functions have no text of their own. -/
def tree : OptionTree → String
  | .null => "Null"
  | .bool b => "Bool(" ++ (if b then "true" else "false") ++ ")"
  | .num x => "Number(" ++ numberLayout.text x ++ ")"
  | .str s => "String(" ++ quote s ++ ")"
  | .arr items => "Array([" ++ commaSeparated (trees items) ++ "])"
  | .obj fields => "Object(\x7b" ++ commaSeparated (members fields) ++ "\x7d)"
  | .fn _ => "Callback(Callback(<fn>))"

def trees : List OptionTree → List String
  | [] => []
  | item :: rest => tree item :: trees rest

def members : List (String × OptionTree) → List String
  | [] => []
  | (key, value) :: rest => (quote key ++ ": " ++ tree value) :: members rest
end

def eventRow (row : EventRow) : String :=
  record "EventMapping"
    [("handler_key", quote row.handlerKey), ("engine_event", quote row.engineEvent)] true

def ruleStage : RuleStage → String
  | .preRender => "PreRender"
  | .afterRender => "AfterRender"

def rule {σ : Type} (r : Rule σ) : String :=
  record "ResponsiveRule" [("name", quote r.name), ("stage", ruleStage r.stage)] true

def registry {σ : Type} (r : Registry σ) : String :=
  record "PlotTypeRegistry" [("names", "[" ++ commaSeparated (r.names.map quote) ++ "]")] false

def viewport (v : Viewport) : String :=
  record "Viewport" [("width", toString v.width), ("height", toString v.height)] false

def headless (h : Layout.Headless) : String :=
  record "NullRenderer"
    [("render_count", toString h.renders), ("last_element_count", toString h.lastElements),
      ("last_label_count", toString h.lastLabels)] false

def stage : Stage → String
  | .construct => "Construct"
  | .options => "Options"
  | .beforeInit => "BeforeInit"
  | .scale => "Scale"
  | .coordinate => "Coordinate"
  | .addGeometry => "AddGeometry"
  | .animation => "Animation"
  | .parseEvents => "ParseEvents"
  | .render => "Render"
  | .afterRender => "AfterRender"

/-- A layer, whose plot type and renderer are shown as given. -/
def layer (plotType renderer : String) (l : Layer) : String :=
  record "PlotLayer"
    [("plot_type", quote plotType), ("renderer", renderer), ("viewport", viewport l.viewport),
      ("stage", stage l.stage)] true

end Charting.Inspect
