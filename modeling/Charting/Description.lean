import Charting.Failure
import Charting.Json.Reader
import Charting.Options.Exchange

/-!
# Descriptions of charts

A chart is described by its options, its rows and its size. In a JSON description the rows and the
size stand among the options under names of their own.
-/

namespace Charting

/-- What the caller hands over for one chart. -/
structure Description where
  options : OptionTree := .null
  data : List Datum := []
  viewport : Viewport := {}

namespace Description

/-- The rows of a list of values, of which each must be an object; `index` numbers the first. -/
def rows (index : Nat) : List Json → Except Failure (List Datum)
  | [] => .ok []
  | .obj datum :: rest => (rows (index + 1) rest).map (datum :: ·)
  | _ :: _ => .error (.invalidOption ("data." ++ toString index) "data rows must be objects")

/-- The rows of the `data` member; none if it is missing or null. -/
def dataOf : Option Json → Except Failure (List Datum)
  | none => .ok []
  | some .null => .ok []
  | some (.arr items) => rows 0 items
  | some _ => .error (.invalidOption "data" "data must be an array of objects")

/-- A size in pixels; the default if it is missing or null. -/
def sizeOf (key : String) (default : UInt32) : Option Json → Except Failure UInt32
  | none => .ok default
  | some .null => .ok default
  | some (.num (.int n)) =>
    if 0 ≤ n && n < UInt32.size then .ok (UInt32.ofNat n.toNat)
    else .error (.invalidOption key "must be a non-negative integer pixel size")
  | some _ => .error (.invalidOption key "must be a non-negative integer pixel size")

/-- The description in a JSON object: rows and size are lifted out, everything else is an option. -/
def ofFields (fields : Entries Json) : Except Failure Description := do
  let data ← dataOf (Entries.get? fields "data")
  let fields := Entries.swapErase "data" fields
  let width ← sizeOf "width" 400 (Entries.get? fields "width")
  let fields := Entries.swapErase "width" fields
  let height ← sizeOf "height" 300 (Entries.get? fields "height")
  let fields := Entries.swapErase "height" fields
  return { options := .ofJson (.obj fields), data, viewport := { width, height } }

/-- The description in a JSON value, which must be an object. -/
def ofJson : Json → Except Failure Description
  | .obj fields => ofFields fields
  | _ => .error (.invalidOption "<root>" "chart description must be a JSON object")

/-- The description in a text that `parse` turns into a JSON value. -/
def readBy (parse : String → Option Json) (text : String) : Except Failure Description :=
  match parse text with
  | some value => ofJson value
  | none => .error .malformedJson

def read (text : String) : Except Failure Description := readBy Json.read? text

end Description

end Charting
