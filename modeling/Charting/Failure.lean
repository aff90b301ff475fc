import Charting.Viewport

/-!
# What can go wrong

One cause per way in which a chart cannot be planned or drawn, and its wording.
-/

namespace Charting

/-- Why an operation was refused or given up. -/
inductive Failure where
  | unknownPlotType (name : String)
  | unknownGeometry (plotType name : String)
  /-- An option that must be a string is not. -/
  | missingOption (path : String)
  /-- Something in the description has the wrong shape. -/
  | invalidOption (path reason : String)
  | unsupportedComponent (kind : String)
  /-- A side of the viewport is zero. -/
  | invalidViewport (viewport : Viewport)
  /-- A stage was asked for before the one it needs. -/
  | invalidStage (requested required : String)
  /-- A factory, a hook or the renderer gave up. -/
  | collaborator (reason : String)
  | malformedJson
deriving DecidableEq, Repr

def Failure.message : Failure → String
  | .unknownPlotType name => "unknown plot type: `" ++ name ++ "`"
  | .unknownGeometry plotType name =>
    "plot type `" ++ plotType ++ "` has no geometry mapping for `" ++ name ++ "`"
  | .missingOption path => "missing required option `" ++ path ++ "`"
  | .invalidOption path reason => "invalid option `" ++ path ++ "`: " ++ reason
  | .unsupportedComponent kind =>
    "component factory does not provide `" ++ kind ++ "` components"
  | .invalidViewport viewport =>
    "invalid viewport size: width=" ++ toString viewport.width ++ ", height=" ++
      toString viewport.height
  | .invalidStage requested required =>
    "stage `" ++ requested ++ "` cannot run before `" ++ required ++ "`"
  | .collaborator reason => "collaborator failure: " ++ reason
  | .malformedJson => "malformed JSON text"

/-- An effect on the outside world `σ` that may fail; the world stays changed when it does. -/
abbrev Attempt (σ α : Type) := ExceptT Failure (StateM σ) α

/-- An outcome that touches nothing outside. -/
def Attempt.ofExcept {σ α : Type} (outcome : Except Failure α) : Attempt σ α :=
  ExceptT.mk (pure outcome)

end Charting
