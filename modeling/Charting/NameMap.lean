/-!
# Names of geometries

A plot type speaks of columns, the engine of intervals. The two directions are written out as
tables of their own and should be inverse to each other.
-/

namespace Charting

/-- Names on both sides; the first row for a name counts. -/
structure NameMap where
  engineNames : List (String × String) := []
  semanticNames : List (String × String) := []
deriving DecidableEq, Repr

namespace NameMap

/-- The engine's name for a name of the plot type. -/
def toEngine? (names : NameMap) (semantic : String) : Option String :=
  names.engineNames.lookup semantic

/-- The plot type's name for a name of the engine. -/
def toSemantic? (names : NameMap) (engine : String) : Option String :=
  names.semanticNames.lookup engine

def roundTripsSemantic (names : NameMap) (semantic : String) : Bool :=
  (names.toEngine? semantic).bind names.toSemantic? == some semantic

def roundTripsEngine (names : NameMap) (engine : String) : Bool :=
  (names.toSemantic? engine).bind names.toEngine? == some engine

/-- The first listed name that does not come back: those of the plot type, then the engine's. -/
def firstBroken? (names : NameMap) : Option String :=
  ((names.engineNames.map Prod.fst).find? fun s => !names.roundTripsSemantic s).or
    ((names.semanticNames.map Prod.fst).find? fun e => !names.roundTripsEngine e)

end NameMap

end Charting
