import Charting.Layer.Basic
import Charting.Plot.Column
import Charting.Plot.Scatter

/-!
# The registry of plot types

Plot types by name, in the order in which the names were first registered.
-/

namespace Charting

structure Registry (σ : Type) where
  entries : Entries (PlotType σ) := []

namespace Registry

variable {σ : Type}

/-- The plot types that are always there. -/
def builtin (invoke : Invoke σ) : Registry σ where
  entries := [("column", Plot.Column.plot invoke), ("scatter", Plot.Scatter.plot σ)]

def get? (registry : Registry σ) (name : String) : Option (PlotType σ) :=
  Entries.get? registry.entries name

def contains (registry : Registry σ) (name : String) : Bool := (registry.get? name).isSome

def names (registry : Registry σ) : List String := Entries.keys registry.entries

def plotTypes (registry : Registry σ) : List (PlotType σ) := registry.entries.map Prod.snd

/--
Registers a plot type and returns the one that had the name before. A name keeps its place, and the
empty name is refused.
-/
def register (registry : Registry σ) (name : String) (plot : PlotType σ) :
    Except Failure (Option (PlotType σ) × Registry σ) :=
  if name.isEmpty then .error (.invalidOption "name" "plot type name must not be empty")
  else .ok (registry.get? name, ⟨Entries.insert name plot registry.entries⟩)

/-- Removes a name and says whether it was there; the others keep their order. -/
def unregister (registry : Registry σ) (name : String) : Bool × Registry σ :=
  (registry.contains name, ⟨Entries.erase name registry.entries⟩)

/-- The plot type of a name and a layer of it for a description. -/
def create (registry : Registry σ) (name : String) (description : Description) :
    Except Failure (PlotType σ × Layer) :=
  match registry.get? name with
  | none => .error (.unknownPlotType name)
  | some plot => (Layer.create plot description).map fun layer => (plot, layer)

end Registry

end Charting
