/-!
# Stages of a layer

A layer goes through its stages in this order, and remembers the last one it completed.
-/

namespace Charting

inductive Stage where
  | construct
  | options
  | beforeInit
  | scale
  | coordinate
  | addGeometry
  | animation
  | parseEvents
  | render
  | afterRender
deriving DecidableEq, Repr, Inhabited

namespace Stage

def all : List Stage :=
  [.construct, .options, .beforeInit, .scale, .coordinate, .addGeometry, .animation, .parseEvents,
    .render, .afterRender]

/-- The name of a stage in an exported plan. -/
def key : Stage → String
  | .construct => "construct"
  | .options => "options"
  | .beforeInit => "beforeInit"
  | .scale => "scale"
  | .coordinate => "coordinate"
  | .addGeometry => "addGeometry"
  | .animation => "animation"
  | .parseEvents => "parseEvents"
  | .render => "render"
  | .afterRender => "afterRender"

/-- The name of a stage in messages, which for `options` tells what it does. -/
def name : Stage → String
  | .options => "getOptions"
  | stage => stage.key

def precedes (a b : Stage) : Bool := a.ctorIdx < b.ctorIdx

end Stage

end Charting
