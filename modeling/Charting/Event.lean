import Charting.NameMap
import Charting.Options.Exchange

/-!
# Events

The engine reports events as `target:action`. A plot type lists which of the caller's handlers want
which of them; binding picks the handlers the caller gave, and dispatching puts an event into the
plot type's words and hands it to each handler bound to it.
-/

namespace Charting

/-- An event as the engine reports it. -/
structure EngineEvent where
  name : String
  x : Float := 0
  y : Float := 0
  datum : Option Datum := none

/-- The text before the first colon, and the text from it on. -/
def splitTarget (name : String) : String × String :=
  let chars := name.toList
  (String.ofList (chars.takeWhile (· != ':')), String.ofList (chars.dropWhile (· != ':')))

def EngineEvent.target (event : EngineEvent) : String := (splitTarget event.name).1

/-- An event in the plot type's words. -/
structure SemanticEvent where
  name : String
  handlerKey : String
  plotType : String
  x : Float
  y : Float
  datum : Option Datum

/-- The event as JSON; a coordinate that is not finite is null. -/
def SemanticEvent.toJson (event : SemanticEvent) : Json :=
  .obj [
    ("name", .str event.name),
    ("handlerKey", .str event.handlerKey),
    ("plotType", .str event.plotType),
    ("x", (OptionTree.num event.x).toJson),
    ("y", (OptionTree.num event.y).toJson),
    ("datum", .ofOption .obj event.datum)]

/-- The event as a handler receives it. -/
def SemanticEvent.toOptions (event : SemanticEvent) : OptionTree := .ofJson event.toJson

/-- The names under which an event is delivered. -/
structure EventContext where
  semanticName : String
  handlerKey : String
  plotType : String

/-- Makes the delivered event of a reported one. -/
abbrev EventShape := EngineEvent → EventContext → SemanticEvent

/-- The place and the row of the reported event, unchanged. -/
def elementPayload : EventShape := fun event context =>
  { name := context.semanticName
    handlerKey := context.handlerKey
    plotType := context.plotType
    x := event.x
    y := event.y
    datum := event.datum }

/-- A handler the caller may give, and the event it wants. -/
structure EventRow where
  handlerKey : String
  engineEvent : String
  shape : EventShape := elementPayload

/--
The event's name with its target in the plot type's words; a target that is no geometry keeps its
name, and so does an event without a colon.
-/
def semanticEventName (names : NameMap) (engineEvent : String) : String :=
  let (target, action) := splitTarget engineEvent
  if action.isEmpty then engineEvent
  else match names.toSemantic? target with
    | some semantic => semantic ++ action
    | none => engineEvent

/-- A handler bound to an event. -/
structure BoundHandler where
  row : EventRow
  semanticName : String
  handler : Callback

/-- The handlers of a chart, in the order of the plot type's list. -/
structure EventBindings where
  plotType : String := ""
  handlers : List BoundHandler := []
deriving Inhabited

namespace EventBindings

/-- The handler bound for a row, if the caller gave a function under its key. -/
def bindRow? (names : NameMap) (events : OptionTree) (row : EventRow) : Option BoundHandler :=
  ((events.get? row.handlerKey).bind OptionTree.callback?).map fun handler =>
    { row, semanticName := semanticEventName names row.engineEvent, handler }

/-- Binds the functions among the caller's handlers; anything else there is ignored. -/
def bind (plotType : String) (table : List EventRow) (names : NameMap)
    (events : Option OptionTree) : EventBindings :=
  { plotType
    handlers := match events with
      | some events => table.filterMap (bindRow? names events)
      | none => [] }

def handlerKeys (bindings : EventBindings) : List String :=
  bindings.handlers.map fun bound => bound.row.handlerKey

def deliver (bindings : EventBindings) (event : EngineEvent) (bound : BoundHandler) :
    SemanticEvent :=
  bound.row.shape event
    { semanticName := bound.semanticName
      handlerKey := bound.row.handlerKey
      plotType := bindings.plotType }

/-- Hands an event to every handler bound to it, in order, and returns what was delivered. -/
def dispatch {σ : Type} (invoke : Invoke σ) (bindings : EventBindings) (event : EngineEvent) :
    StateM σ (List SemanticEvent) :=
  (bindings.handlers.filter fun bound => bound.row.engineEvent == event.name).mapM fun bound => do
    let delivered := bindings.deliver event bound
    let _ ← invoke bound.handler [delivered.toOptions]
    return delivered

end EventBindings

end Charting
