import Charting.Event
import Charting.Proofs.Invocations
import Charting.Proofs.Options.Exchange
import Mathlib.Data.List.TakeWhile

/-!
# Delivery of events

Binding picks rows of the plot type's list by what the caller gave, dispatching picks among them by
the name of the event. Together they deliver one event for each row that both of them pick, in the
order of the list, and invoke nothing but the functions of these rows.
-/

namespace Charting

/-! ## Names -/

/-- A name of an event, and the same name in the plot type's words. -/
inductive Translates (names : NameMap) : String → String → Prop
  | known {target semantic action : String} : ':' ∉ target.toList →
      names.toSemantic? target = some semantic →
      Translates names (target ++ ":" ++ action) (semantic ++ ":" ++ action)
  | foreign {target action : String} : ':' ∉ target.toList → names.toSemantic? target = none →
      Translates names (target ++ ":" ++ action) (target ++ ":" ++ action)
  | bare {name : String} : ':' ∉ name.toList → Translates names name name

section Splitting

variable {target action name : String}

theorem ne_colon_of_notMem {text : List Char} (free : ':' ∉ text) : ∀ c ∈ text, (c != ':') = true :=
  fun _ among => bne_iff_ne.mpr fun same => free (same ▸ among)

theorem splitTarget_append (free : ':' ∉ target.toList) :
    splitTarget (target ++ ":" ++ action) = (target, ":" ++ action) := by
  have text : (target ++ ":" ++ action).toList = target.toList ++ ':' :: action.toList := by simp
  rw [splitTarget, text, List.takeWhile_append_of_pos (ne_colon_of_notMem free),
    List.dropWhile_append_of_pos (ne_colon_of_notMem free)]
  have rest : String.ofList (':' :: action.toList) = ":" ++ action := by
    rw [← List.singleton_append, String.ofList_append, String.ofList_toList]
  simp [rest]

theorem splitTarget_of_notMem (free : ':' ∉ name.toList) : splitTarget name = (name, "") := by
  rw [splitTarget, List.takeWhile_eq_self_iff.mpr (ne_colon_of_notMem free),
    List.dropWhile_eq_nil_iff.mpr (ne_colon_of_notMem free), String.ofList_toList]

/-- Every name is a target, a colon and an action, or has no colon at all. -/
theorem target_or_bare (name : String) :
    (∃ target action, ':' ∉ target.toList ∧ name = target ++ ":" ++ action) ∨
      ':' ∉ name.toList := by
  by_cases colon : ':' ∈ name.toList
  · obtain ⟨before, after, split, free⟩ := List.eq_append_cons_of_mem colon
    refine .inl ⟨String.ofList before, String.ofList after, by simpa using free, ?_⟩
    rw [← String.toList_inj, split]
    simp
  · exact .inr colon

theorem translates_semanticEventName (names : NameMap) (engineEvent : String) :
    Translates names engineEvent (semanticEventName names engineEvent) := by
  rcases target_or_bare engineEvent with ⟨target, action, free, rfl⟩ | free
  · have filled : (":" ++ action).isEmpty = false := by simp
    simp only [semanticEventName, splitTarget_append free, filled, Bool.false_eq_true, ↓reduceIte]
    cases known : names.toSemantic? target with
    | none => exact .foreign free known
    | some semantic =>
        simp only [← String.append_assoc]
        exact .known free known
  · simp only [semanticEventName, splitTarget_of_notMem free]
    exact .bare free

end Splitting

/-! ## What a handler receives -/

namespace SemanticEvent

/-- A coordinate as a handler receives it. -/
def coordinate (x : Float) : OptionTree := if x.isFinite then .num x else .null

/-- A handler receives the six fields; a coordinate that is not finite and a missing row are null. -/
theorem toOptions_eq (event : SemanticEvent) :
    event.toOptions = .obj [
      ("name", .str event.name),
      ("handlerKey", .str event.handlerKey),
      ("plotType", .str event.plotType),
      ("x", coordinate event.x),
      ("y", coordinate event.y),
      ("datum", (event.datum.map OptionTree.ofDatum).getD .null)] := by
  have read (x : Float) : OptionTree.ofJson (OptionTree.num x).toJson = coordinate x :=
    OptionTree.ofJson_toJson (.num x)
  have row : OptionTree.ofJson (.ofOption .obj event.datum) =
      (event.datum.map OptionTree.ofDatum).getD .null := by
    cases event.datum <;> rfl
  rw [toOptions, toJson]
  simp only [OptionTree.ofJson, OptionTree.ofJsonFields, read, row]

end SemanticEvent

/-! ## Rows -/

/-- The function that the caller's handlers hold under the key of a row. -/
def EventRow.handler? (row : EventRow) : Option OptionTree → Option Callback
  | some (.obj handlers) =>
    match Entries.get? handlers row.handlerKey with
    | some (.fn handler) => some handler
    | _ => none
  | _ => none

/-- An event that was delivered, with the row that wants it and the function that received it. -/
structure Delivery where
  row : EventRow
  handler : Callback
  event : SemanticEvent

namespace Delivery

def invocation (d : Delivery) : Invocation := ⟨d.handler, [d.event.toOptions]⟩

/-- The function is the one that the caller gave for the row, and the event has the row's shape. -/
structure Fits (plotType : String) (names : NameMap) (events : Option OptionTree)
    (reported : EngineEvent) (d : Delivery) : Prop where
  handled : d.row.handler? events = some d.handler
  shaped : ∃ semanticName, Translates names d.row.engineEvent semanticName ∧
    d.event = d.row.shape reported { semanticName, handlerKey := d.row.handlerKey, plotType }

end Delivery

namespace EventBindings

variable {σ : Type} {plotType : String} {table : List EventRow} {names : NameMap}
  {events : Option OptionTree} {reported : EngineEvent}

/-- A row with its function, as it is bound. -/
def bound (names : NameMap) (row : EventRow) (handler : Callback) : BoundHandler :=
  { row, semanticName := semanticEventName names row.engineEvent, handler }

theorem bindRow?_eq (events : OptionTree) (row : EventRow) :
    bindRow? names events row = (row.handler? (some events)).map (bound names row) := by
  rw [bindRow?, OptionTree.get?]
  cases events with
  | obj handlers =>
      rw [OptionTree.fields, OptionTree.object?, Option.getD_some, EventRow.handler?]
      cases Entries.get? handlers row.handlerKey with
      | none => rfl
      | some value => cases value <;> rfl
  | _ => rfl

theorem handlers_bind :
    (bind plotType table names events).handlers =
      table.filterMap fun row => (row.handler? events).map (bound names row) := by
  cases events with
  | none => exact (List.filterMap_eq_nil_iff.mpr fun _ _ => rfl).symm
  | some events => simp only [bind, ← bindRow?_eq]

/-- What bindings deliver of an event. -/
def deliveries (bindings : EventBindings) (reported : EngineEvent) : List Delivery :=
  (bindings.handlers.filter fun bound => bound.row.engineEvent == reported.name).map fun bound =>
    { row := bound.row, handler := bound.handler, event := bindings.deliver reported bound }

theorem map_row_deliveries (bindings : EventBindings) (reported : EngineEvent) :
    (bindings.deliveries reported).map Delivery.row =
      (bindings.handlers.filter fun bound =>
        bound.row.engineEvent == reported.name).map BoundHandler.row :=
  List.map_map

/-- Dispatching invokes the functions of the deliveries, each once and in order, and no others. -/
theorem dispatch_eq_all (invoke : Invoke σ) (bindings : EventBindings) (reported : EngineEvent) :
    dispatch invoke bindings reported = do
      let _ ← invoke.all ((bindings.deliveries reported).map Delivery.invocation)
      return (bindings.deliveries reported).map Delivery.event := by
  have each : ∀ bound : BoundHandler, (do
      let delivered := bindings.deliver reported bound
      let _ ← invoke bound.handler [delivered.toOptions]
      return delivered : StateM σ SemanticEvent) =
        (fun _ => bindings.deliver reported bound) <$>
          invoke bound.handler [(bindings.deliver reported bound).toOptions] :=
    fun _ => (map_eq_pure_bind _ _).symm
  rw [← map_eq_pure_bind, deliveries, List.map_map, List.map_map]
  exact Invoke.mapM_eq_all_of_const each _

theorem rows_deliveries :
    ((bind plotType table names events).deliveries reported).map Delivery.row =
      table.filter fun row =>
        (row.handler? events).isSome && row.engineEvent == reported.name := by
  rw [map_row_deliveries, handlers_bind]
  -- row by row, since the second choice is among what the first has left
  induction table with
  | nil => rfl
  | cons row rest ih =>
      rw [List.filterMap_cons, List.filter_cons]
      cases row.handler? events with
      | none => exact ih
      | some handler =>
          simp only [Option.map_some, List.filter_cons, Option.isSome_some, Bool.true_and, bound]
          split
          · rw [List.map_cons, ih]
          · exact ih

theorem fits_of_mem_deliveries {d : Delivery}
    (among : d ∈ (bind plotType table names events).deliveries reported) :
    d.Fits plotType names events reported := by
  obtain ⟨b, picked, rfl⟩ := List.mem_map.mp among
  have listed := (List.mem_filter.mp picked).1
  rw [handlers_bind] at listed
  obtain ⟨row, -, made⟩ := List.mem_filterMap.mp listed
  obtain ⟨handler, given, rfl⟩ := Option.map_eq_some_iff.mp made
  exact ⟨given, _, translates_semanticEventName names row.engineEvent, rfl⟩

theorem deliveries_eq_nil (missing : events.bind OptionTree.object? = none) :
    (bind plotType table names events).deliveries reported = [] := by
  have unhandled : ∀ row : EventRow, row.handler? events = none := by
    intro row
    cases events with
    | none => rfl
    | some events =>
        cases events with
        | obj handlers => cases missing
        | _ => rfl
  rw [← List.map_eq_nil_iff (f := Delivery.row), rows_deliveries]
  simp [unhandled]

/--
An event is delivered once for each row of the list that has a function and the event's name, in the
order of the list. The functions of these rows, and no others, are invoked, each once for its row
and with nothing but the event that is delivered. Without an object of handlers nothing happens.
-/
theorem dispatch_bind (invoke : Invoke σ) (plotType : String) (table : List EventRow)
    (names : NameMap) (events : Option OptionTree) (reported : EngineEvent) :
    (∃ deliveries : List Delivery,
      deliveries.map Delivery.row = table.filter (fun row =>
        (row.handler? events).isSome && row.engineEvent == reported.name) ∧
      (∀ d ∈ deliveries, d.Fits plotType names events reported) ∧
      dispatch invoke (bind plotType table names events) reported = do
        let _ ← invoke.all (deliveries.map Delivery.invocation)
        return deliveries.map Delivery.event) ∧
    (events.bind OptionTree.object? = none →
      dispatch invoke (bind plotType table names events) reported = pure []) := by
  refine ⟨⟨_, rows_deliveries, fun _ => fits_of_mem_deliveries, dispatch_eq_all ..⟩, ?_⟩
  intro missing
  rw [dispatch_eq_all, deliveries_eq_nil missing]
  rfl

/-! ## A click -/

def clickRow (handlerKey : String) : EventRow := ⟨handlerKey, "interval:click", elementPayload⟩

/-- A handler with two rows, and another one between them. -/
def clickTable : List EventRow := [clickRow "onClick", clickRow "onMove", clickRow "onClick"]

def clickNames : NameMap where
  engineNames := []
  semanticNames := [("interval", "column")]

/-- A text under a key is no function. -/
def clickHandlers : OptionTree := .obj [("onClick", .fn ⟨7⟩), ("onMove", .str "x")]

/-- A click on a row at a place that is known from the left only. -/
def click : EngineEvent where
  name := "interval:click"
  x := 12
  y := 0 / 0
  datum := some [("x", .str "a")]

/-- Functions that note how they are invoked. -/
def recording : Invoke (List Invocation) := fun callback args made =>
  (.null, made ++ [⟨callback, args⟩])

def clicked : SemanticEvent where
  name := "column:click"
  handlerKey := "onClick"
  plotType := "column"
  x := 12
  y := 0 / 0
  datum := some [("x", .str "a")]

/-- The handler is invoked for each of its rows, and receives the place as far as it is known. -/
theorem dispatch_bind_click :
    (∃ deliveries : List Delivery,
      deliveries.map Delivery.row = [clickRow "onClick", clickRow "onClick"] ∧
      (∀ d ∈ deliveries, d.Fits "column" clickNames (some clickHandlers) click) ∧
      dispatch recording (bind "column" clickTable clickNames (some clickHandlers)) click = do
        let _ ← recording.all (deliveries.map Delivery.invocation)
        return deliveries.map Delivery.event) ∧
    (dispatch recording (bind "column" clickTable clickNames (some clickHandlers)) click).run [] =
      ([clicked, clicked], [⟨⟨7⟩, [clicked.toOptions]⟩, ⟨⟨7⟩, [clicked.toOptions]⟩]) ∧
    clicked.toOptions = .obj [("name", .str "column:click"), ("handlerKey", .str "onClick"),
      ("plotType", .str "column"), ("x", .num 12), ("y", .null),
      ("datum", .obj [("x", .str "a")])] := by
  obtain ⟨delivered, -⟩ :=
    dispatch_bind recording "column" clickTable clickNames (some clickHandlers) click
  refine ⟨delivered, rfl, ?_⟩
  have known : (12 : Float).isFinite = true := by decide +kernel
  have unknown : (0 / 0 : Float).isFinite = false := by decide +kernel
  rw [SemanticEvent.toOptions_eq]
  simp [clicked, SemanticEvent.coordinate, known, unknown, OptionTree.ofDatum, OptionTree.ofJson,
    OptionTree.ofJsonFields]

end EventBindings

end Charting
