import RtsNotebook.Library.LiveArray
import RtsNotebook.Messaging.RunMime

/-!
# The message router

`MessageRouter`: six arrays of observers, and the loops that hand a message to
each observer of one array.  The loops run over the live array, and an observer
may dispose its own registration while it is called.  The loops over log
record, heartbeat and outbound observers catch what an observer throws; the
others do not.
-/

namespace RtsNotebook.Messaging

open RtsNotebook.Library.LiveArray RtsNotebook.Js

/-- The arrays of the router. -/
inductive ObserverKind where
  | run
  | map
  | metadata
  | logRecord
  | heartbeatKernel
  | outbound
  deriving DecidableEq, Repr

/-- The method of an observer that a loop calls. -/
inductive Hook where
  | run (callback : RunCallback)
  | onLayoutUpdate
  | onAgentGraphResponse
  | onNotebookMetadata
  | onLogRecord
  | onHeartbeatKernel
  | ship
  deriving DecidableEq, Repr

/-- The array over which a hook is called. -/
def Hook.kind : Hook → ObserverKind
  | run _ => .run
  | onLayoutUpdate => .map
  | onAgentGraphResponse => .map
  | onNotebookMetadata => .metadata
  | onLogRecord => .logRecord
  | onHeartbeatKernel => .heartbeatKernel
  | ship => .outbound

/-- Whether the loop catches what an observer throws. -/
def ObserverKind.guarded : ObserverKind → Bool
  | run => false
  | map => false
  | metadata => false
  | logRecord => true
  | heartbeatKernel => true
  | outbound => true

/-- What one call hands to an observer. -/
structure Delivery where
  hook : Hook
  message : Json

/-- A message on its way into the router, by entry point. -/
inductive Entry where
  | route (envelope : Json)
  | routeRunMime (payload : Json)
  | routeLogRecord (record : Json)
  | enqueueOutbound (envelope : Json)

/-- What an entry point makes of a message: a warning, an exception of its own,
or a loop over observers. -/
inductive Routing where
  | dropped
  | threw
  | deliver (delivery : Delivery)

/-- The `type` and the payload of an envelope that `validateEnvelope` lets
through. -/
def validEnvelope? (envelope : Json) : Option (JsString × Json) :=
  match (envelope.member? (js "type")).bind Json.asString?,
      envelope.member? (js "payload") with
  | some (first :: rest), some payload =>
      match payload with
      | .null => none
      | _ => some (first :: rest, payload)
  | _, _ => none

/-- The message types that travel from the extension to the kernel. -/
def OUTBOUND_TYPES : List JsString :=
  [js "layout.edit", js "agent_graph.query", js "operator.action",
    js "heartbeat.extension", js "kernel.shutdown_request"]

/-- The `switch` of `route`. -/
def routeByType (type : JsString) (payload envelope : Json) : Routing :=
  if type = js "layout.update" then
    .deliver { hook := .onLayoutUpdate, message := payload }
  else if type = js "agent_graph.response" then
    .deliver { hook := .onAgentGraphResponse, message := payload }
  else if type = js "notebook.metadata" then
    .deliver { hook := .onNotebookMetadata, message := payload }
  else if type ∈ OUTBOUND_TYPES then
    .deliver { hook := .ship, message := envelope }
  else if type = js "heartbeat.kernel" then
    .deliver { hook := .onHeartbeatKernel, message := payload }
  else
    .dropped

/-- The classification of a message by its entry point. -/
def Entry.classify : Entry → Routing
  | route envelope =>
      match validEnvelope? envelope with
      | none => .dropped
      | some (type, payload) => routeByType type payload envelope
  | routeRunMime payload =>
      match Messaging.routeRunMime payload with
      | .dropped => .dropped
      | .threw => .threw
      | .deliver callback =>
          .deliver { hook := .run callback, message := payload }
  | routeLogRecord record =>
      if isObject record then
        .deliver { hook := .onLogRecord, message := record }
      else
        .dropped
  | enqueueOutbound envelope =>
      .deliver { hook := .ship, message := envelope }

/-- The delivery that an entry point makes of a message. -/
def Entry.delivery? (entry : Entry) : Option Delivery :=
  match entry.classify with
  | .deliver delivery => some delivery
  | _ => none

section Dispatching

variable {Observer : Type*} [DecidableEq Observer]

/-- One pass of a loop over observers, for the record: who was registered when
it began, and who was called. -/
structure Dispatch (Observer : Type*) where
  delivery : Delivery
  registered : List Observer
  called : List Observer

/-- The router, with the passes that its loops have made. -/
structure Router (Observer : Type*) where
  observers : ObserverKind → List Observer
  dispatches : List (Dispatch Observer)

/-- What an observer does with a delivery; it may depend on all that has been
called before. -/
abbrev Reactions (Observer : Type*) :=
  List (Dispatch Observer) → Delivery → Behaviour Observer

namespace Router

/-- `register*Observer` and `subscribeOutbound` -/
def register (router : Router Observer) (kind : ObserverKind)
    (observer : Observer) : Router Observer :=
  { router with
    observers := fun other =>
      if other = kind then router.observers kind ++ [observer]
      else router.observers other }

/-- The loop that hands a delivery to the observers of its array. -/
def pass (router : Router Observer) (reactions : Reactions Observer)
    (delivery : Delivery) : Pass Observer :=
  forEach delivery.hook.kind.guarded (reactions router.dispatches delivery)
    (router.observers delivery.hook.kind)

/-- The router after that loop. -/
def deliver (router : Router Observer) (reactions : Reactions Observer)
    (delivery : Delivery) : Router Observer where
  observers := fun kind =>
    if kind = delivery.hook.kind then (router.pass reactions delivery).array
    else router.observers kind
  dispatches := router.dispatches ++
    [{ delivery := delivery
       registered := router.observers delivery.hook.kind
       called := (router.pass reactions delivery).called }]

end Router

/-- Every observer that was registered when the loop began was called exactly
once, one that was registered twice twice. -/
def Dispatch.Complete (dispatch : Dispatch Observer) : Prop :=
  CalledOnceEach dispatch.registered dispatch.called

/-- No observer of the delivery but the last disposes its registration or
throws uncaught. -/
def Settled (router : Router Observer) (reactions : Reactions Observer)
    (delivery : Delivery) : Prop :=
  Undisturbed delivery.hook.kind.guarded
    (reactions router.dispatches delivery)
    (router.observers delivery.hook.kind)

/-- The last observer of the delivery throws uncaught. -/
def LastEscapes (router : Router Observer) (reactions : Reactions Observer)
    (delivery : Delivery) : Prop :=
  LastThrows delivery.hook.kind.guarded
    (reactions router.dispatches delivery)
    (router.observers delivery.hook.kind)

/-- A delivery calls every observer of its array once exactly where it is not
disturbed. -/
theorem pass_complete_iff_settled (router : Router Observer)
    (reactions : Reactions Observer) (delivery : Delivery) :
    CalledOnceEach (router.observers delivery.hook.kind)
        (router.pass reactions delivery).called ↔
      Settled router reactions delivery :=
  calledOnceEach_iff_undisturbed _

/-- A delivery keeps the record complete exactly where it is not disturbed. -/
theorem deliver_complete_iff {router : Router Observer}
    (reactions : Reactions Observer) (delivery : Delivery)
    (complete : ∀ dispatch ∈ router.dispatches, dispatch.Complete) :
    (∀ dispatch ∈ (router.deliver reactions delivery).dispatches,
        dispatch.Complete) ↔
      Settled router reactions delivery := by
  rw [← pass_complete_iff_settled]
  constructor
  · intro allComplete
    exact allComplete _ (List.mem_append_right _ (List.mem_singleton_self _))
  · intro passComplete dispatch member
    rcases List.mem_append.mp member with earlier | now
    · exact complete dispatch earlier
    · rw [List.mem_singleton.mp now]
      exact passComplete

theorem pass_threw_iff {router : Router Observer}
    {reactions : Reactions Observer} {delivery : Delivery}
    (settled : Settled router reactions delivery) :
    (router.pass reactions delivery).threw = true ↔
      LastEscapes router reactions delivery :=
  forEach_threw_iff settled

end Dispatching

end RtsNotebook.Messaging
