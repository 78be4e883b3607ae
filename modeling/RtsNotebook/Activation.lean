import RtsNotebook.Library.OrderedMap
import RtsNotebook.Notebook.MetadataLoader

/-!
# The order of activation

The synchronous part of `activate`, as far as hydrate envelopes pass through
it.  The loader hands the envelopes of the notebooks that are already open to
the router, the router hands an envelope to its outbound subscribers or drops
it where there are none, and the kernel client becomes the only subscriber
near the end of activation.
-/

namespace RtsNotebook.Activation

open RtsNotebook.Library RtsNotebook.Js
open RtsNotebook.Notebook.MetadataLoader

/-- The one subscriber that activation registers hands every envelope to
`sendEnvelope` of the kernel client. -/
inductive OutboundSubscriber where
  | kernelClient
  deriving DecidableEq, Repr

/-- The router's subscribers, the envelopes that were dropped and those handed
to the kernel client, the loader's watchdogs by notebook, and the diagnostic
count of hydrates. -/
structure Session where
  outboundSubscribers : List OutboundSubscriber
  dropped : List Json
  sent : List Json
  pending : OrderedMap JsString Nat
  nextTimer : Nat
  hydrateCount : Nat

namespace Session

def initial : Session where
  outboundSubscribers := []
  dropped := []
  sent := []
  pending := .empty
  nextTimer := 0
  hydrateCount := 0

/-- `MessageRouter.subscribeOutbound` -/
def subscribeOutbound (session : Session) (subscriber : OutboundSubscriber) :
    Session :=
  { session with
    outboundSubscribers := session.outboundSubscribers ++ [subscriber] }

def deliver (session : Session) (envelope : Json) :
    OutboundSubscriber → Session
  | .kernelClient => { session with sent := session.sent ++ [envelope] }

/-- `MessageRouter.enqueueOutbound` -/
def enqueueOutbound (session : Session) (envelope : Json) : Session :=
  if session.outboundSubscribers = [] then
    { session with dropped := session.dropped ++ [envelope] }
  else
    session.outboundSubscribers.foldl
      (fun current subscriber => current.deliver envelope subscriber)
      session

/-- Arm the confirmation watchdog of a notebook. -/
def armWatchdog (session : Session) (uri : JsString) : Session :=
  { session with
    pending := session.pending.set uri session.nextTimer
    nextTimer := session.nextTimer + 1 }

/-- `MetadataLoader.onDidOpenNotebook`; it has no await. -/
def onDidOpenNotebook (session : Session) (nb : NotebookDocument) : Session :=
  match hydrate? nb with
  | none => session
  | some envelope =>
      (session.enqueueOutbound envelope).armWatchdog nb.uri

/-- One round of the loop over the notebooks that are already open. -/
def shipOpenNotebook (session : Session) (nb : NotebookDocument) : Session :=
  if nb.notebookType = NOTEBOOK_TYPE then
    { session with
      hydrateCount := session.hydrateCount + 1 }.onDidOpenNotebook nb
  else
    session

end Session

/-- The parts of `activate` that touch the outbound path. -/
inductive ActivationPart where
  | shipOpenNotebooks
  | subscribeKernelClient
  deriving DecidableEq, Repr

/-- The order in which `activate` has them. -/
def activationOrder : List ActivationPart :=
  [.shipOpenNotebooks, .subscribeKernelClient]

def runPart (notebooks : List NotebookDocument) (session : Session) :
    ActivationPart → Session
  | .shipOpenNotebooks =>
      notebooks.foldl Session.shipOpenNotebook session
  | .subscribeKernelClient => session.subscribeOutbound .kernelClient

/-- The session once the synchronous part of `activate` has run. -/
def activate (notebooks : List NotebookDocument) : Session :=
  activationOrder.foldl (runPart notebooks) Session.initial

/-- The kernel client was handed one hydrate envelope for each notebook that
passes the loader's checks, in the order of the list. -/
def HydratesReachKernel (notebooks : List NotebookDocument) : Prop :=
  (activate notebooks).sent = notebooks.filterMap hydrate?

/-! ### Shipping before and after the subscription -/

namespace Session

theorem hydrate?_notebookType
    {nb : NotebookDocument} (other : nb.notebookType ≠ NOTEBOOK_TYPE) :
    hydrate? nb = none := by
  simp [hydrate?, decideHydrate, other]

theorem shipOpenNotebook_unsubscribed
    {session : Session} (unsubscribed : session.outboundSubscribers = [])
    (nb : NotebookDocument) :
    (session.shipOpenNotebook nb).outboundSubscribers = [] ∧
      (session.shipOpenNotebook nb).sent = session.sent ∧
      (session.shipOpenNotebook nb).dropped =
        session.dropped ++ (hydrate? nb).toList := by
  unfold shipOpenNotebook
  split
  · unfold onDidOpenNotebook
    cases shipped : hydrate? nb with
    | none => simp [unsubscribed]
    | some envelope =>
        simp [armWatchdog, enqueueOutbound, unsubscribed]
  · rename_i other
    simp [unsubscribed, hydrate?_notebookType other]

theorem shipOpenNotebook_subscribed
    {session : Session}
    (subscribed : session.outboundSubscribers = [.kernelClient])
    (nb : NotebookDocument) :
    (session.shipOpenNotebook nb).outboundSubscribers = [.kernelClient] ∧
      (session.shipOpenNotebook nb).sent =
        session.sent ++ (hydrate? nb).toList ∧
      (session.shipOpenNotebook nb).dropped = session.dropped := by
  unfold shipOpenNotebook
  split
  · unfold onDidOpenNotebook
    cases shipped : hydrate? nb with
    | none => simp [subscribed]
    | some envelope =>
        simp [armWatchdog, enqueueOutbound, subscribed, deliver]
  · rename_i other
    simp [subscribed, hydrate?_notebookType other]

theorem shipOpenNotebooks_unsubscribed
    (notebooks : List NotebookDocument) {session : Session}
    (unsubscribed : session.outboundSubscribers = []) :
    (notebooks.foldl shipOpenNotebook session).sent = session.sent ∧
      (notebooks.foldl shipOpenNotebook session).dropped =
        session.dropped ++ notebooks.filterMap hydrate? := by
  induction notebooks generalizing session with
  | nil =>
      simp
  | cons nb rest inductionHypothesis =>
      obtain ⟨stays, sent, dropped⟩ :=
        shipOpenNotebook_unsubscribed unsubscribed nb
      obtain ⟨restSent, restDropped⟩ := inductionHypothesis stays
      rw [List.foldl_cons]
      refine ⟨restSent.trans sent, restDropped.trans ?_⟩
      rw [dropped]
      cases shipped : hydrate? nb <;> simp [shipped]

theorem shipOpenNotebooks_subscribed
    (notebooks : List NotebookDocument) {session : Session}
    (subscribed : session.outboundSubscribers = [.kernelClient]) :
    (notebooks.foldl shipOpenNotebook session).sent =
      session.sent ++ notebooks.filterMap hydrate? := by
  induction notebooks generalizing session with
  | nil =>
      simp
  | cons nb rest inductionHypothesis =>
      obtain ⟨stays, sent, _⟩ := shipOpenNotebook_subscribed subscribed nb
      rw [List.foldl_cons, inductionHypothesis stays, sent]
      cases shipped : hydrate? nb <;> simp [shipped]

end Session

/-- The order is the cause: the same parts with the subscription first hand
every envelope to the kernel client. -/
theorem subscribe_first_reaches_kernel (notebooks : List NotebookDocument) :
    ([ActivationPart.subscribeKernelClient, .shipOpenNotebooks].foldl
        (runPart notebooks) Session.initial).sent =
      notebooks.filterMap hydrate? :=
  Session.shipOpenNotebooks_subscribed notebooks rfl

/-- Activation sends no hydrate, and drops every one. -/
theorem activate_drops_hydrates (notebooks : List NotebookDocument) :
    (activate notebooks).sent = [] ∧
      (activate notebooks).dropped = notebooks.filterMap hydrate? := by
  have unsubscribed : Session.initial.outboundSubscribers = [] := rfl
  have shipped :=
    Session.shipOpenNotebooks_unsubscribed notebooks unsubscribed
  exact ⟨shipped.1, shipped.2.trans (List.nil_append _)⟩

/-- Every hydrate reaches the kernel exactly when no open notebook passes the
loader's checks. -/
theorem hydratesReachKernel_iff (notebooks : List NotebookDocument) :
    HydratesReachKernel notebooks ↔
      ∀ nb ∈ notebooks, hydrate? nb = none := by
  rw [HydratesReachKernel, (activate_drops_hydrates notebooks).1, eq_comm,
    List.filterMap_eq_nil_iff]

/-- An open notebook with persisted state. -/
def savedNotebook : NotebookDocument where
  uri := js "file:///saved.llmnb"
  notebookType := NOTEBOOK_TYPE
  metadata := some (.object
    [(js "rts", .object [(js "schema_version", .string (js "1.0.0"))])])

/-- Its hydrate envelope is dropped. -/
theorem savedNotebook_not_hydrated :
    ¬ HydratesReachKernel [savedNotebook] := by
  intro reaches
  have counts := congrArg List.length reaches
  revert counts
  decide

end RtsNotebook.Activation
