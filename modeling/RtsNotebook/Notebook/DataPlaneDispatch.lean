import RtsNotebook.Messaging.Router
import RtsNotebook.Notebook.DataPlane

/-!
# Dispatching the frames of the data plane

`PtyKernelClient.dispatchLine` over the message router.  The parser of a line
is a parameter.  Frame listeners are called inside a `try` and are left out, as
is the ready handshake, which does not reach the router.
-/

namespace RtsNotebook.Notebook.DataPlane

open RtsNotebook.Library RtsNotebook.Library.LiveArray
open RtsNotebook.Js RtsNotebook.Messaging

/-- The legal shapes of a frame. -/
inductive Frame where
  | malformed
  | span (payload : Json)
  | logRecord (record : Json)
  | envelope (envelope : Json)

/-- `typeof value[key] === 'number'` -/
def hasNumber (value : Json) (key : JsString) : Bool :=
  match value.member? key with
  | some (.number _) => true
  | _ => false

/-- The dispatch table of `dispatchLine`. -/
def frameOf (parse : JsString → Option Json) (line : JsString) : Frame :=
  match parse line with
  | none => .malformed
  | some f =>
      if !isObject f then
        .malformed
      else if (spanId? f).isSome then
        .span f
      else if ((f.member? (js "timeUnixNano")).bind Json.asString?).isSome &&
          hasNumber f (js "severityNumber") then
        .logRecord f
      else if ((f.member? (js "type")).bind Json.asString?).isSome then
        match f.member? (js "payload") with
        | none => .malformed
        | some .null => .malformed
        | some _ => .envelope f
      else
        .malformed

/-- The loop of `readAttr`. -/
def searchAttr (key : JsString) : List Json → Option JsString
  | [] => none
  | a :: rest =>
      if (a.member? (js "key")).bind Json.asString? = some key then
        let v := a.member? (js "value")
        let text := (v.bind fun v => v.member? (js "stringValue")).bind
          Json.asString?
        let integer := (v.bind fun v => v.member? (js "intValue")).bind
          Json.asString?
        match text.or integer with
        | some found => some found
        | none => searchAttr key rest
      else
        searchAttr key rest

/-- `readAttr`; the outer `none` is the `TypeError` of attributes that cannot
be iterated. -/
def readAttr? (record : Json) (key : JsString) : Option (Option JsString) :=
  match record.member? (js "attributes") with
  | none => some none
  | some (.array items) => some (searchAttr key items)
  | some (.string _) => some none
  | some attributes => if attributes.truthy then none else some none

section Dispatching

variable {Observer : Type*} [DecidableEq Observer]

/-- The client as far as frames pass through it.  `activeRunSink` tells whether
a cell is running, whose sink hands spans to the router as well; the history
variable `thrownByObserver` tells whether the exception that the last line ended
with, if any, came from an observer. -/
structure Client (Observer : Type*) where
  router : Router Observer
  activeRunSink : Bool
  thrownByObserver : Bool

namespace Client

/-- Hand a message to the router; `caught` tells whether the caller catches
exceptions. -/
def hand (client : Client Observer) (reactions : Reactions Observer)
    (entry : Entry) (caught : Bool) : Outcome (Client Observer) :=
  match entry.classify with
  | .dropped => .returned { client with thrownByObserver := false }
  | .threw =>
      if caught then
        .returned { client with thrownByObserver := false }
      else
        .threw { client with thrownByObserver := false }
  | .deliver delivery =>
      let router := client.router.deliver reactions delivery
      if (client.router.pass reactions delivery).threw && !caught then
        .threw { client with router := router, thrownByObserver := true }
      else
        .returned { client with router := router, thrownByObserver := false }

/-- `dispatchLine`, with `routeSpan`, `routeLogRecord` and `routeEnvelope`. -/
def dispatchLine (parse : JsString → Option Json)
    (reactions : Reactions Observer) (client : Client Observer)
    (line : JsString) : Outcome (Client Observer) :=
  match frameOf parse line with
  | .malformed => .returned { client with thrownByObserver := false }
  | .span payload =>
      client.hand reactions (.routeRunMime payload) client.activeRunSink
  | .logRecord record =>
      match readAttr? record (js "event.name") with
      | none => .threw { client with thrownByObserver := false }
      | some _ => client.hand reactions (.routeLogRecord record) false
  | .envelope envelope =>
      client.hand reactions (.route envelope) false

end Client

/-- The way of a line into the router, if it has one, and whether an exception
is caught on that way. -/
def lineWay? (parse : JsString → Option Json) (client : Client Observer)
    (line : JsString) : Option (Entry × Bool) :=
  match frameOf parse line with
  | .malformed => none
  | .span payload => some (.routeRunMime payload, client.activeRunSink)
  | .logRecord record =>
      (readAttr? record (js "event.name")).map fun _ =>
        (.routeLogRecord record, false)
  | .envelope envelope => some (.route envelope, false)

/-- The delivery that a line leads to. -/
def lineDelivery? (parse : JsString → Option Json) (client : Client Observer)
    (line : JsString) : Option (Delivery × Bool) :=
  (lineWay? parse client line).bind fun (entry, caught) =>
    entry.delivery?.map (·, caught)

/-- No observer of a frame but the last disposes its registration or throws
uncaught, and the last one does not throw uncaught before another frame. -/
def FrameMeets (parse : JsString → Option Json)
    (reactions : Reactions Observer) (client : Client Observer)
    (line : JsString) (followed : Prop) : Prop :=
  ∀ delivery caught,
    lineDelivery? parse client line = some (delivery, caught) →
      Settled client.router reactions delivery ∧
        (followed → caught = false →
          ¬ LastEscapes client.router reactions delivery)

/-- Every frame meets the condition in the state in which it is dispatched. -/
def FramesMeet (parse : JsString → Option Json)
    (reactions : Reactions Observer) (client : Client Observer) :
    List JsString → Prop
  | [] => True
  | line :: rest =>
      FrameMeets parse reactions client line (rest ≠ []) ∧
        ∀ next, client.dispatchLine parse reactions line = .returned next →
          FramesMeet parse reactions next rest

/-! ### One frame -/

variable (parse : JsString → Option Json) (reactions : Reactions Observer)

theorem hand_of_delivery {client : Client Observer} {entry : Entry}
    {delivery : Delivery} (delivered : entry.delivery? = some delivery)
    (caught : Bool) :
    client.hand reactions entry caught =
      if (client.router.pass reactions delivery).threw && !caught then
        .threw
          { client with
            router := client.router.deliver reactions delivery
            thrownByObserver := true }
      else
        .returned
          { client with
            router := client.router.deliver reactions delivery
            thrownByObserver := false } := by
  unfold Entry.delivery? at delivered
  unfold Client.hand
  cases classified : entry.classify with
  | dropped =>
      rw [classified] at delivered
      cases delivered
  | threw =>
      rw [classified] at delivered
      cases delivered
  | deliver other =>
      rw [classified] at delivered
      cases delivered
      rfl

theorem hand_of_no_delivery {client : Client Observer} {entry : Entry}
    (dropped : entry.delivery? = none) (caught : Bool) :
    (client.hand reactions entry caught).state =
      { client with thrownByObserver := false } := by
  unfold Entry.delivery? at dropped
  unfold Client.hand
  cases classified : entry.classify with
  | dropped =>
      rfl
  | threw =>
      cases caught <;> rfl
  | deliver delivery =>
      rw [classified] at dropped
      cases dropped

/-- A line that has a way into the router is handed to it. -/
theorem dispatchLine_of_entry {client : Client Observer} {line : JsString}
    {entry : Entry} {caught : Bool}
    (found : lineWay? parse client line = some (entry, caught)) :
    client.dispatchLine parse reactions line =
      client.hand reactions entry caught := by
  unfold Client.dispatchLine
  rw [lineWay?] at found
  cases framed : frameOf parse line with
  | malformed =>
      rw [framed] at found
      cases found
  | span payload =>
      rw [framed] at found
      cases found
      rfl
  | envelope envelope =>
      rw [framed] at found
      cases found
      rfl
  | logRecord record =>
      rw [framed] at found
      obtain ⟨eventName, read, equality⟩ := Option.map_eq_some_iff.mp found
      cases equality
      simp only [read]

theorem dispatchLine_of_no_entry {client : Client Observer} {line : JsString}
    (nowhere : lineWay? parse client line = none) :
    (client.dispatchLine parse reactions line).state =
      { client with thrownByObserver := false } := by
  unfold Client.dispatchLine
  rw [lineWay?] at nowhere
  cases framed : frameOf parse line with
  | malformed =>
      rfl
  | span payload =>
      rw [framed] at nowhere
      cases nowhere
  | envelope envelope =>
      rw [framed] at nowhere
      cases nowhere
  | logRecord record =>
      rw [framed] at nowhere
      have read := Option.map_eq_none_iff.mp nowhere
      simp only [read]
      rfl

/-- A line that leads to a delivery makes the one pass over observers, and what
an observer throws leaves the line unless it is caught. -/
theorem dispatchLine_of_delivery {client : Client Observer} {line : JsString}
    {delivery : Delivery} {caught : Bool}
    (found : lineDelivery? parse client line = some (delivery, caught)) :
    client.dispatchLine parse reactions line =
      if (client.router.pass reactions delivery).threw && !caught then
        .threw
          { client with
            router := client.router.deliver reactions delivery
            thrownByObserver := true }
      else
        .returned
          { client with
            router := client.router.deliver reactions delivery
            thrownByObserver := false } := by
  obtain ⟨⟨entry, isCaught⟩, hasEntry, delivered⟩ :=
    Option.bind_eq_some_iff.mp found
  obtain ⟨_, hasDelivery, equality⟩ := Option.map_eq_some_iff.mp delivered
  cases equality
  rw [dispatchLine_of_entry parse reactions hasEntry,
    hand_of_delivery reactions hasDelivery]

/-- A line that leads to no delivery leaves the router as it is. -/
theorem dispatchLine_of_no_delivery {client : Client Observer}
    {line : JsString} (nothing : lineDelivery? parse client line = none) :
    (client.dispatchLine parse reactions line).state =
      { client with thrownByObserver := false } := by
  cases hasEntry : lineWay? parse client line with
  | none =>
      exact dispatchLine_of_no_entry parse reactions hasEntry
  | some found =>
      obtain ⟨entry, caught⟩ := found
      have dropped : entry.delivery? = none := by
        rw [lineDelivery?, hasEntry] at nothing
        simpa using nothing
      rw [dispatchLine_of_entry parse reactions hasEntry,
        hand_of_no_delivery reactions dropped]

/-! ### All frames of a buffer -/

/-- Every pass over observers called each of them once, and if an observer's
exception has ended the loop, no complete frame is left behind. -/
structure Delivered (client : Client Observer) (remaining : List JsString) :
    Prop where
  complete : ∀ dispatch ∈ client.router.dispatches, dispatch.Complete
  dispatched : client.thrownByObserver = true → remaining = []

theorem mem_dispatches_dispatchLine {client : Client Observer}
    {dispatch : Dispatch Observer}
    (member : dispatch ∈ client.router.dispatches) (line : JsString) :
    dispatch ∈
      (client.dispatchLine parse reactions line).state.router.dispatches := by
  cases found : lineDelivery? parse client line with
  | none =>
      rw [dispatchLine_of_no_delivery parse reactions found]
      exact member
  | some pair =>
      obtain ⟨delivery, caught⟩ := pair
      rw [dispatchLine_of_delivery parse reactions found]
      split <;> exact List.mem_append_left _ member

theorem framesMeet_of_returned {client next : Client Observer}
    {line : JsString} {rest : List JsString}
    (dispatched : client.dispatchLine parse reactions line = .returned next) :
    FramesMeet parse reactions client (line :: rest) ↔
      FrameMeets parse reactions client line (rest ≠ []) ∧
        FramesMeet parse reactions next rest := by
  rw [FramesMeet]
  refine and_congr_right fun _ => ⟨fun all => all next dispatched, ?_⟩
  intro meets other otherDispatched
  rw [dispatched] at otherDispatched
  cases otherDispatched
  exact meets

theorem framesMeet_of_threw {client next : Client Observer}
    {line : JsString} {rest : List JsString}
    (dispatched : client.dispatchLine parse reactions line = .threw next) :
    FramesMeet parse reactions client (line :: rest) ↔
      FrameMeets parse reactions client line (rest ≠ []) := by
  rw [FramesMeet]
  refine and_iff_left fun other otherDispatched => ?_
  rw [dispatched] at otherDispatched
  cases otherDispatched

omit [DecidableEq Observer] in
theorem frameMeets_iff_of_delivery {client : Client Observer}
    {line : JsString} {delivery : Delivery} {caught : Bool}
    (found : lineDelivery? parse client line = some (delivery, caught))
    (followed : Prop) :
    FrameMeets parse reactions client line followed ↔
      Settled client.router reactions delivery ∧
        (followed → caught = false →
          ¬ LastEscapes client.router reactions delivery) := by
  constructor
  · exact fun meets => meets delivery caught found
  · intro meets other otherCaught otherFound
    rw [found] at otherFound
    cases otherFound
    exact meets

omit [DecidableEq Observer] in
/-- A frame that reaches no observer, whatever the frames after it do. -/
theorem frameMeets_of_no_delivery {client : Client Observer}
    {line : JsString} (nothing : lineDelivery? parse client line = none)
    (followed : Prop) :
    FrameMeets parse reactions client line followed := by
  intro delivery caught found
  rw [nothing] at found
  cases found

/-- A line whose delivery lets the loop go on: the condition on it is that the
delivery is settled. -/
theorem framesMeet_of_stays {client : Client Observer} {line : JsString}
    {delivery : Delivery} {caught : Bool}
    (found : lineDelivery? parse client line = some (delivery, caught))
    (stays :
      ((client.router.pass reactions delivery).threw && !caught) = false)
    (rest : List JsString) :
    FramesMeet parse reactions client (line :: rest) ↔
      Settled client.router reactions delivery ∧
        FramesMeet parse reactions
          { client with
            router := client.router.deliver reactions delivery
            thrownByObserver := false } rest := by
  have dispatched := dispatchLine_of_delivery parse reactions found
  rw [stays, if_neg Bool.false_ne_true] at dispatched
  rw [framesMeet_of_returned parse reactions dispatched,
    frameMeets_iff_of_delivery parse reactions found]
  refine and_congr_left fun _ => and_iff_left_of_imp fun settled => ?_
  intro _ notCaught lastEscapes
  rw [(pass_threw_iff settled).mpr lastEscapes, notCaught] at stays
  cases stays

/-- A line whose delivery ends the loop: the condition on it is that the
delivery is settled and no line follows. -/
theorem framesMeet_of_escapes {client : Client Observer} {line : JsString}
    {delivery : Delivery} {caught : Bool}
    (found : lineDelivery? parse client line = some (delivery, caught))
    (escapes :
      ((client.router.pass reactions delivery).threw && !caught) = true)
    (rest : List JsString) :
    FramesMeet parse reactions client (line :: rest) ↔
      Settled client.router reactions delivery ∧ rest = [] := by
  have dispatched := dispatchLine_of_delivery parse reactions found
  rw [escapes, if_pos rfl] at dispatched
  obtain ⟨threw, notCaught⟩ := Bool.and_eq_true_iff.mp escapes
  rw [framesMeet_of_threw parse reactions dispatched,
    frameMeets_iff_of_delivery parse reactions found]
  refine and_congr_right fun settled => ⟨fun stays => ?_, fun last => ?_⟩
  · by_contra followed
    exact stays followed (by simpa using notCaught)
      ((pass_threw_iff settled).mp threw)
  · exact fun followed => absurd last followed

/-- An incomplete pass is still on record when the loop is done. -/
theorem not_delivered_of_incomplete {socket : Socket (Client Observer)}
    {dispatch : Dispatch Observer}
    (member : dispatch ∈ socket.client.router.dispatches)
    (incomplete : ¬ dispatch.Complete) (remaining : List JsString) :
    ¬ Delivered
      (drain (Client.dispatchLine parse reactions) socket).state.client
      remaining := by
  intro delivered
  have kept := drain_keeps
    (P := fun client : Client Observer =>
      dispatch ∈ client.router.dispatches)
    (fun client line present =>
      mem_dispatches_dispatchLine parse reactions present line) member
  exact incomplete (delivered.complete dispatch kept)

/-- The loop delivers every frame exactly where every frame meets the
condition. -/
theorem drain_delivered_iff (buffer : JsString) (handed : List JsString)
    (client : Client Observer)
    (complete : ∀ dispatch ∈ client.router.dispatches, dispatch.Complete) :
    Delivered
        (drain (Client.dispatchLine parse reactions)
          { incomingBuffer := buffer
            handed := handed
            client := client }).state.client
        (framesOf
          (drain (Client.dispatchLine parse reactions)
            { incomingBuffer := buffer
              handed := handed
              client := client }).state.incomingBuffer) ↔
      FramesMeet parse reactions client (framesOf buffer) := by
  induction buffer using lineInduction newline
    generalizing handed client with
  | unmarked text notMember =>
      rw [drain_unmarked _ notMember, framesOf_unmarked notMember]
      exact iff_of_true ⟨complete, fun _ => framesOf_unmarked notMember⟩
        trivial
  | oneLine line rest notMember inductionHypothesis =>
      rw [drain_line _ handed client notMember, framesOf_line notMember]
      split
      · exact inductionHypothesis handed client complete
      · cases found : lineDelivery? parse client (dropReturn line) with
        | none =>
            have state :=
              dispatchLine_of_no_delivery parse reactions found
            have vacuous := frameMeets_of_no_delivery parse reactions found
              (framesOf rest ≠ [])
            cases dispatched : client.dispatchLine parse reactions
                (dropReturn line) with
            | returned next =>
                rw [dispatched, Outcome.state] at state
                rw [framesMeet_of_returned parse reactions dispatched,
                  and_iff_right vacuous]
                exact inductionHypothesis _ next (state ▸ complete)
            | threw next =>
                rw [dispatched, Outcome.state] at state
                rw [framesMeet_of_threw parse reactions dispatched]
                refine iff_of_true ⟨?_, ?_⟩ vacuous
                · exact state ▸ complete
                · intro thrown
                  rw [Outcome.state, state] at thrown
                  cases thrown
        | some pair =>
            obtain ⟨delivery, caught⟩ := pair
            have recordIff := deliver_complete_iff reactions delivery complete
            have dispatched := dispatchLine_of_delivery parse reactions found
            cases escapes :
                (client.router.pass reactions delivery).threw && !caught with
            | false =>
                rw [escapes, if_neg Bool.false_ne_true] at dispatched
                rw [framesMeet_of_stays parse reactions found escapes]
                simp only [dispatched]
                by_cases settled : Settled client.router reactions delivery
                · rw [and_iff_right settled]
                  exact inductionHypothesis _ _ (recordIff.mpr settled)
                · have incomplete := mt recordIff.mp settled
                  push Not at incomplete
                  obtain ⟨dispatch, member, isIncomplete⟩ := incomplete
                  exact iff_of_false
                    (not_delivered_of_incomplete parse reactions member
                      isIncomplete _)
                    (fun meets => settled meets.1)
            | true =>
                rw [escapes, if_pos rfl] at dispatched
                rw [framesMeet_of_escapes parse reactions found escapes]
                simp only [dispatched]
                constructor
                · intro delivered
                  exact ⟨recordIff.mp delivered.complete,
                    delivered.dispatched rfl⟩
                · rintro ⟨settled, last⟩
                  exact ⟨recordIff.mpr settled, fun _ => last⟩

/-- A client whose loops have made no pass yet. -/
def Client.fresh (observers : ObserverKind → List Observer)
    (activeRunSink : Bool) : Client Observer where
  router := { observers := observers, dispatches := [] }
  activeRunSink := activeRunSink
  thrownByObserver := false

end Dispatching

/-- Every message reaches each observer that is registered for it exactly once
where no observer but the last disposes its registration or throws uncaught, and
not otherwise.  The frames of a buffer are delivered so, and none is left behind
by an observer's exception, exactly where this holds of every frame and the
last observer of a frame does not throw uncaught before another frame. -/
theorem fanOut_iff {Observer : Type*} [DecidableEq Observer]
    (reactions : Reactions Observer) (parse : JsString → Option Json) :
    (∀ (router : Router Observer) (delivery : Delivery),
        CalledOnceEach (router.observers delivery.hook.kind)
            (router.pass reactions delivery).called ↔
          Settled router reactions delivery) ∧
      ∀ (observers : ObserverKind → List Observer) (activeRunSink : Bool)
        (incomingBuffer : JsString) (handed : List JsString)
        (text : JsString),
        Delivered
            (onSocketData (Client.dispatchLine parse reactions)
              { incomingBuffer := incomingBuffer
                handed := handed
                client := .fresh observers activeRunSink }
              text).state.client
            (framesOf
              (onSocketData (Client.dispatchLine parse reactions)
                { incomingBuffer := incomingBuffer
                  handed := handed
                  client := .fresh observers activeRunSink }
                text).state.incomingBuffer) ↔
          FramesMeet parse reactions (.fresh observers activeRunSink)
            (framesOf (incomingBuffer ++ text)) :=
  ⟨fun router delivery => pass_complete_iff_settled router reactions delivery,
    fun observers activeRunSink incomingBuffer handed text =>
      drain_delivered_iff parse reactions (incomingBuffer ++ text) handed
        (.fresh observers activeRunSink) (fun _ member => by cases member)⟩

/-- The text of a layout update. -/
def layoutText : JsString :=
  js "\x7b\"type\":\"layout.update\",\"payload\":\x7b\x7d\x7d"

/-- The parser, as far as that text goes. -/
def parseLayout (line : JsString) : Option Json :=
  if line = layoutText then
    some (.object
      [(js "type", .string (js "layout.update")), (js "payload", .object [])])
  else
    none

def layoutDelivery : Delivery where
  hook := .onLayoutUpdate
  message := .object []

/-- Observer 0 does this on every call. -/
def firstReacts (reaction : Reaction) : Reactions Nat :=
  fun _ _ _ observer =>
    if observer = 0 then reaction else { disposes := false, throws := false }

/-- The observers of the map, and no others. -/
def mapObservers (registered : List Nat) (kind : ObserverKind) : List Nat :=
  if kind = .map then registered else []

theorem disturbed_of_first {reaction : Reaction}
    (disturbs : ¬ Quiet false reaction) :
    ¬ CalledOnceEach [0, 1]
      (Router.pass { observers := mapObservers [0, 1], dispatches := [] }
        (firstReacts reaction) layoutDelivery).called := by
  intro once
  have settled := (pass_complete_iff_settled
    { observers := mapObservers [0, 1], dispatches := [] }
    (firstReacts reaction) layoutDelivery).mp once
  exact disturbs (settled [] 0 [1] rfl (List.cons_ne_nil _ _))

theorem framesOf_twoLayouts :
    framesOf (layoutText ++ newline :: (layoutText ++ newline :: [])) =
      [layoutText, layoutText] := by
  have oneLine : newline ∉ layoutText := by decide
  have noReturn : dropReturn layoutText = layoutText := by decide
  have nonEmpty : ¬ layoutText = [] := by decide
  rw [framesOf_line oneLine, framesOf_line oneLine, noReturn,
    if_neg nonEmpty, if_neg nonEmpty]
  rfl

theorem lineDelivery_layoutText (client : Client Nat) :
    lineDelivery? parseLayout client layoutText =
      some (layoutDelivery, false) := by
  have parsed : parseLayout layoutText = some (.object
      [(js "type", .string (js "layout.update")),
        (js "payload", .object [])]) :=
    if_pos rfl
  rw [lineDelivery?, lineWay?, frameOf, parsed]
  rfl

/-- The second of two observers is not called where the first one disposes its
registration, nor where it throws; and the exception of a single observer leaves
the second of two frames in the buffer. -/
theorem laterObserver_and_laterFrame_missed :
    ¬ CalledOnceEach [0, 1]
        (Router.pass { observers := mapObservers [0, 1], dispatches := [] }
          (firstReacts { disposes := true, throws := false })
          layoutDelivery).called ∧
      ¬ CalledOnceEach [0, 1]
        (Router.pass { observers := mapObservers [0, 1], dispatches := [] }
          (firstReacts { disposes := false, throws := true })
          layoutDelivery).called ∧
      ¬ Delivered
        (onSocketData
          (Client.dispatchLine parseLayout
            (firstReacts { disposes := false, throws := true }))
          (.fresh (.fresh (mapObservers [0]) false))
          (layoutText ++ newline ::
            (layoutText ++ newline :: []))).state.client
        (framesOf
          (onSocketData
            (Client.dispatchLine parseLayout
              (firstReacts { disposes := false, throws := true }))
            (.fresh (.fresh (mapObservers [0]) false))
            (layoutText ++ newline ::
              (layoutText ++ newline :: []))).state.incomingBuffer) := by
  refine ⟨disturbed_of_first ?_, disturbed_of_first ?_, fun delivered => ?_⟩
  · rintro ⟨stays, _⟩
    cases stays
  · rintro ⟨_, caught⟩
    rcases caught with guarded | noThrow
    · cases guarded
    · cases noThrow
  · have meets := (drain_delivered_iff parseLayout _ _ []
      (.fresh (mapObservers [0]) false)
      (fun _ member => by cases member)).mp delivered
    rw [Socket.fresh, List.nil_append, framesOf_twoLayouts] at meets
    obtain ⟨_, stays⟩ := meets.1 layoutDelivery false
      (lineDelivery_layoutText _)
    exact stays (List.cons_ne_nil _ _) rfl ⟨rfl, [], 0, rfl, rfl⟩

end RtsNotebook.Notebook.DataPlane
