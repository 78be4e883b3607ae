import RtsNotebook.LlmClient.TcpConnect

/-!
# The socket of a handshake

`connect` once more, with what becomes of its socket: every place of the source
that closes it is kept, beside the two handlers around the handshake.  A call
ends with a connection over the open socket, or with an exception and no open
socket.
-/

namespace RtsNotebook.LlmClient

open RtsNotebook.Python RtsNotebook.Library

/-- Before `socket()`, after it, and after `close()`. -/
inductive SocketStatus where
  | absent
  | opened
  | closed
  deriving DecidableEq, Repr

/-- How a part of `connect` ends, and what has become of the socket. -/
structure Ending (Value : Type) where
  result : Except ConnectStop Value
  socket : SocketStatus

namespace Ending

variable {Value : Type}

/-- An exception that leaves the socket to the handlers. -/
def raise (stop : ConnectStop) : Ending Value where
  result := .error stop
  socket := .opened

/-- `sock.close()` before an exception. -/
def closeAndRaise (stop : ConnectStop) : Ending Value where
  result := .error stop
  socket := .closed

def finish (value : Value) : Ending Value where
  result := .ok value
  socket := .opened

/-- `except TcpHandshakeError: raise`, and a handler that closes the socket on
any other exception. -/
def handled (ending : Ending Value) : Ending Value :=
  match ending.result with
  | .error .raised => { ending with socket := .closed }
  | _ => ending

end Ending

/-- `connect` once it has the payload of the response. -/
def acceptPayloadOn (handshake : Handshake) (capabilities : List PyString)
    (timeout : Time) (payload : List (PyString × PyJson)) :
    Ending TcpKernelConnection :=
  let error := get payload (py "error")
  if error.truthy then
    -- The class is looked up after the close, and the lookup may raise.
    match errorClass? error with
    | some errorClass => .closeAndRaise (.handshakeError errorClass error)
    | none => .closeAndRaise .raised
  else
    let kernelWire := getD payload (py "wire_version") (.str [])
    match kernelMajor? handshake kernelWire with
    | none => .closeAndRaise wireFailure
    | some kernelMajor =>
        if kernelMajor ≠ handshake.WIRE_MAJOR then
          .closeAndRaise (.handshakeError .versionMismatch
            (.str (py "version_mismatch_major")))
        else
          let accepted :=
            itemsOrNone (get payload (py "accepted_capabilities"))
          let missing := capabilities.filter fun capability =>
            !accepted.any (·.isStr capability)
          if missing ≠ [] then
            .closeAndRaise wireFailure
          else
            let sessionId := get payload (py "session_id")
            let wireVersion := handshake.strOf kernelWire
            .finish
              { sessionId :=
                  if sessionId.truthy then handshake.strOf sessionId
                  else handshake.uuid4
                wireVersion :=
                  if wireVersion = [] then handshake.WIRE_VERSION
                  else wireVersion
                acceptedCapabilities := accepted
                handshakeWarnings := itemsOrNone (get payload (py "warnings"))
                recvTimeout := timeout
                buf := []
                closed := false }

/-- `connect` once it has the response. -/
def acceptResponseOn (handshake : Handshake) (capabilities : List PyString)
    (timeout : Time) : PyJson → Ending TcpKernelConnection
  | .none => .closeAndRaise (.handshakeError .handshake (.str (py "timeout")))
  | .dict response =>
      if (get response (py "type")).isStr (py "kernel.handshake") then
        match (get response (py "payload")).orElse (.dict []) with
        | .dict payload =>
            acceptPayloadOn handshake capabilities timeout payload
        | _ => .closeAndRaise wireFailure
      else
        .closeAndRaise wireFailure
  | _ => .closeAndRaise wireFailure

section

variable {Net : Type}

/-- What the handshake makes of the reader's result. -/
def concludeOn (handshake : Handshake) (arguments : ConnectArguments) :
    Except ConnectStop (PyJson × Bytes × Net) →
      Ending (TcpKernelConnection × Net)
  | .error stop => .raise stop
  | .ok (response, _, net) =>
      let ending := acceptResponseOn handshake
        (arguments.capabilities.getD defaultCapabilities) arguments.timeout
        response
      { result := ending.result.map fun connection => (connection, net)
        socket := ending.socket }

/-- The body of the outer `try`. -/
def handshakeOn (endpoint : Endpoint Net) (handshake : Handshake)
    (arguments : ConnectArguments) (fuel : Nat) (host : PyString)
    (port : Int) (net : Net) : Ending (TcpKernelConnection × Net) :=
  let capabilities := arguments.capabilities.getD defaultCapabilities
  match endpoint.connect host port net with
  | none => .closeAndRaise .raised
  | some net =>
      let request := handshakeRequest arguments capabilities
      match endpoint.sendall (handshake.dumps request) net with
      | none => .raise .raised
      | some net =>
          let (now, net) := endpoint.monotonic net
          concludeOn handshake arguments
            (readOneFrame endpoint handshake.loads (now + arguments.timeout)
              fuel [] net)

/-- `connect`, with its socket. -/
def connectOn (endpoint : Endpoint Net) (handshake : Handshake)
    (arguments : ConnectArguments) (fuel : Nat) (net : Net) :
    Ending (TcpKernelConnection × Net) :=
  match parseBind handshake arguments.bind with
  | none => { result := .error .raised, socket := .absent }
  | some (host, port) =>
      (handshakeOn endpoint handshake arguments fuel host port net).handled

/-! ### The result is that of `connect` -/

variable {endpoint : Endpoint Net} {handshake : Handshake}
  {arguments : ConnectArguments} {capabilities : List PyString}
  {timeout : Time} {fuel : Nat}

theorem acceptPayloadOn_result (payload : List (PyString × PyJson)) :
    (acceptPayloadOn handshake capabilities timeout payload).result =
      acceptPayload handshake capabilities timeout payload := by
  rw [acceptPayloadOn, acceptPayload]
  by_cases hasError : (get payload (py "error")).truthy = true
  · rw [if_pos hasError, if_pos hasError]
    cases errorClass? (get payload (py "error")) <;> rfl
  · rw [if_neg hasError, if_neg hasError]
    dsimp only
    cases kernelMajor? handshake
        (getD payload (py "wire_version") (.str [])) with
    | none => rfl
    | some major =>
        dsimp only
        split
        · rfl
        · split <;> rfl

theorem acceptResponseOn_result (response : PyJson) :
    (acceptResponseOn handshake capabilities timeout response).result =
      acceptResponse handshake capabilities timeout response := by
  cases response with
  | dict items =>
      rw [acceptResponseOn, acceptResponse]
      split
      · cases (get items (py "payload")).orElse (.dict []) with
        | dict payload => exact acceptPayloadOn_result payload
        | _ => rfl
      · rfl
  | _ => rfl

theorem handled_result {Value : Type} (ending : Ending Value) :
    ending.handled.result = ending.result := by
  rw [Ending.handled]
  split <;> rfl

/-- Keeping the socket changes nothing that a caller sees. -/
theorem connectOn_result (net : Net) :
    (connectOn endpoint handshake arguments fuel net).result =
      connect endpoint handshake arguments fuel net := by
  rw [connectOn, connect]
  cases parseBind handshake arguments.bind with
  | none => rfl
  | some address =>
      obtain ⟨host, port⟩ := address
      dsimp only
      rw [handled_result, handshakeOn]
      cases endpoint.connect host port net with
      | none => rfl
      | some connected =>
          dsimp only
          cases endpoint.sendall
              (handshake.dumps (handshakeRequest arguments
                (arguments.capabilities.getD defaultCapabilities)))
              connected with
          | none => rfl
          | some sent =>
              dsimp only
              cases readOneFrame endpoint handshake.loads
                  ((endpoint.monotonic sent).1 + arguments.timeout) fuel []
                  (endpoint.monotonic sent).2 with
              | error stop => rfl
              | ok read =>
                  obtain ⟨response, buf, after⟩ := read
                  rw [concludeOn, acceptResponseOn_result]
                  have bindEq : ∀ accepted :
                      Except ConnectStop TcpKernelConnection,
                      (accepted.map fun connection => (connection, after)) =
                        accepted >>= fun connection =>
                          pure (connection, after) := by
                    intro accepted
                    cases accepted <;> rfl
                  exact bindEq _

/-! ### What a reply has to be -/

/-- The reply is a handshake without an error, of the wire major of the driver,
that accepts every requested capability. -/
structure Admitted (handshake : Handshake) (capabilities : List PyString)
    (reply : PyJson) : Prop where
  isHandshake : ∃ response payload, reply = .dict response ∧
    get response (py "type") = .str (py "kernel.handshake") ∧
    (get response (py "payload")).orElse (.dict []) = .dict payload ∧
    (get payload (py "error")).truthy = false ∧
    kernelMajor? handshake (getD payload (py "wire_version") (.str [])) =
      some handshake.WIRE_MAJOR ∧
    ∀ capability ∈ capabilities, ∃ accepted,
      get payload (py "accepted_capabilities") = .list accepted ∧
      .str capability ∈ accepted

/-- An ending over a reply: the socket is closed, or it is open under a
connection and the reply is admitted. -/
inductive Concludes (handshake : Handshake) (capabilities : List PyString)
    (reply : PyJson) : Ending TcpKernelConnection → Prop where
  | refused (stop : ConnectStop) (stops : stop ≠ .outOfFuel) :
      Concludes handshake capabilities reply (.closeAndRaise stop)
  | accepted (connection : TcpKernelConnection)
      (isOpen : connection.closed = false)
      (admitted : Admitted handshake capabilities reply) :
      Concludes handshake capabilities reply (.finish connection)

theorem eq_str_of_isStr {value : PyJson} {text : PyString}
    (isStr : value.isStr text = true) : value = .str text := by
  cases value with
  | str found =>
      have equal : found = text := by simpa [PyJson.isStr] using isStr
      rw [equal]
  | _ => cases isStr

/-- No capability is missing, so each is an item of a list. -/
theorem accepted_of_not_missing {value : PyJson}
    (noneMissing : ¬ (capabilities.filter fun capability =>
      !(itemsOrNone value).any (·.isStr capability)) ≠ []) :
    ∀ capability ∈ capabilities, ∃ accepted,
      value = .list accepted ∧ .str capability ∈ accepted := by
  intro capability requested
  have noneLeft := not_not.mp noneMissing
  have found : (itemsOrNone value).any (·.isStr capability) = true := by
    have kept := List.filter_eq_nil_iff.mp noneLeft capability requested
    simpa using kept
  obtain ⟨item, isItem, isStr⟩ := List.any_eq_true.mp found
  rw [eq_str_of_isStr isStr] at isItem
  cases value with
  | list items => exact ⟨items, rfl, isItem⟩
  | _ => cases isItem

theorem acceptResponseOn_concludes (response : PyJson) :
    Concludes handshake capabilities response
      (acceptResponseOn handshake capabilities timeout response) := by
  have refusedWire : Concludes handshake capabilities response
      (.closeAndRaise wireFailure) := by
    refine .refused _ ?_
    simp [wireFailure]
  cases response with
  | none =>
      refine .refused _ ?_
      simp
  | dict items =>
      rw [acceptResponseOn]
      by_cases isHandshake :
          (get items (py "type")).isStr (py "kernel.handshake") = true
      · rw [if_pos isHandshake]
        split
        · rename_i payload hasPayload
          rw [acceptPayloadOn]
          by_cases hasError : (get payload (py "error")).truthy = true
          · rw [if_pos hasError]
            cases errorClass? (get payload (py "error")) with
            | none => exact .refused _ (by simp)
            | some errorClass => exact .refused _ (by simp)
          · rw [if_neg hasError]
            dsimp only
            cases major : kernelMajor? handshake
                (getD payload (py "wire_version") (.str [])) with
            | none => exact refusedWire
            | some found =>
                dsimp only
                by_cases differs : found ≠ handshake.WIRE_MAJOR
                · rw [if_pos differs]
                  exact .refused _ (by simp)
                · rw [if_neg differs]
                  rw [not_not.mp differs] at major
                  split
                  · exact refusedWire
                  · rename_i noneMissing
                    refine .accepted _ rfl ⟨items, payload, rfl, ?_,
                      hasPayload, Bool.eq_false_of_not_eq_true hasError,
                      major, accepted_of_not_missing noneMissing⟩
                    exact eq_str_of_isStr isHandshake
        · exact refusedWire
      · rw [if_neg isHandshake]
        exact refusedWire
  | _ => exact refusedWire

end

/-! ### A peer in time -/

/-- Any behaviour of the peer: whether the connection and the request go
through, what every read gives, and a clock that passes every deadline, each by
the number of interactions before it. -/
structure Peer where
  accepts : Bool
  takesRequest : Bool
  reads : Nat → ReadEvent
  clock : Nat → Time
  passes : ∀ deadline, ∃ index, ∀ later, index ≤ later →
    deadline ≤ clock later

/-- The socket and the clock that such a peer gives. -/
def Peer.endpoint (peer : Peer) : Endpoint Nat where
  monotonic := fun index => (peer.clock index, index + 1)
  connect := fun _ _ index => if peer.accepts then some (index + 1) else none
  sendall := fun _ index =>
    if peer.takesRequest then some (index + 1) else none
  read := fun _ index => (peer.reads index, index + 1)

section

variable {peer : Peer} {loads : Bytes → Loaded} {deadline : Time}

/-- The reader ends, given enough fuel. -/
def ReaderEnds (peer : Peer) (loads : Bytes → Loaded) (deadline : Time)
    (buf : Bytes) (index : Nat) : Prop :=
  ∃ enough, ∀ fuel, enough ≤ fuel →
    readOneFrame peer.endpoint loads deadline fuel buf index ≠
      .error .outOfFuel

/-- The lines of the buffer come before the next read. -/
theorem readerEnds_of_unmarked {index : Nat}
    (unmarked : ∀ buf, newline ∉ buf →
      ReaderEnds peer loads deadline buf index) (buf : Bytes) :
    ReaderEnds peer loads deadline buf index := by
  induction buf using lineInduction newline with
  | unmarked buf notMember => exact unmarked buf notMember
  | oneLine line rest notMember inductionHypothesis =>
      obtain ⟨enough, ends⟩ := inductionHypothesis
      refine ⟨enough + 1, fun fuel isEnough => ?_⟩
      obtain ⟨more, rfl⟩ := Nat.exists_eq_add_of_le' isEnough
      have restEnds := ends (more + enough) (by omega)
      rw [← Nat.add_assoc, readOneFrame, cutAt_line notMember]
      dsimp only
      split
      · exact restEnds
      · split <;> simp

/-- Every read takes two interactions, and the clock passes the deadline after
some number of them. -/
theorem readerEnds {last : Nat}
    (passed : ∀ later, last ≤ later → deadline ≤ peer.clock later)
    (remaining : Nat) (buf : Bytes) (index : Nat)
    (counts : last - index ≤ remaining) :
    ReaderEnds peer loads deadline buf index := by
  induction remaining generalizing buf index with
  | zero =>
      apply readerEnds_of_unmarked
      intro buf notMember
      refine ⟨1, fun fuel enough => ?_⟩
      obtain ⟨more, rfl⟩ := Nat.exists_eq_add_of_le' enough
      have late : deadline ≤ peer.clock index := passed index (by omega)
      rw [readOneFrame, cutAt_eq_none_iff.mpr notMember]
      dsimp only [Peer.endpoint]
      rw [if_pos (sub_nonpos.mpr late)]
      simp
  | succ remaining inductionHypothesis =>
      apply readerEnds_of_unmarked
      intro buf notMember
      have fewer : last - (index + 2) ≤ remaining := by omega
      cases event : peer.reads (index + 1) with
      | chunk bytes =>
          obtain ⟨enough, ends⟩ :=
            inductionHypothesis (buf ++ bytes) (index + 2) fewer
          refine ⟨enough + 1, fun fuel isEnough => ?_⟩
          obtain ⟨more, rfl⟩ := Nat.exists_eq_add_of_le' isEnough
          have restEnds := ends (more + enough) (by omega)
          rw [← Nat.add_assoc, readOneFrame, cutAt_eq_none_iff.mpr notMember]
          dsimp only [Peer.endpoint]
          split
          · simp
          · rw [event]
            cases bytes with
            | nil => simp
            | cons byte bytes => exact restEnds
      | _ =>
          refine ⟨1, fun fuel enough => ?_⟩
          obtain ⟨more, rfl⟩ := Nat.exists_eq_add_of_le' enough
          rw [readOneFrame, cutAt_eq_none_iff.mpr notMember]
          dsimp only [Peer.endpoint]
          split
          · simp
          · rw [event]
            simp

/-- The reader raises no handshake error. -/
theorem readOneFrame_error {fuel : Nat} {buf : Bytes} {index : Nat}
    {stop : ConnectStop}
    (failed : readOneFrame peer.endpoint loads deadline fuel buf index =
      .error stop) :
    stop = .raised ∨ stop = .outOfFuel := by
  induction fuel generalizing buf index with
  | zero =>
      cases failed
      exact Or.inr rfl
  | succ fuel inductionHypothesis =>
      rw [readOneFrame] at failed
      split at failed
      · split at failed
        · exact inductionHypothesis failed
        · split at failed
          · cases failed
          · cases failed
          · cases failed
            exact Or.inl rfl
      · dsimp only at failed
        split at failed
        · cases failed
        · split at failed
          · cases failed
          · cases failed
          · cases failed
          · exact inductionHypothesis failed

end

/-! ### The gate -/

/-- How a call of `connect` may end.  The reply is what the reader of the
handshake response has read. -/
inductive Gated (peer : Peer) (handshake : Handshake)
    (arguments : ConnectArguments) (fuel : Nat) :
    Ending (TcpKernelConnection × Nat) → Prop where
  | noAddress (noAddress : parseBind handshake arguments.bind = none) :
      Gated peer handshake arguments fuel
        { result := .error .raised, socket := .absent }
  | refused (stop : ConnectStop) (stops : stop ≠ .outOfFuel) :
      Gated peer handshake arguments fuel (.closeAndRaise stop)
  | connected (connection : TcpKernelConnection) (deadline : Time)
      (reply : PyJson) (rest : Bytes) (before after : Nat)
      (isOpen : connection.closed = false)
      (read : readOneFrame peer.endpoint handshake.loads deadline fuel []
        before = .ok (reply, rest, after))
      (admitted : Admitted handshake
        (arguments.capabilities.getD defaultCapabilities) reply) :
      Gated peer handshake arguments fuel (.finish (connection, after))

/-- A handler of the outer `try` leaves a closed socket closed. -/
theorem handled_closeAndRaise {Value : Type} (stop : ConnectStop) :
    (Ending.closeAndRaise stop : Ending Value).handled =
      .closeAndRaise stop := by
  cases stop <;> rfl

/-- Whatever the peer does, `connect` raises and leaves no open socket, or it
returns a connection over the open socket and the reply is a handshake without
an error, of the wire major of the driver, that accepts every requested
capability. -/
theorem connect_is_gated (peer : Peer) (handshake : Handshake)
    (arguments : ConnectArguments) (index : Nat) :
    ∃ enough, ∀ fuel, enough ≤ fuel →
      (connectOn peer.endpoint handshake arguments fuel index).result =
        connect peer.endpoint handshake arguments fuel index ∧
      Gated peer handshake arguments fuel
        (connectOn peer.endpoint handshake arguments fuel index) := by
  let deadline := peer.clock (index + 2) + arguments.timeout
  obtain ⟨last, passed⟩ := peer.passes deadline
  have reader : ReaderEnds peer handshake.loads deadline [] (index + 3) :=
    readerEnds passed (last - (index + 3)) [] (index + 3) (Nat.le_refl _)
  obtain ⟨enough, ends⟩ := reader
  refine ⟨enough, fun fuel isEnough => ⟨connectOn_result index, ?_⟩⟩
  have readEnds := ends fuel isEnough
  have closedGate (stop : ConnectStop) (stops : stop ≠ .outOfFuel) :
      Gated peer handshake arguments fuel
        (Ending.closeAndRaise stop).handled := by
    rw [handled_closeAndRaise]
    exact .refused stop stops
  rw [connectOn]
  cases address : parseBind handshake arguments.bind with
  | none => exact .noAddress address
  | some found =>
      obtain ⟨host, port⟩ := found
      dsimp only
      rw [handshakeOn]
      have connects : peer.endpoint.connect host port index =
          if peer.accepts then some (index + 1) else none := rfl
      by_cases accepts : peer.accepts = true
      · rw [connects, if_pos accepts]
        dsimp only
        generalize handshake.dumps (handshakeRequest arguments
          (arguments.capabilities.getD defaultCapabilities)) = request
        have sends : peer.endpoint.sendall request (index + 1) =
            if peer.takesRequest then some (index + 2) else none := rfl
        by_cases takes : peer.takesRequest = true
        · rw [sends, if_pos takes]
          change Gated peer handshake arguments fuel
            (concludeOn handshake arguments (readOneFrame peer.endpoint
              handshake.loads deadline fuel [] (index + 3))).handled
          cases read : readOneFrame peer.endpoint handshake.loads deadline
              fuel [] (index + 3) with
          | error stop =>
              rcases readOneFrame_error read with rfl | rfl
              · exact .refused .raised (by simp)
              · exact absurd read readEnds
          | ok response =>
              obtain ⟨reply, rest, after⟩ := response
              rw [concludeOn]
              have concluded :
                  Concludes handshake
                    (arguments.capabilities.getD defaultCapabilities) reply
                    (acceptResponseOn handshake
                      (arguments.capabilities.getD defaultCapabilities)
                      arguments.timeout reply) :=
                acceptResponseOn_concludes reply
              generalize acceptResponseOn handshake
                (arguments.capabilities.getD defaultCapabilities)
                arguments.timeout reply = ending at concluded ⊢
              cases concluded with
              | refused stop stops => exact closedGate stop stops
              | accepted connection isOpen admitted =>
                  exact .connected connection deadline reply rest (index + 3)
                    after isOpen read admitted
        · rw [sends, if_neg takes]
          exact .refused .raised (by simp)
      · rw [connects, if_neg accepts]
        exact closedGate .raised (by simp)

end RtsNotebook.LlmClient
