import Mathlib.Algebra.Order.Field.Rat
import Mathlib.Tactic.Linarith
import RtsNotebook.LlmClient.LiveCounts
import RtsNotebook.LlmClient.Tcp

/-!
# A live run over a TCP connection

`recv` answers the end of the stream and a socket error with the same empty
dictionary as a timeout, and the executor takes a window of empty
dictionaries for a cell that has settled.  A cell that is drained while the
kernel closes the connection is counted as failed where something else ends
its drain first.
-/

namespace RtsNotebook.LlmClient

open RtsNotebook.Python RtsNotebook.Library

/-- The read reports that the peer has closed or reset the connection. -/
def ReadEvent.isEnd : ReadEvent → Bool
  | .chunk bytes => bytes.isEmpty
  | .timedOut => false
  | .osError => true

/-- What the clock, the sends and the socket reads give, each by the number of
interactions before it.  The kernel closes or resets the socket before the
interaction `closeAt`; what it wrote until then may be read later, and the
reads from `endAt` on report the close. -/
structure Course where
  clock : Nat → Time
  sends : Nat → SendOutcome
  reads : Nat → ReadEvent
  closeAt : Nat
  endAt : Nat
  clock_le : ∀ index, clock index ≤ clock (index + 1)
  closeAt_le : closeAt ≤ endAt
  isEnd_iff : ∀ index, (reads index).isEnd = true ↔ endAt ≤ index

/-- A connection and the number of interactions so far. -/
structure TcpState where
  interactions : Nat
  conn : TcpKernelConnection

namespace Course

variable (course : Course)

def read (interactions : Nat) : ReadEvent × Nat :=
  (course.reads interactions, interactions + 1)

/-- No more reads than these come before the close is reported. -/
def fuelAt (interactions : Nat) : Nat :=
  course.endAt - interactions + 1

/-- The connection of a course to the executor. -/
def connection (loads : Bytes → Loaded) : Connection TcpState where
  monotonic := fun state =>
    (course.clock state.interactions,
      { state with interactions := state.interactions + 1 })
  send := fun _ state =>
    if state.conn.closed then
      (.raised alreadyClosed, state)
    else
      (course.sends state.interactions,
        { state with interactions := state.interactions + 1 })
  recv := fun _ state =>
    if state.conn.closed then
      (.raised alreadyClosed, state)
    else
      match recvLoop course.read (course.fuelAt state.interactions)
          state.conn.buf state.interactions with
      | some (received, buf, interactions) =>
          (received.outcome loads,
            { interactions := interactions
              conn := { state.conn with buf := buf } })
      -- The fuel suffices.
      | none => (.escaped, state)

/-- Each call of `recv` returns. -/
theorem recvLoop_isSome (buf : Bytes) (interactions : Nat) :
    (recvLoop course.read (course.fuelAt interactions) buf
      interactions).isSome = true := by
  have returns : ∀ (fuel : Nat) (buf : Bytes) (interactions : Nat),
      0 < fuel → course.endAt < interactions + fuel →
      (recvLoop course.read fuel buf interactions).isSome = true := by
    intro fuel
    induction fuel with
    | zero =>
        intro _ _ positive
        exact absurd positive (Nat.lt_irrefl 0)
    | succ fuel inductionHypothesis =>
        intro buf interactions _ enough
        have notEnd := course.isEnd_iff interactions
        unfold recvLoop Course.read
        split
        · rfl
        · split
          · rfl
          · rfl
          · rfl
          · rename_i byte bytes _ event
            injection event with readEq _
            rw [readEq] at notEnd
            have before : interactions < course.endAt := by
              apply Nat.lt_of_not_le
              intro ended
              exact Bool.noConfusion (notEnd.mpr ended)
            rename_i interactionsEq
            rw [← interactionsEq]
            exact inductionHypothesis _ _ (by omega) (by omega)
  apply returns
  · exact Nat.succ_pos _
  · unfold fuelAt
    omega

/-- The kernel closed the connection before the drain of the cell was over,
and no reply to its request was received. -/
def Concerns (drain : Drain TcpState) : Prop :=
  course.closeAt < drain.world.interactions ∧
    ¬ Replied drain.requestId drain.ticks

instance (drain : Drain TcpState) : Decidable (course.Concerns drain) :=
  inferInstanceAs (Decidable (_ ∧ _))

end Course

section

variable {loads : Bytes → Loaded} {course : Course} {config : LiveConfig}
  {layoutWalkIds : PyJson → List PyString} {fuel : Nat}
  {notebook rts cells : List (PyString × PyJson)} {ids : List PyString}
  {state : TcpState} {result : LiveResult TcpState}

/-- Every cell that the close concerns is counted as failed and not as
succeeded if and only if no receive of such a cell raised and its empty
receives never lasted for a quiescence window. -/
theorem lostNeverSucceeds_iff_neverQuiet
    (hasRts : notebookRts notebook = .ok (.dict rts))
    (hasCells : cellRecords rts = .ok cells)
    (hasIds : orderedCellIds layoutWalkIds rts cells = .ok ids)
    (distinct : ids.Nodup)
    (hydrated : ((course.connection loads).send (hydrateEnvelope (.dict rts))
      state).1 = .sent)
    (returned : runLiveMode (course.connection loads) config layoutWalkIds
      fuel notebook state = .ok result) :
    (∀ drain ∈ result.drains, course.Concerns drain →
      entriesOf result.succeeded drain.cell = 0 ∧
        entriesOf result.failed drain.cell ≠ 0) ↔
    ∀ drain ∈ result.drains, course.Concerns drain →
      ¬ Raised drain.ticks ∧
        settlesQuiet config.quiescenceWindow none drain.ticks = false := by
  obtain ⟨owner, accounts⟩ :=
    runLiveMode_accounts hasRts hasCells hasIds distinct hydrated returned
  have lost_iff : ∀ drain ∈ result.drains, course.Concerns drain →
      (entriesOf result.succeeded drain.cell = 0 ∧
          entriesOf result.failed drain.cell ≠ 0 ↔
        ¬ Raised drain.ticks ∧
          settlesQuiet config.quiescenceWindow none drain.ticks = false) := by
    intro drain member concerns
    obtain ⟨inIds, isRecord⟩ := owner drain member
    have accounted :=
      (accounts drain.cell inIds isRecord).drained drain member rfl
    exact accounted.lost_iff concerns.2
  constructor
  · intro lost drain member concerns
    exact (lost_iff drain member concerns).mp (lost drain member concerns)
  · intro neverQuiet drain member concerns
    exact (lost_iff drain member concerns).mpr
      (neverQuiet drain member concerns)

end

/-- The kernel closes the connection as soon as it has the envelope of the
only cell; ten interactions take a second. -/
def closedAtOnce : Course where
  clock := fun index => index / 10
  sends := fun _ => .sent
  reads := fun index => if index < 4 then .timedOut else .chunk []
  closeAt := 4
  endAt := 4
  clock_le := by
    intro index
    have step : ((index + 1 : Nat) : Rat) = index + 1 := by push_cast; rfl
    rw [step]
    linarith
  closeAt_le := le_refl 4
  isEnd_iff := by
    intro index
    by_cases before : index < 4
    · simp [before, ReadEvent.isEnd]
    · simp [before, ReadEvent.isEnd, Nat.le_of_not_lt before]

/-- A connection before the first interaction. -/
def opened : TcpState where
  interactions := 0
  conn :=
    { sessionId := py "live"
      wireVersion := py "1.0.0"
      acceptedCapabilities := []
      handshakeWarnings := []
      recvTimeout := 30
      buf := []
      closed := false }

/-- The reads of a closed connection last for a window, and the cell is
counted as succeeded. -/
theorem closedAtOnce_succeeds :
    ∃ result,
      runLiveMode (closedAtOnce.connection fun _ => .malformed) minuteConfig
        (fun _ => []) 10 spawnNotebook opened = .ok result ∧
      ∃ drain ∈ result.drains, closedAtOnce.Concerns drain ∧
        entriesOf result.succeeded drain.cell = 1 ∧
        entriesOf result.failed drain.cell = 0 := by
  obtain ⟨result, returned, succeeds⟩ :=
    exists_returned
      (runLiveMode (closedAtOnce.connection fun _ => .malformed)
        minuteConfig (fun _ => []) 10 spawnNotebook opened)
      (fun result => decide (∃ drain ∈ result.drains,
        closedAtOnce.Concerns drain ∧
        entriesOf result.succeeded drain.cell = 1 ∧
        entriesOf result.failed drain.cell = 0))
      true (by decide +kernel)
  exact ⟨result, returned, of_decide_eq_true succeeds⟩

/-- The run of a connection that is closed at once. -/
theorem lostNeverSucceeds_iff_neverQuiet_closedAtOnce :
    ∃ result,
      runLiveMode (closedAtOnce.connection fun _ => .malformed) minuteConfig
        (fun _ => []) 10 spawnNotebook opened = .ok result ∧
      ((∀ drain ∈ result.drains, closedAtOnce.Concerns drain →
        entriesOf result.succeeded drain.cell = 0 ∧
          entriesOf result.failed drain.cell ≠ 0) ↔
      ∀ drain ∈ result.drains, closedAtOnce.Concerns drain →
        ¬ Raised drain.ticks ∧
          settlesQuiet minuteConfig.quiescenceWindow none drain.ticks =
            false) := by
  obtain ⟨result, returned, _⟩ :=
    exists_returned
      (runLiveMode (closedAtOnce.connection fun _ => .malformed)
        minuteConfig (fun _ => []) 10 spawnNotebook opened)
      spawnTally (1, 0) (by decide +kernel)
  exact ⟨result, returned, lostNeverSucceeds_iff_neverQuiet rfl rfl rfl
    (by decide) rfl returned⟩

end RtsNotebook.LlmClient
