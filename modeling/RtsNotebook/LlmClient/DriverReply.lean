import RtsNotebook.LlmClient.Driver
import RtsNotebook.LlmClient.TcpTimed

/-!
# Waiting for the reply over TCP

The wait loop takes the first empty slice for the end of the exchange.  Over a
TCP connection, whose slices are a tenth of a second at most, it keeps its
contract exactly where frames follow each other closely enough until the reply
is there.
-/

namespace RtsNotebook.LlmClient

open RtsNotebook.Python

section

variable {loads : Bytes → Loaded}

/-! ### The contract -/

/-- The frame is correlated with the request. -/
def Frame.answersTo (equality : ValueEquality) (requestId : PyJson)
    (frame : Frame loads) : Bool :=
  match frame.value with
  | .dict items =>
      match replyId items with
      | .ok replyCorr => answers equality requestId replyCorr
      | .error _ => false
  | _ => false

/-- The correlation of the frame can be looked up: it has an identifier at the
top, or a payload to look into. -/
def Frame.identified (frame : Frame loads) : Bool :=
  match frame.value with
  | .dict items => (replyId items).isOk
  | _ => false

/-- What the caller is promised: the first correlated frame if it arrives
before the deadline, `TimeoutError` if it arrives after it or not at all.
Either may stand for a frame that arrives at the deadline. -/
def Kept (equality : ValueEquality) (requestId : PyJson) (deadline : Time)
    (arrivals : List (Time × Frame loads)) (outcome : ShipOutcome) : Prop :=
  match arrivals.find? fun arrival =>
      arrival.2.answersTo equality requestId with
  | some (time, frame) =>
      (outcome = .returned frame.value ∧ time ≤ deadline) ∨
        (outcome = .timeoutError ∧ deadline ≤ time)
  | none => outcome = .timeoutError

/-- The arrivals keep the loop going: until the correlated frame is there or
the deadline has come, each frame follows the one before it within a tenth of
a second and before the deadline, and it is neither empty nor without a
correlation. -/
def Prompt (equality : ValueEquality) (requestId : PyJson) (deadline : Time) :
    Time → List (Time × Frame loads) → Prop
  | now, [] => deadline ≤ now
  | now, (time, frame) :: rest =>
      deadline ≤ now ∨
        time ≤ now + min (1 / 10) (deadline - now) ∧
        frame.value.truthy = true ∧ frame.identified = true ∧
        (frame.answersTo equality requestId = true ∨
          Prompt equality requestId deadline time rest)

variable {equality : ValueEquality} {requestId : PyJson} {deadline : Time}
  {arrivals : List (Time × Frame loads)}

theorem truthy_of_answersTo {frame : Frame loads}
    (isId : requestId ≠ .none)
    (answersIt : frame.answersTo equality requestId = true) :
    frame.value.truthy = true := by
  unfold Frame.answersTo at answersIt
  cases value : frame.value with
  | dict items =>
      rw [value] at answersIt
      cases items with
      | nil =>
          have noId : answers equality requestId .none = false := by
            cases requestId with
            | none => exact absurd rfl isId
            | str text => rfl
            | bool _ | int _ | float _ | list _ | dict _ =>
                exact equality.none_left _ (by simp)
          have noCorrelation : replyId [] = .ok .none := rfl
          simp only [noCorrelation, noId] at answersIt
          cases answersIt
      | cons item items =>
          rfl
  | _ =>
      rw [value] at answersIt
      cases answersIt

/-- The promise is kept by a correlated frame or by `TimeoutError` only. -/
theorem Kept.outcome_cases {outcome : ShipOutcome}
    (kept : Kept equality requestId deadline arrivals outcome) :
    outcome = .timeoutError ∨
      ∃ frame : Frame loads, frame.answersTo equality requestId = true ∧
        outcome = .returned frame.value := by
  unfold Kept at kept
  split at kept
  · rename_i time frame found
    rcases kept with ⟨returned, _⟩ | ⟨timedOut, _⟩
    · have answersIt := List.find?_some found
      exact Or.inr ⟨frame, answersIt, returned⟩
    · exact Or.inl timedOut
  · exact Or.inl kept

theorem not_kept_empty (isId : requestId ≠ .none) :
    ¬ Kept equality requestId deadline arrivals (.returned (.dict [])) := by
  intro kept
  rcases kept.outcome_cases with timedOut | ⟨frame, answersIt, returned⟩
  · cases timedOut
  · have full := truthy_of_answersTo isId answersIt
    injection returned with empty
    rw [← empty] at full
    cases full

theorem not_kept_raised :
    ¬ Kept equality requestId deadline arrivals .raised := by
  intro kept
  rcases kept.outcome_cases with timedOut | ⟨_, _, returned⟩
  · cases timedOut
  · cases returned

/-! ### The loop over a TCP connection -/

variable {timeout : Time} {time : Time} {frame : Frame loads}
  {rest : List (Time × Frame loads)} {state : TimedState} {fuel : Nat}

theorem recv_soon
    (awaits : Awaits ((time, frame) :: rest) state.conn.buf state.net)
    (isOpen : state.conn.closed = false) (notNegative : 0 ≤ timeout)
    (soon : time ≤ state.net.now + timeout) :
    ∃ stateAfter,
      (timedConnection loads).recv timeout state =
        (.value frame.value, stateAfter) ∧
      Awaits rest stateAfter.conn.buf stateAfter.net ∧
      stateAfter.conn.closed = false ∧
      stateAfter.net.now = max state.net.now time := by
  obtain ⟨bufAfter, netAfter, returns, restAwaits, nowAfter⟩ :=
    recvLoop_soon awaits notNegative soon
      (Nat.lt_succ_self state.net.unread.length)
  refine ⟨{ net := netAfter, conn := { state.conn with buf := bufAfter } },
    ?_, restAwaits, isOpen, nowAfter⟩
  unfold timedConnection
  dsimp only
  rw [if_neg (by simp [isOpen]), if_neg (not_lt.mpr notNegative), returns]
  simp [Received.outcome, frame.loads_eq]

theorem recv_late
    (awaits : Awaits arrivals state.conn.buf state.net)
    (isOpen : state.conn.closed = false) (notNegative : 0 ≤ timeout)
    (late : ∀ first ∈ arrivals.head?, state.net.now + timeout < first.1) :
    ∃ stateAfter,
      (timedConnection loads).recv timeout state =
        (.value (.dict []), stateAfter) := by
  obtain ⟨bufAfter, netAfter, returns⟩ :=
    recvLoop_late state.net.unread.length awaits notNegative late
  refine ⟨{ net := netAfter, conn := { state.conn with buf := bufAfter } },
    ?_⟩
  unfold timedConnection
  dsimp only
  rw [if_neg (by simp [isOpen]), if_neg (not_lt.mpr notNegative), returns]
  rfl

theorem takeShipped_frame (isObject : frame.value.isDict = true) :
    takeShipped equality requestId (.value frame.value) =
      if frame.value.truthy = false then some (.returned (.dict []))
      else if frame.identified = false then some .raised
      else if frame.answersTo equality requestId then
        some (.returned frame.value)
      else none := by
  unfold takeShipped Frame.identified Frame.answersTo
  cases value : frame.value with
  | dict items =>
      cases full : (PyJson.dict items).truthy with
      | false => simp [full]
      | true =>
          cases correlation : replyId items with
          | ok replyCorr => simp [full, correlation, Except.isOk, Except.toBool]
          | error stop => simp [full, correlation, Except.isOk, Except.toBool]
  | _ =>
      rw [value] at isObject
      cases isObject

theorem shipLoop_over (isOver : deadline ≤ state.net.now) :
    shipLoop (timedConnection loads) equality requestId deadline (fuel + 1)
      state = .timeoutError := by
  unfold shipLoop
  exact if_neg (not_lt.mpr isOver)

theorem shipLoop_step {outcome : RecvOutcome} {stateAfter : TimedState}
    (inTime : state.net.now < deadline)
    (received : (timedConnection loads).recv
      (min (1 / 10) (deadline - state.net.now)) state =
        (outcome, stateAfter)) :
    shipLoop (timedConnection loads) equality requestId deadline (fuel + 1)
        state =
      (takeShipped equality requestId outcome).getD
        (shipLoop (timedConnection loads) equality requestId deadline fuel
          stateAfter) := by
  refine (if_pos inTime).trans ?_
  have taken : ((timedConnection loads).recv
      (min (1 / 10) (deadline - state.net.now)) state).1 = outcome := by
    rw [received]
  have left : ((timedConnection loads).recv
      (min (1 / 10) (deadline - state.net.now)) state).2 = stateAfter := by
    rw [received]
  split
  · rename_i ended found
    have shipped : takeShipped equality requestId outcome = some ended :=
      taken ▸ found
    rw [shipped]
    rfl
  · rename_i found
    have shipped : takeShipped equality requestId outcome = none :=
      taken ▸ found
    rw [shipped, ← left]
    rfl

/-- Once the deadline has come, `TimeoutError` keeps the promise. -/
theorem kept_over {now : Time}
    (isOver : deadline ≤ now)
    (later : ∀ arrival ∈ arrivals, now ≤ arrival.1) :
    Kept equality requestId deadline arrivals .timeoutError := by
  unfold Kept
  split
  · rename_i time frame found
    have arrival := later _ (List.mem_of_find?_eq_some found)
    exact Or.inr ⟨rfl, isOver.trans arrival⟩
  · rfl

/-- The frame that is received first decides the promise, or hands it on to
the rest. -/
theorem kept_taken_iff (isId : requestId ≠ .none)
    (isObject : frame.value.isDict = true) (inTime : time ≤ deadline)
    (later : ShipOutcome) :
    Kept equality requestId deadline ((time, frame) :: rest)
        ((takeShipped equality requestId (.value frame.value)).getD later) ↔
      frame.value.truthy = true ∧ frame.identified = true ∧
        (frame.answersTo equality requestId = true ∨
          Kept equality requestId deadline rest later) := by
  rw [takeShipped_frame isObject]
  cases full : frame.value.truthy with
  | false =>
      simpa using not_kept_empty isId
  | true =>
      cases identified : frame.identified with
      | false =>
          simpa using not_kept_raised
      | true =>
          cases answersIt : frame.answersTo equality requestId with
          | true =>
              simp [Kept, answersIt, inTime]
          | false =>
              simp [Kept, answersIt]

/-- The loop keeps the promise if and only if the arrivals keep it going. -/
theorem shipLoop_kept_iff
    (isId : requestId ≠ .none)
    (objects : ∀ arrival ∈ arrivals, arrival.2.value.isDict = true)
    (ordered : arrivals.Pairwise fun first second => first.1 ≤ second.1)
    (later : ∀ arrival ∈ arrivals, state.net.now ≤ arrival.1)
    (awaits : Awaits arrivals state.conn.buf state.net)
    (isOpen : state.conn.closed = false)
    (enough : arrivals.length < fuel) :
    Kept equality requestId deadline arrivals
        (shipLoop (timedConnection loads) equality requestId deadline fuel
          state) ↔
      Prompt equality requestId deadline state.net.now arrivals := by
  induction fuel generalizing arrivals state with
  | zero =>
      exact absurd enough (Nat.not_lt_zero _)
  | succ fuel inductionHypothesis =>
      rcases le_or_gt deadline state.net.now with isOver | inTime
      · rw [shipLoop_over isOver]
        have prompt : Prompt equality requestId deadline state.net.now
            arrivals := by
          cases arrivals with
          | nil => exact isOver
          | cons first rest => exact Or.inl isOver
        exact ⟨fun _ => prompt, fun _ => kept_over isOver later⟩
      have notOver : ¬ deadline ≤ state.net.now := not_le.mpr inTime
      have notNegative : 0 ≤ min (1 / 10) (deadline - state.net.now) :=
        le_min (by norm_num) (by linarith)
      cases arrivals with
      | nil =>
          obtain ⟨stateAfter, received⟩ :=
            recv_late awaits isOpen notNegative (by simp)
          rw [shipLoop_step inTime received]
          exact ⟨fun kept => absurd kept (not_kept_empty isId),
            fun isOver => absurd isOver notOver⟩
      | cons first rest =>
          obtain ⟨time, frame⟩ := first
          unfold Prompt
          simp only [notOver, false_or]
          by_cases soon : time ≤
              state.net.now + min (1 / 10) (deadline - state.net.now)
          · obtain ⟨stateAfter, received, restAwaits, stillOpen, nowAfter⟩ :=
              recv_soon awaits isOpen notNegative soon
            have timeLe : time ≤ deadline := by
              have slice := min_le_right (1 / 10) (deadline - state.net.now)
              linarith
            have nowEq : stateAfter.net.now = time := by
              rw [nowAfter]
              exact max_eq_right (later _ List.mem_cons_self)
            have restLater : ∀ arrival ∈ rest,
                stateAfter.net.now ≤ arrival.1 := by
              rw [nowEq]
              exact (List.pairwise_cons.mp ordered).1
            have rest_iff := inductionHypothesis
              (fun arrival member =>
                objects arrival (List.mem_cons_of_mem _ member))
              (List.pairwise_cons.mp ordered).2 restLater restAwaits stillOpen
              (Nat.lt_of_succ_lt_succ enough)
            rw [nowEq] at rest_iff
            rw [shipLoop_step inTime received,
              kept_taken_iff isId (objects _ List.mem_cons_self) timeLe,
              rest_iff, and_iff_right soon]
          · obtain ⟨stateAfter, received⟩ :=
              recv_late awaits isOpen notNegative (by
                intro first isFirst
                cases isFirst
                exact not_le.mp soon)
            rw [shipLoop_step inTime received]
            simp only [soon, false_and, iff_false]
            exact not_kept_empty isId

theorem shipEnvelope_eq
    {envelope : List (PyString × PyJson)}
    (hasId : shippedId envelope = .ok requestId)
    (isOpen : state.conn.closed = false) :
    shipEnvelope (timedConnection loads) equality envelope timeout fuel
        state =
      shipLoop (timedConnection loads) equality requestId
        (state.net.now + timeout) fuel state := by
  have sent : (timedConnection loads).send (.dict envelope) state =
      (.sent, state) := by
    unfold timedConnection
    dsimp only
    rw [if_neg (by simp [isOpen])]
  unfold shipEnvelope
  rw [hasId]
  dsimp only
  rw [sent]
  rfl

/-- Where nothing arrives for a tenth of a second, the result is an empty
dictionary, whatever the timeout. -/
theorem shipEnvelope_late
    {envelope : List (PyString × PyJson)}
    (hasId : shippedId envelope = .ok requestId)
    (awaits : Awaits arrivals state.conn.buf state.net)
    (isOpen : state.conn.closed = false) (positive : 0 < timeout)
    (late : ∀ first ∈ arrivals.head?, state.net.now + 1 / 10 < first.1) :
    shipEnvelope (timedConnection loads) equality envelope timeout (fuel + 1)
      state = .returned (.dict []) := by
  have inTime : state.net.now < state.net.now + timeout := by linarith
  have notNegative :
      0 ≤ min (1 / 10) (state.net.now + timeout - state.net.now) :=
    le_min (by norm_num) (by linarith)
  obtain ⟨stateAfter, received⟩ :=
    recv_late awaits isOpen notNegative (by
      intro first isFirst
      have afterSlice := late first isFirst
      have slice := min_le_left (1 / 10)
        (state.net.now + timeout - state.net.now)
      linarith)
  rw [shipEnvelope_eq hasId isOpen, shipLoop_step inTime received]
  rfl

/-- `ship_envelope` keeps its promise if and only if the arrivals keep the loop
going. -/
theorem shipEnvelope_kept_iff_prompt
    {envelope : List (PyString × PyJson)}
    (hasId : shippedId envelope = .ok requestId) (isId : requestId ≠ .none)
    (objects : ∀ arrival ∈ arrivals, arrival.2.value.isDict = true)
    (ordered : arrivals.Pairwise fun first second => first.1 ≤ second.1)
    (later : ∀ arrival ∈ arrivals, state.net.now ≤ arrival.1)
    (awaits : Awaits arrivals state.conn.buf state.net)
    (isOpen : state.conn.closed = false)
    (enough : arrivals.length < fuel) :
    Kept equality requestId (state.net.now + timeout) arrivals
        (shipEnvelope (timedConnection loads) equality envelope timeout fuel
          state) ↔
      Prompt equality requestId (state.net.now + timeout) state.net.now
        arrivals := by
  rw [shipEnvelope_eq hasId isOpen]
  exact shipLoop_kept_iff isId objects ordered later awaits isOpen enough

end

/-! ### A reply after a fifth of a second -/

def slowLine : Bytes :=
  ascii "\x7b\"request_id\":\"r\"\x7d"

def slowReply : PyJson :=
  .dict [(py "request_id", .str (py "r"))]

/-- The decoder on the line of the reply. -/
def slowLoads (line : Bytes) : Loaded :=
  if line = slowLine then .value slowReply else .malformed

def slowFrame : Frame slowLoads where
  line := slowLine
  value := slowReply
  noNewline := by decide
  notBlank := by decide
  loads_eq := by rfl

/-- A connection at time zero to which the reply comes at a time. -/
def replyAt (time : Time) : TimedState where
  net := { now := 0, unread := timedBytes [(time, slowFrame)] }
  conn :=
    { sessionId := py "session"
      wireVersion := py "1.0.0"
      acceptedCapabilities := []
      handshakeWarnings := []
      recvTimeout := 30
      buf := []
      closed := false }

/-- Strings only are compared here. -/
def stringsOnly : ValueEquality where
  equals := fun _ _ => false
  none_left := fun _ _ => rfl

def slowEnvelope : List (PyString × PyJson) :=
  [(py "request_id", .str (py "r"))]

theorem awaits_replyAt (time : Time) :
    Awaits [(time, slowFrame)] (replyAt time).conn.buf (replyAt time).net :=
  ⟨[], rfl, rfl, by simp⟩

/-- The reply arrives long before the deadline, and the loop has ended. -/
theorem slowReply_missed :
    shipEnvelope (timedConnection slowLoads) stringsOnly slowEnvelope 30 2
        (replyAt (1 / 5)) = .returned (.dict []) ∧
      ¬ Kept stringsOnly (.str (py "r")) (0 + 30)
        [((1 / 5 : Time), slowFrame)]
        (shipEnvelope (timedConnection slowLoads) stringsOnly slowEnvelope 30
          2 (replyAt (1 / 5))) := by
  have returned : shipEnvelope (timedConnection slowLoads) stringsOnly
      slowEnvelope 30 2 (replyAt (1 / 5)) = .returned (.dict []) := by
    apply shipEnvelope_late rfl (awaits_replyAt _) rfl (by norm_num)
    intro first isFirst
    cases isFirst
    change (0 : Time) + 1 / 10 < 1 / 5
    norm_num
  refine ⟨returned, ?_⟩
  rw [returned]
  exact not_kept_empty (by simp)

/-- A reply that is in time. -/
theorem shipEnvelope_kept_iff_prompt_reply :
    Kept stringsOnly (.str (py "r")) (0 + 30)
        [((1 / 20 : Time), slowFrame)]
        (shipEnvelope (timedConnection slowLoads) stringsOnly slowEnvelope 30
          2 (replyAt (1 / 20))) ↔
      Prompt stringsOnly (.str (py "r")) (0 + 30) 0
        [((1 / 20 : Time), slowFrame)] := by
  apply shipEnvelope_kept_iff_prompt rfl _ _ _ _ (awaits_replyAt _) rfl _
  · simp
  · intro arrival member
    cases List.mem_singleton.mp member
    rfl
  · simp
  · intro arrival member
    cases List.mem_singleton.mp member
    change (0 : Time) ≤ 1 / 20
    norm_num
  · decide

end RtsNotebook.LlmClient
