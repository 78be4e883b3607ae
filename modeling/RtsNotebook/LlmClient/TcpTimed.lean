import Mathlib.Algebra.Order.Field.Rat
import Mathlib.Data.List.TakeWhile
import Mathlib.Tactic.Linarith
import RtsNotebook.LlmClient.Tcp

/-!
# A TCP connection in time

The frames of the kernel arrive at given times, each whole; a read waits for
the next byte up to its timeout, and everything else takes no time.  A receive
gives the next frame if that arrives within the timeout, and nothing
otherwise.
-/

namespace RtsNotebook.LlmClient

open RtsNotebook.Python RtsNotebook.Library

/-- The time, and the bytes that are still to be read with their arrivals. -/
structure TimedNet where
  now : Time
  unread : List (Time × UInt8)

namespace TimedNet

/-- `sock.recv(4096)` with a timeout: at most so many of the bytes that have
arrived. -/
def read (timeout : Time) (net : TimedNet) : ReadEvent × TimedNet :=
  match net.unread with
  | [] => (.timedOut, { net with now := net.now + timeout })
  | (time, _) :: _ =>
      if time ≤ net.now + timeout then
        let now := max net.now time
        let chunk := (net.unread.takeWhile (·.1 ≤ now)).take 4096
        (.chunk (chunk.map Prod.snd),
          { now := now, unread := net.unread.drop chunk.length })
      else
        (.timedOut, { net with now := net.now + timeout })

end TimedNet

/-- A connection in time. -/
structure TimedState where
  net : TimedNet
  conn : TcpKernelConnection

/-- The connection as its callers see it. -/
def timedConnection (loads : Bytes → Loaded) : Connection TimedState where
  monotonic := fun state => (state.net.now, state)
  send := fun _ state =>
    if state.conn.closed then (.raised alreadyClosed, state)
    else (.sent, state)
  recv := fun timeout state =>
    if state.conn.closed then
      (.raised alreadyClosed, state)
    else if timeout < 0 then
      (.raised (py "Timeout value out of range"), state)
    else
      match recvLoop (TimedNet.read timeout) (state.net.unread.length + 1)
          state.conn.buf state.net with
      | some (received, buf, net) =>
          (received.outcome loads,
            { net := net, conn := { state.conn with buf := buf } })
      -- The fuel suffices.
      | none => (.escaped, state)

section

variable {loads : Bytes → Loaded}

/-- The bytes of a frame, which arrive together. -/
def timedFrame (arrival : Time × Frame loads) : List (Time × UInt8) :=
  (arrival.2.line ++ [newline]).map (Prod.mk arrival.1)

/-- The bytes of all frames. -/
def timedBytes (arrivals : List (Time × Frame loads)) :
    List (Time × UInt8) :=
  arrivals.flatMap timedFrame

/-- A connection to which these frames are still to be delivered: some bytes
of them that have arrived may be in the buffer. -/
def Awaits (arrivals : List (Time × Frame loads)) (buf : Bytes)
    (net : TimedNet) : Prop :=
  ∃ taken, taken ++ net.unread = timedBytes arrivals ∧
    buf = taken.map Prod.snd ∧ ∀ item ∈ taken, item.1 ≤ net.now

variable {arrivals rest : List (Time × Frame loads)} {time : Time}
  {frame : Frame loads} {buf : Bytes} {net netAfter : TimedNet}
  {timeout : Time} {fuel : Nat}

/-- A read that is in time gives some of the next bytes. -/
theorem read_soon {byte : UInt8} {unread : List (Time × UInt8)}
    (unreadEq : net.unread = (time, byte) :: unread)
    (soon : time ≤ net.now + timeout) :
    ∃ chunk netAfter,
      net.read timeout = (.chunk (chunk.map Prod.snd), netAfter) ∧
      chunk ≠ [] ∧ net.unread = chunk ++ netAfter.unread ∧
      (∀ item ∈ chunk, item.1 ≤ netAfter.now) ∧
      netAfter.now = max net.now time := by
  let now := max net.now time
  let chunk := (net.unread.takeWhile (·.1 ≤ now)).take 4096
  have arrived : time ≤ now := le_max_right _ _
  have isPrefix : chunk <+: net.unread :=
    (List.take_prefix _ _).trans (List.takeWhile_prefix _)
  refine ⟨chunk, { now := now, unread := net.unread.drop chunk.length },
    ?_, ?_, ?_, ?_, rfl⟩
  · unfold TimedNet.read
    split
    · rename_i noBytes
      rw [unreadEq] at noBytes
      cases noBytes
    · rename_i found _ _ foundEq
      rw [unreadEq] at foundEq
      cases foundEq
      rw [if_pos soon]
  · have chunkEq : chunk = (time, byte) ::
        (unread.takeWhile (·.1 ≤ now)).take 4095 := by
      change (net.unread.takeWhile (·.1 ≤ now)).take 4096 = _
      rw [unreadEq, List.takeWhile_cons_of_pos (by simpa using arrived),
        List.take_succ_cons]
    rw [chunkEq]
    exact List.cons_ne_nil _ _
  · obtain ⟨unreadRest, split⟩ := isPrefix
    rw [← split, List.drop_left]
  · intro item member
    have inWhile := List.mem_of_mem_take member
    simpa using List.mem_takeWhile_imp inWhile

/-- The frame is in the buffer, or some of its bytes are still to be read and
the buffer holds no line. -/
theorem Awaits.cases_next
    (awaits : Awaits ((time, frame) :: rest) buf net) :
    (∃ more, nextLine buf = (some frame.line, more) ∧
      Awaits rest more net ∧ time ≤ net.now) ∨
    nextLine buf = (none, buf) ∧
      ∃ byte unread, net.unread = (time, byte) :: unread := by
  obtain ⟨taken, split, rfl, arrived⟩ := awaits
  have frameTimes : ∀ item ∈ timedFrame (time, frame), item.1 = time := by
    intro item member
    obtain ⟨_, _, rfl⟩ := List.mem_map.mp member
    rfl
  have frameBytes : (timedFrame (time, frame)).map Prod.snd =
      frame.line ++ [newline] := by
    simp [timedFrame]
  rcases List.append_eq_append_iff.mp split with
    ⟨missing, frameEq, unreadEq⟩ | ⟨more, takenEq, restEq⟩
  · cases missing with
    | nil =>
        rw [List.append_nil] at frameEq
        refine Or.inl ⟨[], ?_, ⟨[], unreadEq, rfl, by simp⟩, ?_⟩
        · rw [← frameEq, frameBytes]
          exact nextLine_line frame.noNewline frame.notBlank []
        · have member : (time, newline) ∈ taken := by
            rw [← frameEq]
            simp [timedFrame]
          exact arrived _ member
    | cons first missing =>
        refine Or.inr ⟨?_, first.2, missing ++ timedBytes rest, ?_⟩
        · apply nextLine_noNewline
          rw [frameEq, List.map_append, List.map_cons] at frameBytes
          have lineEq := congrArg List.dropLast frameBytes
          rw [List.dropLast_concat, List.dropLast_append_of_ne_nil
            (List.cons_ne_nil _ _)] at lineEq
          intro member
          apply frame.noNewline
          rw [← lineEq]
          exact List.mem_append_left _ member
        · have firstTime : first.1 = time := by
            apply frameTimes
            rw [frameEq]
            simp
          rw [unreadEq, ← firstTime]
          rfl
  · refine Or.inl ⟨more.map Prod.snd, ?_, ⟨more, restEq.symm, rfl, ?_⟩, ?_⟩
    · rw [takenEq, List.map_append, frameBytes, List.append_assoc]
      exact nextLine_line frame.noNewline frame.notBlank _
    · intro item member
      apply arrived
      rw [takenEq]
      exact List.mem_append_right _ member
    · have member : (time, newline) ∈ taken := by
        rw [takenEq]
        simp [timedFrame]
      exact arrived _ member

/-- A frame that arrives within the timeout is the next line. -/
theorem recvLoop_soon
    (awaits : Awaits ((time, frame) :: rest) buf net)
    (notNegative : 0 ≤ timeout) (soon : time ≤ net.now + timeout)
    (enough : net.unread.length < fuel) :
    ∃ bufAfter netAfter,
      recvLoop (TimedNet.read timeout) fuel buf net =
        some (.line frame.line, bufAfter, netAfter) ∧
      Awaits rest bufAfter netAfter ∧
      netAfter.now = max net.now time := by
  induction fuel generalizing buf net with
  | zero =>
      exact absurd enough (Nat.not_lt_zero _)
  | succ fuel inductionHypothesis =>
      unfold recvLoop
      rcases awaits.cases_next with ⟨more, next, restAwaits, arrived⟩ |
        ⟨next, byte, unread, unreadEq⟩
      · rw [next]
        exact ⟨more, net, rfl, restAwaits, (max_eq_left arrived).symm⟩
      · obtain ⟨chunk, netRead, readEq, notEmpty, split, chunkArrived,
            nowEq⟩ := read_soon unreadEq soon
        obtain ⟨taken, takenSplit, bufEq, takenArrived⟩ := awaits
        have laterAwaits : Awaits ((time, frame) :: rest)
            (buf ++ chunk.map Prod.snd) netRead := by
          refine ⟨taken ++ chunk, ?_, by simp [bufEq], ?_⟩
          · rw [List.append_assoc, ← split, takenSplit]
          · intro item member
            rcases List.mem_append.mp member with inTaken | inChunk
            · have before := takenArrived item inTaken
              rw [nowEq]
              exact before.trans (le_max_left _ _)
            · exact chunkArrived item inChunk
        have timeLe : time ≤ netRead.now := by
          rw [nowEq]
          exact le_max_right _ _
        have laterEnough : netRead.unread.length < fuel := by
          have positive := List.length_pos_iff.mpr notEmpty
          rw [split, List.length_append] at enough
          omega
        obtain ⟨bufAfter, netAfter, returns, restAwaits, nowAfter⟩ :=
          inductionHypothesis laterAwaits (by linarith) laterEnough
        rw [next, readEq]
        cases chunk with
        | nil =>
            exact absurd rfl notEmpty
        | cons first chunk =>
            refine ⟨bufAfter, netAfter, returns, restAwaits, ?_⟩
            rw [nowAfter, nowEq, max_assoc, max_self]

/-- Where the next frame does not arrive within the timeout, there is no
line. -/
theorem recvLoop_late (fuel : Nat)
    (awaits : Awaits arrivals buf net) (notNegative : 0 ≤ timeout)
    (late : ∀ first ∈ arrivals.head?, net.now + timeout < first.1) :
    ∃ bufAfter netAfter,
      recvLoop (TimedNet.read timeout) (fuel + 1) buf net =
        some (.nothing, bufAfter, netAfter) := by
  unfold recvLoop
  cases arrivals with
  | nil =>
      obtain ⟨taken, split, bufEq, _⟩ := awaits
      obtain ⟨noTaken, noUnread⟩ := List.append_eq_nil_iff.mp split
      rw [bufEq, noTaken]
      refine ⟨[], { net with now := net.now + timeout }, ?_⟩
      rw [List.map_nil, nextLine_noNewline List.not_mem_nil]
      unfold TimedNet.read
      rw [noUnread]
  | cons first rest =>
      obtain ⟨time, frame⟩ := first
      have isLate : net.now + timeout < time := late (time, frame) rfl
      rcases awaits.cases_next with ⟨_, _, _, arrived⟩ |
        ⟨next, byte, unread, unreadEq⟩
      · linarith
      · refine ⟨buf, { net with now := net.now + timeout }, ?_⟩
        rw [next]
        unfold TimedNet.read
        rw [unreadEq]
        dsimp only
        rw [if_neg (not_le.mpr isLate)]

end

end RtsNotebook.LlmClient
