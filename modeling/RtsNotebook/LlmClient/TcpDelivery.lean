import RtsNotebook.LlmClient.TcpConnect

/-!
# Frames after the handshake

What the kernel writes reaches the driver in segments.  The connection that
`connect` returns takes the lines of the segments that the handshake has not
read; the bytes that came with the end of the handshake response are gone.
-/

namespace RtsNotebook.LlmClient

open RtsNotebook.Python RtsNotebook.Library

/-- The segments that are still to be read, and the clock readings so far. -/
structure SegmentNet where
  segments : List Bytes
  readings : Nat

namespace SegmentNet

/-- `sock.recv(4096)`: the next segment, or a timeout once there is none. -/
def read (net : SegmentNet) : ReadEvent × SegmentNet :=
  match net.segments with
  | [] => (.timedOut, net)
  | segment :: segments =>
      (.chunk segment, { net with segments := segments })

/-- A kernel that accepts the connection and the request. -/
def endpoint (clock : Nat → Time) : Endpoint SegmentNet where
  monotonic := fun net =>
    (clock net.readings, { net with readings := net.readings + 1 })
  connect := fun _ _ net => some net
  sendall := fun _ net => some net
  read := fun _ net => net.read

/-- The bytes that the connection will take. -/
def stream (buf : Bytes) (net : SegmentNet) : Bytes :=
  buf ++ net.segments.flatten

/-- Each segment holds something. -/
def Full (net : SegmentNet) : Prop :=
  ∀ segment ∈ net.segments, segment ≠ []

/-- `conn.recv` -/
def receive (conn : TcpKernelConnection) (net : SegmentNet) :
    Option (Received × TcpKernelConnection × SegmentNet) :=
  (recvLoop read (net.segments.length + 1) conn.buf net).map
    fun (received, buf, net) => (received, { conn with buf := buf }, net)

/-- The lines that a number of calls of `conn.recv` take. -/
def linesTaken (conn : TcpKernelConnection) (net : SegmentNet) :
    Nat → List Bytes
  | 0 => []
  | calls + 1 =>
      match receive conn net with
      | some (.line line, conn, net) => line :: linesTaken conn net calls
      | some (.nothing, conn, net) => linesTaken conn net calls
      | none => []

end SegmentNet

/-- The lines of a stream that are not blank. -/
def frameLines (bytes : Bytes) : List Bytes :=
  (lines newline bytes).filter fun line => !isBlank line

/-! ### One call -/

section

variable {buf bufAfter : Bytes} {net netAfter : SegmentNet} {fuel : Nat}
  {received : Received}

/-- A line that is taken was the first of the stream, and fewer lines are
left. -/
structure Takes (before after : Bytes) (received : Received) : Prop where
  taken : frameLines before =
    (match received with
      | .line line => line :: frameLines after
      | .nothing => frameLines after)
  fewer : after.count newline < before.count newline ∨
    after.count newline = 0

theorem frameLines_of_cutAt {line : Bytes}
    (cut : cutAt newline buf = some (line, bufAfter)) (rest : Bytes) :
    frameLines (buf ++ rest) =
        (if isBlank line then frameLines (bufAfter ++ rest)
        else line :: frameLines (bufAfter ++ rest)) ∧
      (bufAfter ++ rest).count newline < (buf ++ rest).count newline := by
  have streamLines : lines newline (buf ++ rest) =
      line :: lines newline (bufAfter ++ rest) :=
    lines_of_cutAt (cutAt_append cut rest)
  constructor
  · unfold frameLines
    rw [streamLines]
    cases blank : isBlank line with
    | false => simp [blank]
    | true => simp [blank]
  · rw [← length_lines, ← length_lines, streamLines]
    exact Nat.lt_succ_self _

theorem nextLine_some {line : Bytes}
    (next : nextLine buf = (some line, bufAfter)) :
    cutAt newline buf = some (line, bufAfter) ∧ isBlank line = false := by
  unfold nextLine at next
  split at next
  · rename_i found rest cut
    cases blank : isBlank found with
    | true =>
        rw [blank] at next
        cases next
    | false =>
        rw [blank] at next
        cases next
        exact ⟨cut, blank⟩
  · cases next

theorem nextLine_none (next : nextLine buf = (none, bufAfter)) :
    (∃ line, cutAt newline buf = some (line, bufAfter) ∧
      isBlank line = true) ∨
    bufAfter = buf ∧ newline ∉ buf := by
  unfold nextLine at next
  split at next
  · rename_i found rest cut
    cases blank : isBlank found with
    | true =>
        rw [blank] at next
        cases next
        exact Or.inl ⟨found, cut, blank⟩
    | false =>
        rw [blank] at next
        cases next
  · rename_i cut
    cases next
    exact Or.inr ⟨rfl, cutAt_eq_none_iff.mp cut⟩

/-- A step that drops no more than a blank line comes before a call. -/
theorem Takes.of_none {rest after : Bytes}
    (next : nextLine buf = (none, bufAfter))
    (takes : Takes (bufAfter ++ rest) after received) :
    Takes (buf ++ rest) after received := by
  rcases nextLine_none next with ⟨line, cut, blank⟩ | ⟨rfl, _⟩
  · obtain ⟨sameLines, fewer⟩ := frameLines_of_cutAt cut rest
    rw [if_pos blank] at sameLines
    refine ⟨sameLines.trans takes.taken, ?_⟩
    rcases takes.fewer with less | none
    · exact Or.inl (less.trans fewer)
    · exact Or.inr none
  · exact takes

/-- A call that finds no line leaves a stream without one, or it has dropped a
blank line. -/
theorem Takes.nothing (next : nextLine buf = (none, bufAfter)) :
    Takes (buf ++ []) (bufAfter ++ []) .nothing := by
  rcases nextLine_none next with ⟨line, cut, blank⟩ | ⟨rfl, notMember⟩
  · obtain ⟨sameLines, fewer⟩ := frameLines_of_cutAt cut []
    rw [if_pos blank] at sameLines
    exact ⟨sameLines, Or.inl fewer⟩
  · refine ⟨rfl, Or.inr ?_⟩
    rw [List.append_nil]
    exact List.count_eq_zero.mpr notMember

open SegmentNet

/-- One call of `recv` returns, and takes the first line of the stream. -/
theorem recvLoop_takes (buf : Bytes) (enough : net.segments.length < fuel)
    (full : net.Full) :
    ∃ received bufAfter netAfter,
      recvLoop read fuel buf net = some (received, bufAfter, netAfter) ∧
      netAfter.Full ∧
      Takes (stream buf net) (stream bufAfter netAfter) received := by
  induction fuel generalizing buf net with
  | zero =>
      exact absurd enough (Nat.not_lt_zero _)
  | succ fuel inductionHypothesis =>
      obtain ⟨segments, readings⟩ := net
      unfold recvLoop
      split
      · rename_i line rest next
        obtain ⟨cut, notBlank⟩ := nextLine_some next
        obtain ⟨taken, fewer⟩ := frameLines_of_cutAt cut segments.flatten
        rw [notBlank] at taken
        exact ⟨_, _, _, rfl, full, taken, Or.inl fewer⟩
      · rename_i rest next
        cases segments with
        | nil =>
            exact ⟨_, _, _, rfl, full, Takes.nothing next⟩
        | cons segment segments =>
            cases segment with
            | nil =>
                exact absurd rfl (full [] List.mem_cons_self)
            | cons byte bytes =>
                have restFull : SegmentNet.Full
                    { segments := segments, readings := readings } :=
                  fun segment member =>
                    full segment (List.mem_cons_of_mem _ member)
                obtain ⟨received, bufAfter, netAfter, returns, fullAfter,
                    takes⟩ :=
                  inductionHypothesis (rest ++ byte :: bytes)
                    (Nat.lt_of_succ_lt_succ enough) restFull
                refine ⟨received, bufAfter, netAfter, returns, fullAfter,
                  Takes.of_none next ?_⟩
                have streamEq : rest ++ ((byte :: bytes) :: segments).flatten =
                    (rest ++ byte :: bytes) ++ segments.flatten := by
                  simp
                rw [streamEq]
                exact takes

/-! ### Successive calls -/

/-- As many calls as there are line ends in the stream take its lines, each
once and in order. -/
theorem linesTaken_eq (conn : TcpKernelConnection) {calls : Nat}
    (full : net.Full)
    (enough : (stream conn.buf net).count newline ≤ calls) :
    linesTaken conn net calls = frameLines (stream conn.buf net) := by
  induction calls generalizing conn net with
  | zero =>
      have noLine : lines newline (stream conn.buf net) = [] := by
        apply List.eq_nil_of_length_eq_zero
        rw [length_lines]
        exact Nat.le_zero.mp enough
      simp [linesTaken, frameLines, noLine]
  | succ calls inductionHypothesis =>
      obtain ⟨received, bufAfter, netAfter, returns, fullAfter, takes⟩ :=
        recvLoop_takes conn.buf (Nat.lt_succ_self net.segments.length) full
      have receiveEq : receive conn net =
          some (received, { conn with buf := bufAfter }, netAfter) := by
        unfold receive
        rw [returns]
        rfl
      have enoughAfter :
          (stream bufAfter netAfter).count newline ≤ calls := by
        rcases takes.fewer with less | none
        · omega
        · omega
      have rest := inductionHypothesis { conn with buf := bufAfter } fullAfter
        enoughAfter
      unfold linesTaken
      rw [receiveEq, takes.taken]
      cases received with
      | line line => simp [rest]
      | nothing => simp [rest]

/-! ### The handshake -/

/-- What comes in one segment with the end of the first line, and the segments
after it. -/
def coalesced (buf : Bytes) (segments : List Bytes) : Bytes × List Bytes :=
  match cutAt newline buf, segments with
  | some (_, leftover), segments => (leftover, segments)
  | none, [] => ([], [])
  | none, segment :: segments => coalesced (buf ++ segment) segments

/-- The reader of the handshake response, where it found one. -/
theorem readOneFrame_coalesced
    {clock : Nat → Time} {loads : Bytes → Loaded} {deadline : Time}
    {response body leftover : Bytes} {value : PyJson}
    (returned : readOneFrame (endpoint clock) loads deadline fuel buf net =
      .ok (value, leftover, netAfter))
    (found : value ≠ .none)
    (noNewline : newline ∉ response) (notBlank : isBlank response = false)
    (streamEq : stream buf net = response ++ newline :: body)
    (full : net.Full) :
    coalesced buf net.segments = (leftover, netAfter.segments) ∧
      stream leftover netAfter = body ∧ netAfter.Full := by
  induction fuel generalizing buf net with
  | zero =>
      cases returned
  | succ fuel inductionHypothesis =>
      obtain ⟨segments, readings⟩ := net
      unfold readOneFrame at returned
      split at returned
      · rename_i line rest cut
        -- The line that is complete is the response.
        have streamCut := cutAt_append cut segments.flatten
        have responseCut : cutAt newline (buf ++ segments.flatten) =
            some (response, body) := by
          rw [show buf ++ segments.flatten = _ from streamEq]
          exact cutAt_line noNewline body
        rw [responseCut] at streamCut
        cases streamCut
        rw [if_neg (by simp [notBlank])] at returned
        split at returned
        · cases returned
          unfold coalesced
          rw [cut]
          exact ⟨rfl, rfl, full⟩
        · cases returned
          exact absurd rfl found
        · cases returned
      · rename_i notCut
        dsimp only at returned
        split at returned
        · cases returned
          exact absurd rfl found
        · cases segments with
          | nil =>
              cases returned
              exact absurd rfl found
          | cons segment segments =>
              cases segment with
              | nil =>
                  exact absurd rfl (full [] List.mem_cons_self)
              | cons byte bytes =>
                  have restFull : SegmentNet.Full
                      { segments := segments, readings := readings + 1 } :=
                    fun segment member =>
                      full segment (List.mem_cons_of_mem _ member)
                  have restStream : stream (buf ++ byte :: bytes)
                      { segments := segments, readings := readings + 1 } =
                      response ++ newline :: body := by
                    rw [← streamEq]
                    simp [stream]
                  obtain ⟨coalescedEq, rest⟩ :=
                    inductionHypothesis returned restStream restFull
                  unfold coalesced
                  rw [notCut]
                  exact ⟨coalescedEq, rest⟩

theorem acceptPayload_buf
    {handshake : Handshake} {capabilities : List PyString} {timeout : Time}
    {payload : List (PyString × PyJson)} {conn : TcpKernelConnection}
    (accepted : acceptPayload handshake capabilities timeout payload =
      .ok conn) :
    conn.buf = [] := by
  unfold acceptPayload at accepted
  dsimp only at accepted
  split at accepted
  · split at accepted <;> cases accepted
  · split at accepted
    · cases accepted
    · split at accepted
      · cases accepted
      · split at accepted
        · cases accepted
        · cases accepted
          rfl

/-- A connection comes from a response and starts with an empty buffer. -/
theorem acceptResponse_buf
    {handshake : Handshake} {capabilities : List PyString} {timeout : Time}
    {response : PyJson} {conn : TcpKernelConnection}
    (accepted : acceptResponse handshake capabilities timeout response =
      .ok conn) :
    response ≠ .none ∧ conn.buf = [] := by
  unfold acceptResponse at accepted
  split at accepted
  · cases accepted
  · split at accepted
    · split at accepted
      · exact ⟨by simp, acceptPayload_buf accepted⟩
      · cases accepted
    · cases accepted
  · cases accepted

/-- A connection takes the stream from the first segment on that the handshake
has not read. -/
theorem connect_coalesced
    {clock : Nat → Time} {handshake : Handshake}
    {arguments : ConnectArguments} {response body : Bytes}
    {conn : TcpKernelConnection}
    (connected : connect (endpoint clock) handshake arguments fuel net =
      .ok (conn, netAfter))
    (noNewline : newline ∉ response) (notBlank : isBlank response = false)
    (streamEq : net.segments.flatten = response ++ newline :: body)
    (full : net.Full) :
    conn.buf = [] ∧ (coalesced [] net.segments).2 = netAfter.segments ∧
      (coalesced [] net.segments).1 ++ netAfter.segments.flatten = body ∧
      netAfter.Full := by
  unfold connect at connected
  split at connected
  · cases connected
  · obtain ⟨⟨response, leftover, netRead⟩, read, connected⟩ :=
      ok_of_bind connected
    obtain ⟨accepted, accepts, connected⟩ := ok_of_bind connected
    cases connected
    obtain ⟨found, empty⟩ := acceptResponse_buf accepts
    obtain ⟨coalescedEq, streamAfter, fullAfter⟩ :=
      readOneFrame_coalesced read found noNewline notBlank streamEq full
    exact ⟨empty, congrArg Prod.snd coalescedEq,
      by rw [congrArg Prod.fst coalescedEq]; exact streamAfter, fullAfter⟩

/-! ### Frames -/

variable {loads : Bytes → Loaded}

/-- The frames as the kernel writes them. -/
def written (frames : List (Frame loads)) : Bytes :=
  terminated newline (frames.map Frame.line)

/-- Successive calls of `recv` give the frames, each once and in order, and
nothing more. -/
def DeliversAll (conn : TcpKernelConnection) (net : SegmentNet)
    (frames : List (Frame loads)) : Prop :=
  ∃ enough, ∀ calls, enough ≤ calls →
    (linesTaken conn net calls).map loads =
      frames.map fun frame => .value frame.value

/-- Bytes whose loss goes unnoticed: none, or a part of the first line without
which the line decodes to the same value. -/
def Harmless (leftover : Bytes) (frames : List (Frame loads)) : Prop :=
  leftover = [] ∨
    ∃ first rest remainder, frames = first :: rest ∧
      first.line = leftover ++ remainder ∧ isBlank remainder = false ∧
      loads remainder = .value first.value

theorem frameLines_written (frames : List (Frame loads)) :
    frameLines (written frames) = frames.map Frame.line := by
  have noNewlines : ∀ line ∈ frames.map Frame.line, newline ∉ line := by
    intro line member
    obtain ⟨frame, _, rfl⟩ := List.mem_map.mp member
    exact frame.noNewline
  unfold frameLines written
  rw [lines_terminated noNewlines, List.filter_eq_self]
  intro line member
  obtain ⟨frame, _, rfl⟩ := List.mem_map.mp member
  rw [frame.notBlank]
  rfl

theorem map_loads_lines (frames : List (Frame loads)) :
    (frames.map Frame.line).map loads =
      frames.map fun frame => .value frame.value := by
  rw [List.map_map]
  apply List.map_congr_left
  intro frame _
  exact frame.loads_eq

theorem frameLines_before {line : Bytes} (noNewline : newline ∉ line)
    (frames : List (Frame loads)) :
    frameLines (line ++ newline :: written frames) =
      (if isBlank line then frames.map Frame.line
      else line :: frames.map Frame.line) := by
  have cut :=
    frameLines_of_cutAt (cutAt_line noNewline (written frames)) []
  simp only [List.append_nil] at cut
  rw [cut.1, frameLines_written]

/-- Where a loss ends inside a line, a part of the line is left of it. -/
theorem remainder_of_noNewline
    {line leftover rest more : Bytes}
    (noNewline : newline ∉ leftover)
    (split : leftover ++ rest = line ++ newline :: more) :
    ∃ remainder, line = leftover ++ remainder ∧
      rest = remainder ++ newline :: more := by
  rcases List.append_eq_append_iff.mp split with
    ⟨remainder, lineEq, restEq⟩ | ⟨excess, leftoverEq, restEq⟩
  · exact ⟨remainder, lineEq, restEq⟩
  · cases excess with
    | nil =>
        rw [List.append_nil] at leftoverEq
        exact ⟨[], by simp [leftoverEq], restEq.symm⟩
    | cons first excess =>
        injection restEq with firstEq _
        have member : newline ∈ leftover := by
          rw [leftoverEq, firstEq]
          simp
        exact absurd member noNewline

/-- A loss with a line end in it loses a frame. -/
theorem length_frameLines_lt
    {leftover rest : Bytes} {frames : List (Frame loads)}
    (written_eq : leftover ++ rest = written frames)
    (newlineLost : newline ∈ leftover) :
    (frameLines rest).length < frames.length := by
  have total : (written frames).count newline = frames.length := by
    rw [← length_lines, written, lines_terminated, List.length_map]
    intro line member
    obtain ⟨frame, _, rfl⟩ := List.mem_map.mp member
    exact frame.noNewline
  have lost : 0 < leftover.count newline := List.count_pos_iff.mpr newlineLost
  have left : (frameLines rest).length ≤ rest.count newline := by
    rw [← length_lines]
    exact List.length_filter_le _ _
  rw [← written_eq, List.count_append] at total
  omega

/-- What is left of the frames after a loss. -/
theorem frameLines_eq_iff_harmless
    {leftover rest : Bytes} {frames : List (Frame loads)}
    (written_eq : leftover ++ rest = written frames) :
    (frameLines rest).map loads =
        (frames.map fun frame => .value frame.value) ↔
      Harmless leftover frames := by
  by_cases nothingLost : leftover = []
  · rw [nothingLost, List.nil_append] at written_eq
    rw [written_eq, frameLines_written, map_loads_lines]
    exact ⟨fun _ => Or.inl nothingLost, fun _ => rfl⟩
  constructor
  · intro delivered
    have sameLength : (frameLines rest).length = frames.length := by
      simpa using congrArg List.length delivered
    cases frames with
    | nil =>
        have nothing := List.append_eq_nil_iff.mp written_eq
        exact absurd nothing.1 nothingLost
    | cons first frames =>
        have noNewline : newline ∉ leftover := fun newlineLost =>
          absurd sameLength
            (Nat.ne_of_lt (length_frameLines_lt written_eq newlineLost))
        have writtenCons : written (first :: frames) =
            first.line ++ newline :: written frames := terminated_cons _ _
        rw [writtenCons] at written_eq
        obtain ⟨remainder, lineEq, restEq⟩ :=
          remainder_of_noNewline noNewline written_eq
        have remainderLine : newline ∉ remainder := fun member =>
          first.noNewline (lineEq ▸ List.mem_append_right _ member)
        rw [restEq, frameLines_before remainderLine] at delivered sameLength
        cases blank : isBlank remainder with
        | true =>
            rw [blank] at sameLength
            simp at sameLength
        | false =>
            rw [blank] at delivered
            injection delivered with decodes _
            exact Or.inr
              ⟨first, frames, remainder, rfl, lineEq, blank, decodes⟩
  · rintro (empty | ⟨first, frames, remainder, rfl, lineEq, notBlank, decodes⟩)
    · exact absurd empty nothingLost
    · have writtenCons : written (first :: frames) =
          first.line ++ newline :: written frames := terminated_cons _ _
      have restEq : rest = remainder ++ newline :: written frames := by
        rw [writtenCons, lineEq, List.append_assoc] at written_eq
        exact List.append_cancel_left written_eq
      have remainderLine : newline ∉ remainder := fun member =>
        first.noNewline (lineEq ▸ List.mem_append_right _ member)
      rw [restEq, frameLines_before remainderLine, notBlank]
      simp only [Bool.false_eq_true, if_false, List.map_cons, decodes]
      rw [map_loads_lines]

/-- The connection delivers every frame that the kernel writes after its
handshake response if and only if the bytes that come in one read with the end
of the response are none, or a harmless part of the first frame. -/
theorem deliversAll_iff_harmless
    {clock : Nat → Time} {handshake : Handshake}
    {arguments : ConnectArguments} {response : Bytes}
    {frames : List (Frame handshake.loads)} {conn : TcpKernelConnection}
    (noNewline : newline ∉ response) (notBlank : isBlank response = false)
    (full : net.Full)
    (streamEq : net.segments.flatten =
      response ++ newline :: written frames)
    (connected : connect (endpoint clock) handshake arguments fuel net =
      .ok (conn, netAfter)) :
    DeliversAll conn netAfter frames ↔
      Harmless (coalesced [] net.segments).1 frames := by
  obtain ⟨empty, _, written_eq, fullAfter⟩ :=
    connect_coalesced connected noNewline notBlank streamEq full
  have streamAfter : stream conn.buf netAfter = netAfter.segments.flatten := by
    rw [empty]
    rfl
  have taken : ∀ calls,
      (stream conn.buf netAfter).count newline ≤ calls →
      linesTaken conn netAfter calls =
        frameLines netAfter.segments.flatten := by
    intro calls enough
    rw [← streamAfter]
    exact linesTaken_eq conn fullAfter enough
  rw [← frameLines_eq_iff_harmless written_eq]
  constructor
  · rintro ⟨enough, delivers⟩
    have later := delivers
      (enough + (stream conn.buf netAfter).count newline)
      (Nat.le_add_right _ _)
    rwa [taken _ (Nat.le_add_left _ _)] at later
  · intro delivered
    refine ⟨(stream conn.buf netAfter).count newline, fun calls enough => ?_⟩
    rw [taken calls enough]
    exact delivered

end

/-! ### A kernel that writes at once -/

def sampleResponse : Bytes :=
  ascii "\x7b\"type\":\"kernel.handshake\",\"payload\":\x7b\"wire_version\":\"1.0.0\"\x7d\x7d"

def sampleLine : Bytes :=
  ascii "\x7b\"type\":\"notebook.metadata\"\x7d"

def sampleValue : PyJson :=
  .dict [(py "type", .str (py "notebook.metadata"))]

/-- The decoder on the two lines of the sample. -/
def sampleLoads (line : Bytes) : Loaded :=
  if line = sampleResponse then
    .value (.dict
      [(py "type", .str (py "kernel.handshake")),
        (py "payload", .dict [(py "wire_version", .str (py "1.0.0"))])])
  else if line = sampleLine then
    .value sampleValue
  else
    .malformed

def sampleHandshake : Handshake where
  dumps := fun _ => []
  loads := sampleLoads
  strOf := fun value => value.str?.getD []
  intOf? := fun text =>
    if text = py "7474" then some 7474
    else if text = py "1" then some 1
    else none
  uuid4 := py "session"
  WIRE_MAJOR := 1
  WIRE_VERSION := py "1.0.0"

def sampleArguments : ConnectArguments where
  bind := py "127.0.0.1:7474"
  token := py "token"
  wireVersionRequest := py "1.0.0"
  clientName := py "llmnb-cli"
  clientVersion := py "0.1.0"
  capabilities := some []
  timeout := 30

def sampleFrame : Frame sampleHandshake.loads where
  line := sampleLine
  value := sampleValue
  noNewline := by decide
  notBlank := by decide
  loads_eq := by rfl

/-- The handshake response and the first frame come in one segment. -/
theorem coalescedFrame_lost :
    ∃ conn net,
      connect (SegmentNet.endpoint fun _ => 0) sampleHandshake
        sampleArguments 2
        ⟨[sampleResponse ++ newline :: written [sampleFrame]], 0⟩ =
          .ok (conn, net) ∧
      ¬ DeliversAll conn net [sampleFrame] := by
  obtain ⟨⟨conn, net⟩, connected, nothingLeft⟩ :=
    exists_returned
      (connect (SegmentNet.endpoint fun _ => 0) sampleHandshake
        sampleArguments 2
        ⟨[sampleResponse ++ newline :: written [sampleFrame]], 0⟩)
      (fun (conn, net) => (conn.buf, net.segments)) ([], [])
      (by decide +kernel)
  injection nothingLeft with noBuf noSegments
  have empty : SegmentNet.stream conn.buf net = [] := by
    simp [SegmentNet.stream, noBuf, noSegments]
  have full : net.Full := by
    simp [SegmentNet.Full, noSegments]
  refine ⟨conn, net, connected, ?_⟩
  rintro ⟨enough, delivers⟩
  have delivered := delivers enough (Nat.le_refl _)
  rw [linesTaken_eq conn full (by simp [empty]), empty] at delivered
  cases delivered

/-- The handshake response and the first frame come in two segments. -/
theorem deliversAll_iff_harmless_separate :
    ∃ conn net,
      connect (SegmentNet.endpoint fun _ => 0) sampleHandshake
        sampleArguments 2
        ⟨[sampleResponse ++ [newline], written [sampleFrame]], 0⟩ =
          .ok (conn, net) ∧
      (DeliversAll conn net [sampleFrame] ↔
        Harmless
          (coalesced [] [sampleResponse ++ [newline],
            written [sampleFrame]]).1 [sampleFrame]) := by
  obtain ⟨⟨conn, net⟩, connected, _⟩ :=
    exists_returned
      (connect (SegmentNet.endpoint fun _ => 0) sampleHandshake
        sampleArguments 2
        ⟨[sampleResponse ++ [newline], written [sampleFrame]], 0⟩)
      (fun (conn, _) => conn.buf) [] (by decide +kernel)
  have noNewline : newline ∉ sampleResponse := by decide
  refine ⟨conn, net, connected,
    deliversAll_iff_harmless noNewline (by decide) ?_ ?_ connected⟩
  · intro segment member
    simp at member
    rcases member with rfl | rfl <;> decide
  · simp

end RtsNotebook.LlmClient
