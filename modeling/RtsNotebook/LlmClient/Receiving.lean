import RtsNotebook.LlmClient.TcpDelivery

/-!
# Receiving from a socket

`recv` of `_TcpKernelConnection` and of `_UnixSocketConnection` over a socket
whose stream arrives in any segments, with timeouts between them.  The loops of
the two are the same; they differ in a line that does not decode.
-/

namespace RtsNotebook.LlmClient

open RtsNotebook.Python RtsNotebook.Library

/-- What one read of a socket gives. -/
inductive SocketPart where
  | segment (first : UInt8) (rest : Bytes)
  | timeout

def SocketPart.bytes : SocketPart → Bytes
  | segment first rest => first :: rest
  | timeout => []

/-- The reads to come, after which the peer closes or stays silent, and the
number of reads so far. -/
structure LineSocket where
  parts : List SocketPart
  closes : Bool
  reads : Nat

namespace LineSocket

/-- What is still to be read. -/
def bytes (socket : LineSocket) : Bytes :=
  socket.parts.flatMap SocketPart.bytes

/-- `sock.recv(4096)` -/
def read (socket : LineSocket) : ReadEvent × LineSocket :=
  match socket.parts with
  | [] =>
      (if socket.closes then .chunk [] else .timedOut,
        { socket with reads := socket.reads + 1 })
  | .segment first rest :: parts =>
      (.chunk (first :: rest),
        { socket with parts := parts, reads := socket.reads + 1 })
  | .timeout :: parts =>
      (.timedOut, { socket with parts := parts, reads := socket.reads + 1 })

end LineSocket

/-- An open connection: its buffer and its socket. -/
structure LineConnection where
  buf : Bytes
  socket : LineSocket

namespace LineConnection

/-- The bytes from which lines are still to be taken. -/
def stream (connection : LineConnection) : Bytes :=
  connection.buf ++ connection.socket.bytes

/-- What is left to do: line ends to pass and parts to read. -/
def left (connection : LineConnection) : Nat :=
  connection.stream.count newline + connection.socket.parts.length

/-- The loop of `recv`. -/
def recv (connection : LineConnection) : Received × LineConnection :=
  match recvLoop LineSocket.read (connection.socket.parts.length + 1)
      connection.buf connection.socket with
  | some (received, buf, socket) =>
      (received, { buf := buf, socket := socket })
  -- The fuel suffices.
  | none => (.nothing, connection)

end LineConnection

/-- `_TcpKernelConnection` and `_UnixSocketConnection`. -/
inductive Transport where
  | tcp
  | unix
  deriving DecidableEq, Repr

/-- What a call of `recv` gives; the unix connection lets the exception of
`json.loads` through. -/
def Transport.outcome (transport : Transport) (loads : Bytes → Loaded)
    (received : Received) : RecvOutcome :=
  match transport, received with
  | .unix, .line line =>
      match loads line with
      | .value loaded => .value loaded
      | .malformed => .raised (py "JSONDecodeError")
      | .raised message => .raised message
  | _, received => received.outcome loads

/-- A call of `recv`: the connection before it, what it found, and the
connection after it. -/
structure RecvCall where
  before : LineConnection
  received : Received
  after : LineConnection

/-- Successive calls of `recv`. -/
def recvCalls (connection : LineConnection) : Nat → List RecvCall
  | 0 => []
  | calls + 1 =>
      let (received, after) := connection.recv
      { before := connection, received := received, after := after } ::
        recvCalls after calls

/-! ### One call -/

section

variable {buf bufAfter : Bytes} {socket socketAfter : LineSocket}
  {received : Received} {fuel : Nat}

/-- A line that is taken was the first of the stream, and less is left. -/
structure Progress (before after : LineConnection) (received : Received) :
    Prop where
  taken : frameLines before.stream =
    (match received with
      | .line line => line :: frameLines after.stream
      | .nothing => frameLines after.stream)
  less : after.left < before.left ∨ after.left = 0

/-- A read that gives nothing ends the call. -/
theorem progress_nothing {rest : Bytes}
    (next : nextLine buf = (none, rest))
    (sameBytes : socketAfter.bytes = socket.bytes)
    (fewer : socketAfter.parts.length < socket.parts.length ∨
      socketAfter.parts = [] ∧ socket.parts = []) :
    Progress ⟨buf, socket⟩ ⟨rest, socketAfter⟩ .nothing := by
  rcases nextLine_none next with ⟨line, cut, blank⟩ | ⟨rfl, unmarked⟩
  · obtain ⟨sameLines, fewerLines⟩ := frameLines_of_cutAt cut socket.bytes
    rw [if_pos blank] at sameLines
    refine ⟨?_, Or.inl ?_⟩
    · simpa [LineConnection.stream, sameBytes] using sameLines
    · have fewerParts :
          socketAfter.parts.length ≤ socket.parts.length := by
        rcases fewer with less | ⟨none, none'⟩
        · exact Nat.le_of_lt less
        · simp [none, none']
      simp only [LineConnection.left, LineConnection.stream, sameBytes]
      omega
  · refine ⟨by simp [LineConnection.stream, sameBytes], ?_⟩
    rcases fewer with less | ⟨noneAfter, none⟩
    · refine Or.inl ?_
      simp only [LineConnection.left, LineConnection.stream, sameBytes]
      omega
    · refine Or.inr ?_
      have noBytes : socketAfter.bytes = [] := by
        simp [LineSocket.bytes, noneAfter]
      have noLine : (rest ++ ([] : Bytes)).count newline = 0 := by
        rw [List.append_nil]
        exact List.count_eq_zero.mpr unmarked
      simp only [LineConnection.left, LineConnection.stream, noBytes, noLine,
        noneAfter, List.length_nil]

/-- A segment that is read goes to the end of the buffer. -/
theorem progress_segment {rest : Bytes} {first : UInt8} {segment : Bytes}
    {parts : List SocketPart} {after : LineConnection}
    (next : nextLine buf = (none, rest))
    (isRead : socket.parts = .segment first segment :: parts)
    (afterwards : Progress
      ⟨rest ++ first :: segment,
        { socket with parts := parts, reads := socket.reads + 1 }⟩
      after received) :
    Progress ⟨buf, socket⟩ after received := by
  have bytesEq : socket.bytes =
      first :: segment ++ parts.flatMap SocketPart.bytes := by
    simp [LineSocket.bytes, isRead, SocketPart.bytes]
  obtain ⟨taken, less⟩ := afterwards
  have streamEq : (⟨rest ++ first :: segment,
      { socket with parts := parts, reads := socket.reads + 1 }⟩ :
        LineConnection).stream = rest ++ socket.bytes := by
    simp [LineConnection.stream, LineSocket.bytes, isRead, SocketPart.bytes]
  have partsEq : socket.parts.length = parts.length + 1 := by
    rw [isRead, List.length_cons]
  rw [streamEq] at taken
  have leftRead : (⟨rest ++ first :: segment,
      { socket with parts := parts, reads := socket.reads + 1 }⟩ :
        LineConnection).left =
      (rest ++ socket.bytes).count newline + parts.length := by
    rw [LineConnection.left, streamEq]
  rw [leftRead] at less
  rcases nextLine_none next with ⟨line, cut, blank⟩ | ⟨rfl, unmarked⟩
  · obtain ⟨sameLines, fewerLines⟩ := frameLines_of_cutAt cut socket.bytes
    rw [if_pos blank] at sameLines
    have leftEq : (⟨buf, socket⟩ : LineConnection).left =
        (buf ++ socket.bytes).count newline + socket.parts.length := rfl
    refine ⟨sameLines.trans taken, ?_⟩
    omega
  · have leftEq : (⟨rest, socket⟩ : LineConnection).left =
        (rest ++ socket.bytes).count newline + socket.parts.length := rfl
    refine ⟨taken, ?_⟩
    omega

/-- A call returns, and takes the first line of the stream. -/
theorem recvLoop_progress (enough : socket.parts.length < fuel) :
    ∃ received bufAfter socketAfter,
      recvLoop LineSocket.read fuel buf socket =
        some (received, bufAfter, socketAfter) ∧
      Progress ⟨buf, socket⟩ ⟨bufAfter, socketAfter⟩ received := by
  induction fuel generalizing buf socket with
  | zero => exact absurd enough (Nat.not_lt_zero _)
  | succ fuel inductionHypothesis =>
      rw [recvLoop]
      split
      · rename_i line rest next
        obtain ⟨cut, notBlank⟩ := nextLine_some next
        obtain ⟨taken, fewer⟩ := frameLines_of_cutAt cut socket.bytes
        rw [notBlank] at taken
        refine ⟨_, _, _, rfl, taken, Or.inl ?_⟩
        simp only [LineConnection.left, LineConnection.stream]
        omega
      · rename_i rest next
        obtain ⟨parts, closes, reads⟩ := socket
        cases parts with
        | nil =>
            have ended : Progress ⟨buf, ⟨[], closes, reads⟩⟩
                ⟨rest, ⟨[], closes, reads + 1⟩⟩ .nothing :=
              progress_nothing next rfl (Or.inr ⟨rfl, rfl⟩)
            cases closes with
            | false => exact ⟨_, _, _, rfl, ended⟩
            | true => exact ⟨_, _, _, rfl, ended⟩
        | cons part parts =>
            cases part with
            | timeout =>
                refine ⟨_, _, _, rfl, progress_nothing next ?_ (Or.inl ?_)⟩
                · simp [LineSocket.bytes, SocketPart.bytes]
                · simp
            | segment first segment =>
                obtain ⟨received, bufAfter, socketAfter, returns,
                    afterwards⟩ :=
                  @inductionHypothesis (rest ++ first :: segment)
                    ⟨parts, closes, reads + 1⟩
                    (Nat.lt_of_succ_lt_succ enough)
                exact ⟨received, bufAfter, socketAfter, returns,
                  progress_segment next rfl afterwards⟩

theorem recv_progress (connection : LineConnection) :
    Progress connection connection.recv.2 connection.recv.1 := by
  obtain ⟨received, bufAfter, socketAfter, returns, progress⟩ :=
    @recvLoop_progress connection.buf connection.socket _
      (Nat.lt_succ_self _)
  rw [LineConnection.recv, returns]
  exact progress

end

/-! ### Successive calls -/

/-- The line that a call has taken. -/
def Received.line? : Received → Option Bytes
  | .line bytes => some bytes
  | .nothing => none

/-- Enough calls take the lines of the stream that are not blank, each once and
in order. -/
theorem recvCalls_lines (connection : LineConnection) {calls : Nat}
    (enough : connection.left ≤ calls) :
    (recvCalls connection calls).filterMap (·.received.line?) =
      frameLines connection.stream := by
  induction calls generalizing connection with
  | zero =>
      have noLine : lines newline connection.stream = [] := by
        apply List.eq_nil_of_length_eq_zero
        rw [length_lines]
        rw [LineConnection.left] at enough
        omega
      simp [recvCalls, frameLines, noLine]
  | succ calls inductionHypothesis =>
      have progress := recv_progress connection
      have enoughAfter : connection.recv.2.left ≤ calls := by
        rcases progress.less with less | none
        · omega
        · omega
      have rest := inductionHypothesis connection.recv.2 enoughAfter
      have taken := progress.taken
      rw [recvCalls]
      cases received : connection.recv.1 with
      | line line =>
          rw [received] at taken
          rw [taken, List.filterMap_cons, rest]
          dsimp only
          rw [received]
          rfl
      | nothing =>
          rw [received] at taken
          rw [taken, List.filterMap_cons, rest]
          dsimp only
          rw [received]
          rfl

/-! ### Lines of objects -/

/-- A line of the stream: a blank one, or one that holds an object. -/
inductive StreamLine (loads : Bytes → Loaded) where
  | blank (line : Bytes) (noNewline : newline ∉ line)
      (isBlank : isBlank line = true)
  | object (line : Bytes) (items : List (PyString × PyJson))
      (noNewline : newline ∉ line) (notBlank : LlmClient.isBlank line = false)
      (loads_eq : loads line = .value (.dict items))

section

variable {loads : Bytes → Loaded}

def StreamLine.line : StreamLine loads → Bytes
  | blank line _ _ => line
  | object line _ _ _ _ => line

theorem StreamLine.noNewline (streamLine : StreamLine loads) :
    newline ∉ streamLine.line := by
  cases streamLine with
  | blank line noNewline isBlank => exact noNewline
  | object line items noNewline notBlank loads_eq => exact noNewline

/-- The value, if it is one and is not empty. -/
def RecvOutcome.nonEmpty? : RecvOutcome → Option PyJson
  | value reply => if reply.truthy then some reply else none
  | _ => none

/-- The objects of the lines, in order, without the empty ones, which a call
that finds no line gives as well. -/
def objects (content : List (StreamLine loads)) : List PyJson :=
  content.filterMap fun streamLine =>
    match streamLine with
    | .blank _ _ _ => none
    | .object _ items _ _ _ => (RecvOutcome.value (.dict items)).nonEmpty?

/-- The non-empty values of successive calls. -/
def valuesOf (transport : Transport) (loads : Bytes → Loaded)
    (calls : List RecvCall) : List PyJson :=
  calls.filterMap fun call =>
    (transport.outcome loads call.received).nonEmpty?

theorem frameLines_content (content : List (StreamLine loads)) :
    frameLines (terminated newline (content.map StreamLine.line)) =
      (content.map StreamLine.line).filter fun line => !isBlank line := by
  rw [frameLines, lines_terminated]
  intro line member
  obtain ⟨streamLine, _, rfl⟩ := List.mem_map.mp member
  exact streamLine.noNewline

/-- A call without a line gives an empty value, so the non-empty values are
those of the lines that were taken. -/
theorem valuesOf_eq (transport : Transport) (calls : List RecvCall) :
    valuesOf transport loads calls =
      (calls.filterMap (·.received.line?)).filterMap fun line =>
        (transport.outcome loads (.line line)).nonEmpty? := by
  rw [valuesOf, List.filterMap_filterMap]
  congr 1
  funext call
  cases call.received with
  | line line => rfl
  | nothing => cases transport <;> rfl

theorem objects_eq (transport : Transport)
    (content : List (StreamLine loads)) :
    (((content.map StreamLine.line).filter fun line => !isBlank line).filterMap
      fun line => (transport.outcome loads (.line line)).nonEmpty?) =
      objects content := by
  induction content with
  | nil => rfl
  | cons streamLine content inductionHypothesis =>
      cases streamLine with
      | blank line noNewline isBlank =>
          have dropped : (!LlmClient.isBlank line) = false := by
            rw [isBlank]
            rfl
          rw [List.map_cons, StreamLine.line, List.filter_cons, dropped,
            if_neg Bool.false_ne_true, inductionHypothesis]
          rfl
      | object line items noNewline notBlank loads_eq =>
          have kept : (!LlmClient.isBlank line) = true := by
            rw [notBlank]
            rfl
          have value : transport.outcome loads (.line line) =
              .value (.dict items) := by
            cases transport with
            | tcp => simp [Transport.outcome, Received.outcome, loads_eq]
            | unix => simp [Transport.outcome, loads_eq]
          rw [List.map_cons, StreamLine.line, List.filter_cons, if_pos kept,
            List.filterMap_cons, value, inductionHypothesis]
          rfl

/-! ### Lines that are already there -/

/-- Where the buffer holds a complete line that is not blank, the call gives
the first such line and reads nothing. -/
def IsPrompt (call : RecvCall) : Prop :=
  ∀ line rest, frameLines call.before.buf = line :: rest →
    call.received = .line line ∧ call.after.socket = call.before.socket

/-- A blank line stands before a complete line that is not blank. -/
def BlankFirst (buf : Bytes) : Prop :=
  frameLines buf ≠ [] ∧
    ∃ line rest, cutAt newline buf = some (line, rest) ∧ isBlank line = true

/-- After a blank line the loop reads the socket. -/
theorem read_of_recvLoop {buf bufAfter : Bytes}
    {socket socketAfter : LineSocket} {received : Received} {fuel : Nat}
    (returned : recvLoop LineSocket.read fuel buf socket =
      some (received, bufAfter, socketAfter)) :
    socket.reads ≤ socketAfter.reads ∧
      ((nextLine buf).1 = none → socket.reads < socketAfter.reads) := by
  induction fuel generalizing buf socket with
  | zero => cases returned
  | succ fuel inductionHypothesis =>
      obtain ⟨parts, closes, reads⟩ := socket
      rw [recvLoop] at returned
      split at returned
      · rename_i line rest next
        cases returned
        rw [next]
        exact ⟨Nat.le_refl _, fun isNone => by cases isNone⟩
      · rename_i rest next
        have oneMore : reads < socketAfter.reads := by
          cases parts with
          | nil =>
              cases closes with
              | false =>
                  cases returned
                  exact Nat.lt_succ_self reads
              | true =>
                  cases returned
                  exact Nat.lt_succ_self reads
          | cons part parts =>
              cases part with
              | timeout =>
                  cases returned
                  exact Nat.lt_succ_self reads
              | segment first segment =>
                  have later := (inductionHypothesis returned).1
                  exact Nat.lt_of_succ_le later
        exact ⟨Nat.le_of_lt oneMore, fun _ => oneMore⟩

theorem recv_eq_line {connection : LineConnection} {line rest : Bytes}
    (next : nextLine connection.buf = (some line, rest)) :
    connection.recv =
      (.line line, { connection with buf := rest }) := by
  rw [LineConnection.recv, recvLoop, next]

theorem recv_reads {connection : LineConnection}
    (noLine : (nextLine connection.buf).1 = none) :
    connection.socket.reads < connection.recv.2.socket.reads := by
  obtain ⟨received, bufAfter, socketAfter, returns, _⟩ :=
    @recvLoop_progress connection.buf connection.socket _
      (Nat.lt_succ_self _)
  rw [LineConnection.recv, returns]
  exact (read_of_recvLoop returns).2 noLine

/-- A call is prompt exactly where no blank line comes first. -/
theorem prompt_iff (connection : LineConnection) :
    IsPrompt ⟨connection, connection.recv.1, connection.recv.2⟩ ↔
      ¬ BlankFirst connection.buf := by
  constructor
  · rintro prompt ⟨hasFrame, line, rest, cut, blank⟩
    obtain ⟨first, others, isFrame⟩ := List.exists_cons_of_ne_nil hasFrame
    have noLine : (nextLine connection.buf).1 = none := by
      simp [nextLine, cut, blank]
    have oneMore := recv_reads noLine
    rw [(prompt first others isFrame).2] at oneMore
    exact Nat.lt_irrefl _ oneMore
  · intro notBlankFirst line rest isFrame
    cases cut : cutAt newline connection.buf with
    | none =>
        have noLines : frameLines connection.buf = [] := by
          rw [frameLines, lines_eq_nil (cutAt_eq_none_iff.mp cut)]
          rfl
        rw [noLines] at isFrame
        cases isFrame
    | some pieces =>
        obtain ⟨first, others⟩ := pieces
        have firstLine := frameLines_of_cutAt cut []
        rw [List.append_nil, List.append_nil] at firstLine
        by_cases blank : isBlank first = true
        · refine absurd ⟨?_, first, others, cut, blank⟩ notBlankFirst
          rw [isFrame]
          exact List.cons_ne_nil line rest
        · rw [firstLine.1, if_neg blank] at isFrame
          injection isFrame with sameLine _
          have next : nextLine connection.buf = (some first, others) := by
            simp [nextLine, cut, blank]
          rw [recv_eq_line next, sameLine]
          exact ⟨rfl, rfl⟩

theorem recvCalls_spec {connection : LineConnection} {calls : Nat}
    {call : RecvCall} (member : call ∈ recvCalls connection calls) :
    call = ⟨call.before, call.before.recv.1, call.before.recv.2⟩ := by
  induction calls generalizing connection with
  | zero => cases member
  | succ calls inductionHypothesis =>
      rw [recvCalls] at member
      rcases List.mem_cons.mp member with rfl | later
      · rfl
      · exact inductionHypothesis later

end

/-! ### The whole stream -/

/-- The calls of a connection give the objects of the stream: their non-empty
values are those of the lines, and no call passes over a line in the buffer. -/
def ReceivesPromptly {loads : Bytes → Loaded} (transport : Transport)
    (content : List (StreamLine loads)) (socket : LineSocket) : Prop :=
  (∃ enough, ∀ calls, enough ≤ calls →
    valuesOf transport loads (recvCalls ⟨[], socket⟩ calls) =
      objects content) ∧
  ∀ calls, ∀ call ∈ recvCalls ⟨[], socket⟩ calls, IsPrompt call

/-- Over every segmentation of a stream, and on both transports, the calls give
the objects in order and promptly if and only if no call begins with a blank
line before a complete line in its buffer. -/
theorem receivesPromptly_iff {loads : Bytes → Loaded} (transport : Transport)
    {content : List (StreamLine loads)} {socket : LineSocket}
    (segmented : socket.bytes =
      terminated newline (content.map StreamLine.line)) :
    ReceivesPromptly transport content socket ↔
      ∀ calls, ∀ call ∈ recvCalls ⟨[], socket⟩ calls,
        ¬ BlankFirst call.before.buf := by
  have delivered : ∀ calls, (⟨[], socket⟩ : LineConnection).left ≤ calls →
      valuesOf transport loads (recvCalls ⟨[], socket⟩ calls) =
        objects content := by
    intro calls enough
    rw [valuesOf_eq, recvCalls_lines _ enough, LineConnection.stream,
      List.nil_append, segmented, frameLines_content, objects_eq]
  constructor
  · rintro ⟨_, prompt⟩ calls call member
    have isPrompt := prompt calls call member
    rw [recvCalls_spec member] at isPrompt
    exact (prompt_iff call.before).mp isPrompt
  · intro noneFirst
    refine ⟨⟨_, delivered⟩, fun calls call member => ?_⟩
    rw [recvCalls_spec member]
    exact (prompt_iff call.before).mpr (noneFirst calls call member)

/-! ### A blank line between two objects -/

theorem sampleLine_noNewline : newline ∉ sampleLine := by
  decide

theorem sampleLine_notBlank : isBlank sampleLine = false := by
  decide

def sampleObject : StreamLine sampleLoads :=
  .object sampleLine [(py "type", .str (py "notebook.metadata"))]
    sampleLine_noNewline sampleLine_notBlank rfl

def sampleBlank : StreamLine sampleLoads :=
  .blank [] List.not_mem_nil rfl

/-- An object, a blank line and an object, in one segment. -/
def blankBetween : LineSocket where
  parts :=
    [.segment 0x7B ((sampleLine ++ newline :: newline :: sampleLine ++
      [newline]).tail)]
  closes := false
  reads := 0

/-- The second call passes over the second object. -/
theorem blankBetween_notPrompt :
    blankBetween.bytes = terminated newline
        ([sampleObject, sampleBlank, sampleObject].map StreamLine.line) ∧
      ∀ transport, ¬ ReceivesPromptly transport
        [sampleObject, sampleBlank, sampleObject] blankBetween := by
  refine ⟨by decide, ?_⟩
  rintro transport ⟨_, prompt⟩
  let first : LineConnection := ⟨[], blankBetween⟩
  have bufEq : first.recv.2.buf = newline :: sampleLine ++ [newline] := by
    decide +kernel
  have blankFirst : BlankFirst first.recv.2.buf := by
    rw [bufEq]
    refine ⟨by decide, [], sampleLine ++ [newline], by rfl, rfl⟩
  have isCall : (⟨first.recv.2, first.recv.2.recv.1, first.recv.2.recv.2⟩ :
      RecvCall) ∈ recvCalls first 2 :=
    List.mem_cons_of_mem _ List.mem_cons_self
  exact (prompt_iff first.recv.2).mp (prompt 2 _ isCall) blankFirst

/-- A blank line and an object, a timeout and another object. -/
def blankAlone : LineSocket where
  parts :=
    [.segment newline (sampleLine ++ [newline]), .timeout,
      .segment 0x7B ((sampleLine ++ [newline]).tail)]
  closes := true
  reads := 0

theorem receivesPromptly_iff_blankAlone :
    ReceivesPromptly .unix [sampleBlank, sampleObject, sampleObject]
        blankAlone ↔
      ∀ calls, ∀ call ∈ recvCalls ⟨[], blankAlone⟩ calls,
        ¬ BlankFirst call.before.buf :=
  receivesPromptly_iff .unix (by decide)

end RtsNotebook.LlmClient
