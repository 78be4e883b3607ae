import RtsNotebook.Js.Text
import RtsNotebook.Library.Lines

/-!
# Framing of the data plane

The receive loop of `PtyKernelClient.onSocketData`: a chunk is appended to the
retained text, and every line that is complete is handed to `dispatchLine`,
which is a parameter here.  An exception of `dispatchLine` unwinds the loop and
leaves the rest of the text where it is.
-/

namespace RtsNotebook.Notebook.DataPlane

open RtsNotebook.Library RtsNotebook.Js

/-- How a call ends, with the state it leaves behind. -/
inductive Outcome (State : Type*) where
  | returned (state : State)
  | threw (state : State)

/-- The state that a call leaves behind, whichever way it ends. -/
def Outcome.state {State : Type*} : Outcome State → State
  | returned state => state
  | threw state => state

/-- `incomingBuffer`, the lines handed to `dispatchLine` so far, and the rest
of the client. -/
structure Socket (Client : Type*) where
  incomingBuffer : JsString
  handed : List JsString
  client : Client

/-- A client that has not received anything. -/
def Socket.fresh {Client : Type*} (client : Client) : Socket Client where
  incomingBuffer := []
  handed := []
  client := client

section Receiving

variable {Client : Type*}

/-- The loop of `onSocketData`. -/
def drain (dispatchLine : Client → JsString → Outcome Client)
    (socket : Socket Client) : Outcome (Socket Client) :=
  match cut : cutAt newline socket.incomingBuffer with
  | none => .returned socket
  | some (line, rest) =>
      have := cutAt_length cut
      let trimmed := dropReturn line
      if trimmed = [] then
        drain dispatchLine { socket with incomingBuffer := rest }
      else
        match dispatchLine socket.client trimmed with
        | .returned next =>
            drain dispatchLine
              { incomingBuffer := rest
                handed := socket.handed ++ [trimmed]
                client := next }
        | .threw next =>
            .threw
              { incomingBuffer := rest
                handed := socket.handed ++ [trimmed]
                client := next }
termination_by socket.incomingBuffer.length

/-- `onSocketData` -/
def onSocketData (dispatchLine : Client → JsString → Outcome Client)
    (socket : Socket Client) (text : JsString) : Outcome (Socket Client) :=
  drain dispatchLine
    { socket with incomingBuffer := socket.incomingBuffer ++ text }

/-- The data events of the socket, one after the other; an exception ends the
event in which it is thrown. -/
def receive (dispatchLine : Client → JsString → Outcome Client)
    (socket : Socket Client) (chunks : List JsString) : Socket Client :=
  chunks.foldl
    (fun current text => (onSocketData dispatchLine current text).state)
    socket

/-- The frames of a text: its complete lines without the carriage return at
their end, the empty ones left out. -/
def framesOf (text : JsString) : List JsString :=
  ((lines newline text).map dropReturn).filter (· ≠ [])

/-! ### One pass of the loop -/

theorem drain_unmarked (dispatchLine : Client → JsString → Outcome Client)
    {socket : Socket Client}
    (unmarked : newline ∉ socket.incomingBuffer) :
    drain dispatchLine socket = .returned socket := by
  rw [drain]
  split
  · rfl
  · rename_i cut
    rw [cutAt_eq_none_iff.mpr unmarked] at cut
    cases cut

theorem drain_line (dispatchLine : Client → JsString → Outcome Client)
    {line rest : JsString} (handed : List JsString) (client : Client)
    (notMember : newline ∉ line) :
    drain dispatchLine
        { incomingBuffer := line ++ newline :: rest
          handed := handed
          client := client } =
      if dropReturn line = [] then
        drain dispatchLine
          { incomingBuffer := rest, handed := handed, client := client }
      else
        match dispatchLine client (dropReturn line) with
        | .returned next =>
            drain dispatchLine
              { incomingBuffer := rest
                handed := handed ++ [dropReturn line]
                client := next }
        | .threw next =>
            .threw
              { incomingBuffer := rest
                handed := handed ++ [dropReturn line]
                client := next } := by
  rw [drain]
  split
  · rename_i cut
    rw [cutAt_line notMember] at cut
    cases cut
  · rename_i cut
    rw [cutAt_line notMember] at cut
    cases cut
    rfl

theorem drain_keeps {dispatchLine : Client → JsString → Outcome Client}
    {P : Client → Prop}
    (keeps : ∀ client line, P client → P (dispatchLine client line).state)
    {socket : Socket Client} (start : P socket.client) :
    P (drain dispatchLine socket).state.client := by
  obtain ⟨buffer, handed, client⟩ := socket
  induction buffer using lineInduction newline
    generalizing handed client with
  | unmarked text notMember =>
      rw [drain_unmarked dispatchLine notMember]
      exact start
  | oneLine line rest notMember inductionHypothesis =>
      rw [drain_line dispatchLine handed client notMember]
      split
      · exact inductionHypothesis handed client start
      · have kept := keeps client (dropReturn line) start
        split
        · rename_i next dispatched
          rw [dispatched] at kept
          exact inductionHypothesis _ next kept
        · rename_i next dispatched
          rw [dispatched] at kept
          exact kept

theorem framesOf_unmarked {text : JsString} (unmarked : newline ∉ text) :
    framesOf text = [] := by
  rw [framesOf, lines_eq_nil unmarked]
  rfl

theorem framesOf_line {line rest : JsString} (notMember : newline ∉ line) :
    framesOf (line ++ newline :: rest) =
      if dropReturn line = [] then framesOf rest
      else dropReturn line :: framesOf rest := by
  rw [framesOf, lines_line notMember, List.map_cons, List.filter_cons]
  split <;> simp_all [framesOf]

/-- The frames of a text are those of its first part and those that begin in
what the first part leaves unterminated. -/
theorem framesOf_append (first second : JsString) :
    framesOf (first ++ second) =
      framesOf first ++ framesOf (unterminated newline first ++ second) := by
  rw [framesOf, lines_append, List.map_append, List.filter_append]
  rfl

end Receiving

section Returning

variable {Client : Type*} (dispatch : Client → JsString → Client)

/-- A `dispatchLine` that does not throw. -/
def returning (client : Client) (line : JsString) : Outcome Client :=
  .returned (dispatch client line)

/-- The loop hands over the frames of the retained text and retains what is
unterminated. -/
theorem drain_returning (socket : Socket Client) :
    drain (returning dispatch) socket =
      .returned
        { incomingBuffer := unterminated newline socket.incomingBuffer
          handed := socket.handed ++ framesOf socket.incomingBuffer
          client :=
            (framesOf socket.incomingBuffer).foldl dispatch socket.client } := by
  obtain ⟨buffer, handed, client⟩ := socket
  induction buffer using lineInduction newline
    generalizing handed client with
  | unmarked text notMember =>
      rw [drain_unmarked (returning dispatch) notMember,
        framesOf_unmarked notMember, unterminated_eq_self notMember,
        List.append_nil]
      rfl
  | oneLine line rest notMember inductionHypothesis =>
      rw [drain_line (returning dispatch) handed client notMember,
        framesOf_line notMember, unterminated_line]
      split
      · exact inductionHypothesis handed client
      · have next := inductionHypothesis (handed ++ [dropReturn line])
          (dispatch client (dropReturn line))
        rw [List.append_assoc] at next
        exact next

/-- What the chunks add to a socket whose retained text is unterminated. -/
theorem receive_returning (socket : Socket Client)
    (unmarked : newline ∉ socket.incomingBuffer) (chunks : List JsString) :
    receive (returning dispatch) socket chunks =
      { incomingBuffer := unterminated newline
          (socket.incomingBuffer ++ chunks.flatten)
        handed := socket.handed ++
          framesOf (socket.incomingBuffer ++ chunks.flatten)
        client := (framesOf (socket.incomingBuffer ++ chunks.flatten)).foldl
          dispatch socket.client } := by
  induction chunks generalizing socket with
  | nil =>
      rw [List.flatten_nil, List.append_nil, framesOf_unmarked unmarked,
        unterminated_eq_self unmarked, List.append_nil]
      rfl
  | cons text chunks inductionHypothesis =>
      rw [receive, List.foldl_cons, onSocketData, drain_returning,
        Outcome.state]
      have rest := inductionHypothesis
        { incomingBuffer :=
            unterminated newline (socket.incomingBuffer ++ text)
          handed := socket.handed ++ framesOf (socket.incomingBuffer ++ text)
          client := (framesOf (socket.incomingBuffer ++ text)).foldl dispatch
            socket.client }
        (not_mem_unterminated (socket.incomingBuffer ++ text))
      rw [receive] at rest
      rw [rest, List.flatten_cons, ← List.append_assoc,
        framesOf_append (socket.incomingBuffer ++ text) chunks.flatten,
        unterminated_append (socket.incomingBuffer ++ text) chunks.flatten,
        List.append_assoc, List.foldl_append]

/-- However a text is cut into chunks, the lines handed over are its complete
lines, and the retained text is what follows them. -/
theorem receive_chunks (client : Client) (chunks : List JsString) :
    (receive (returning dispatch) (.fresh client) chunks).handed =
        ((lines newline chunks.flatten).map dropReturn).filter (· ≠ []) ∧
      terminated newline (lines newline chunks.flatten) ++
          (receive (returning dispatch) (.fresh client)
            chunks).incomingBuffer =
        chunks.flatten ∧
      newline ∉
        (receive (returning dispatch) (.fresh client)
          chunks).incomingBuffer := by
  have received := receive_returning dispatch (.fresh client)
    List.not_mem_nil chunks
  rw [received]
  exact ⟨rfl, terminated_lines_append_unterminated chunks.flatten,
    not_mem_unterminated chunks.flatten⟩

end Returning

end RtsNotebook.Notebook.DataPlane
