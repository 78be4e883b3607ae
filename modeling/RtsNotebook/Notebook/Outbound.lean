import RtsNotebook.Js.Value
import RtsNotebook.Library.Lines
import RtsNotebook.Library.Runs

/-!
# Writing to the data plane

`writeFrame`, `writeFrameDirect` and the connection handler of `listenSocket`
in `PtyKernelClient`.  Frames wait in a buffer until the kernel connects, and
go to its socket from then on.  A further connection is ended at once.

The connections are kept in the order in which they arrive, each with the text
that has been written to it.
-/

namespace RtsNotebook.Notebook.Outbound

open RtsNotebook.Library RtsNotebook.Js

structure Connection where
  written : JsString
  ended : Bool
  deriving DecidableEq, Repr

structure State (Frame : Type*) where
  /-- `this.socket`, by the position of the connection. -/
  socket : Option Nat
  outboundBuffer : List Frame
  connections : List Connection
  disposed : Bool

inductive Event (Frame : Type*) where
  | writeFrame (frame : Frame)
  | connection
  | socketEnd
  | dispose

section

variable {Frame : Type*} (stringify : Frame → Option JsString)

namespace State

def initial : State Frame where
  socket := none
  outboundBuffer := []
  connections := []
  disposed := false

/-- `socket.write(text)` -/
def write (state : State Frame) (id : Nat) (text : JsString) : State Frame :=
  { state with
    connections := state.connections.modify id fun connection =>
      { connection with written := connection.written ++ text } }

/-- `socket.end()` -/
def endSocket (state : State Frame) (id : Nat) : State Frame :=
  { state with
    connections := state.connections.modify id fun connection =>
      { connection with ended := true } }

/-- `writeFrameDirect`; a frame that `JSON.stringify` throws on is logged and
dropped. -/
def writeFrameDirect (state : State Frame) (frame : Frame) : State Frame :=
  match state.socket with
  | none => state
  | some id =>
      match stringify frame with
      | none => state
      | some serialized => state.write id (serialized ++ [newline])

/-- `writeFrame` -/
def writeFrame (state : State Frame) (frame : Frame) : State Frame :=
  match state.socket with
  | none =>
      { state with outboundBuffer := state.outboundBuffer ++ [frame] }
  | some _ => state.writeFrameDirect stringify frame

/-- A connection has arrived. -/
def arrive (state : State Frame) : State Frame :=
  { state with
    connections := state.connections ++ [{ written := [], ended := false }] }

/-- The connection handler of `listenSocket`. -/
def onConnection (state : State Frame) : State Frame :=
  let id := state.connections.length
  if state.socket.isSome then
    state.arrive.endSocket id
  else
    let accepted := { state.arrive with socket := some id }
    { accepted.outboundBuffer.foldl (writeFrameDirect stringify) accepted with
      outboundBuffer := [] }

/-- `dispose` -/
def dispose (state : State Frame) : State Frame :=
  let ended :=
    match state.socket with
    | none => state
    | some id => state.endSocket id
  { ended with socket := none, disposed := true }

end State

/-- One event.  A server that is closed takes no connections, and the end of
the stream leaves the socket where it is. -/
def step (state : State Frame) : Event Frame → Option (State Frame)
  | .writeFrame frame => some (state.writeFrame stringify frame)
  | .connection =>
      if state.disposed then none else some (state.onConnection stringify)
  | .socketEnd => some state
  | .dispose => some state.dispose

/-- Frames that are written, interleaved with connections. -/
def system : System (State Frame) (Event Frame) where
  initial := .initial
  step := step stringify

/-- The frames that are submitted, in their order. -/
def submitted (events : List (Event Frame)) : List Frame :=
  events.filterMap fun event =>
    match event with
    | .writeFrame frame => some frame
    | _ => none

/-- The lines of the frames that can be written. -/
def transcript (frames : List Frame) : JsString :=
  terminated newline (frames.filterMap stringify)

/-! ### One step -/

theorem transcript_append (first second : List Frame) :
    transcript stringify (first ++ second) =
      transcript stringify first ++ transcript stringify second := by
  simp [transcript, terminated]

/-- What the client has done with the frames that were submitted: they wait,
or they are the text of the one connection that was accepted. -/
structure InOrder (frames : List Frame) (state : State Frame) : Prop where
  waiting : state.socket = none →
    state.outboundBuffer = frames ∧ state.connections = []
  connected : ∀ id, state.socket = some id →
    state.outboundBuffer = [] ∧ id < state.connections.length ∧
      ∀ (other : Nat) (connection : Connection),
        state.connections[other]? = some connection →
        connection.written =
          if other = id then transcript stringify frames else []

variable {stringify} {frames : List Frame} {state : State Frame} {id : Nat}

theorem getElem?_write (text : JsString) (other : Nat) :
    (state.write id text).connections[other]? =
      (state.connections[other]?).map fun connection =>
        if other = id then
          { connection with written := connection.written ++ text }
        else
          connection := by
  by_cases same : other = id
  · simp [State.write, same]
  · have kept : id ≠ other := Ne.symm same
    simp [State.write, kept, same]

theorem write_nil : state.write id [] = state := by
  have unchanged : (fun connection : Connection =>
      { connection with written := connection.written ++ [] }) =
        (fun connection => connection) := by
    funext connection
    rw [List.append_nil]
  have kept := List.modify_id id state.connections
  rw [State.write, unchanged]
  exact congrArg (fun connections => { state with connections }) kept

theorem write_write (first second : JsString) :
    (state.write id first).write id second =
      state.write id (first ++ second) := by
  simp [State.write, List.modify_modify_eq, Function.comp_def]

theorem length_write (text : JsString) :
    (state.write id text).connections.length = state.connections.length := by
  simp [State.write]

theorem writeFrameDirect_eq (hasSocket : state.socket = some id)
    (frame : Frame) :
    state.writeFrameDirect stringify frame =
      state.write id (transcript stringify [frame]) := by
  rw [State.writeFrameDirect, hasSocket]
  cases serialized : stringify frame with
  | none =>
      simp [transcript, serialized, terminated, write_nil]
  | some text =>
      simp [transcript, serialized, terminated]

/-- The flush writes the lines of the buffer, in their order. -/
theorem foldl_writeFrameDirect (hasSocket : state.socket = some id)
    (buffer : List Frame) :
    buffer.foldl (State.writeFrameDirect stringify) state =
      state.write id (transcript stringify buffer) := by
  induction buffer generalizing state with
  | nil =>
      exact write_nil.symm
  | cons frame rest inductionHypothesis =>
      have rewritten : state.writeFrameDirect stringify frame =
          state.write id (transcript stringify [frame]) :=
        writeFrameDirect_eq hasSocket frame
      have stillThere :
          (state.write id (transcript stringify [frame])).socket =
            some id := hasSocket
      have split := transcript_append stringify [frame] rest
      rw [List.foldl_cons, rewritten, inductionHypothesis stillThere]
      rw [List.singleton_append] at split
      rw [write_write, split]

theorem InOrder.writeFrame (inOrder : InOrder stringify frames state)
    (frame : Frame) :
    InOrder stringify (frames ++ [frame])
      (state.writeFrame stringify frame) := by
  cases hasSocket : state.socket with
  | none =>
      obtain ⟨bufferEq, noConnections⟩ := inOrder.waiting hasSocket
      refine ⟨fun _ => ?_, fun id isSome => ?_⟩
      · simp [State.writeFrame, hasSocket, bufferEq, noConnections]
      · simp [State.writeFrame, hasSocket] at isSome
  | some id =>
      obtain ⟨noBuffer, isConnection, texts⟩ := inOrder.connected id hasSocket
      have written : state.writeFrame stringify frame =
          state.write id (transcript stringify [frame]) := by
        rw [State.writeFrame, hasSocket]
        exact writeFrameDirect_eq hasSocket frame
      have sameSocket :
          (state.write id (transcript stringify [frame])).socket =
            some id := hasSocket
      rw [written]
      refine ⟨fun isNone => ?_, fun found isSome => ?_⟩
      · rw [sameSocket] at isNone
        cases isNone
      · have idEq : id = found := by
          rw [sameSocket] at isSome
          exact Option.some.inj isSome
        subst idEq
        refine ⟨noBuffer, by rwa [length_write], ?_⟩
        intro other connection isOther
        rw [getElem?_write, Option.map_eq_some_iff] at isOther
        obtain ⟨before, wasOther, rfl⟩ := isOther
        have textBefore := texts other before wasOther
        by_cases same : other = id
        · rw [if_pos same] at textBefore
          simp [same, textBefore, transcript_append]
        · rw [if_neg same] at textBefore
          simp [same, textBefore]

/-- The first connection gets the frames that have waited. -/
theorem InOrder.accept (inOrder : InOrder stringify frames state)
    (noSocket : state.socket = none) :
    InOrder stringify frames (state.onConnection stringify) := by
  obtain ⟨bufferEq, noConnections⟩ := inOrder.waiting noSocket
  have flushed : state.onConnection stringify =
      { socket := some 0
        outboundBuffer := []
        connections :=
          [{ written := transcript stringify frames, ended := false }]
        disposed := state.disposed } := by
    rw [State.onConnection, if_neg (by simp [noSocket])]
    dsimp only
    rw [foldl_writeFrameDirect rfl]
    simp [State.write, State.arrive, noConnections, bufferEq]
  rw [flushed]
  refine ⟨fun isNone => (by cases isNone), fun id isSome => ?_⟩
  have idEq : 0 = id := Option.some.inj isSome
  subst idEq
  refine ⟨rfl, Nat.zero_lt_one, ?_⟩
  intro other connection isOther
  have isFirst : other = 0 := by
    have inside := (List.getElem?_eq_some_iff.mp isOther).1
    exact Nat.lt_one_iff.mp inside
  subst isFirst
  cases isOther
  rfl

/-- A further connection gets nothing. -/
theorem InOrder.reject (inOrder : InOrder stringify frames state)
    (hasSocket : state.socket = some id) :
    InOrder stringify frames (state.onConnection stringify) := by
  obtain ⟨noBuffer, isConnection, texts⟩ := inOrder.connected id hasSocket
  have rejected : state.onConnection stringify =
      state.arrive.endSocket state.connections.length := by
    rw [State.onConnection, if_pos (by simp [hasSocket])]
  rw [rejected]
  refine ⟨fun isNone => ?_, fun found isSome => ?_⟩
  · have stillThere : state.socket = none := isNone
    rw [hasSocket] at stillThere
    cases stillThere
  · have idEq : id = found := by
      have stillThere : state.socket = some found := isSome
      rw [hasSocket] at stillThere
      exact Option.some.inj stillThere
    subst idEq
    refine ⟨noBuffer, ?_, ?_⟩
    · simp [State.endSocket, State.arrive]
      omega
    · intro other connection isOther
      by_cases arrived : other = state.connections.length
      · have notSocket : other ≠ id := by omega
        rw [if_neg notSocket]
        simp [State.endSocket, State.arrive, arrived] at isOther
        rw [← isOther]
      · have wasThere : state.connections[other]? = some connection := by
          have apart : state.connections.length ≠ other := Ne.symm arrived
          have inside : other < state.connections.length := by
            have bound := (List.getElem?_eq_some_iff.mp isOther).1
            simp [State.endSocket, State.arrive] at bound
            omega
          simpa [State.endSocket, State.arrive, List.getElem?_modify, apart,
            List.getElem?_append_left inside] using isOther
        exact texts other connection wasThere

/-! ### Whole runs -/

theorem exec_inOrder {events : List (Event Frame)} {final : State Frame}
    (notDisposed : Event.dispose ∉ events)
    (inOrder : InOrder stringify frames state)
    (ran : (system stringify).exec state events = some final) :
    InOrder stringify (frames ++ submitted events) final := by
  induction events generalizing frames state with
  | nil =>
      cases ran
      simpa [submitted] using inOrder
  | cons event events inductionHypothesis =>
      have restNotDisposed : Event.dispose ∉ events := fun member =>
        notDisposed (List.mem_cons_of_mem _ member)
      rw [System.exec_cons, Option.bind_eq_some_iff] at ran
      obtain ⟨next, stepped, ran⟩ := ran
      cases event with
      | writeFrame frame =>
          cases stepped
          have rest := inductionHypothesis restNotDisposed
            (inOrder.writeFrame frame) ran
          simpa [submitted, List.append_assoc] using rest
      | connection =>
          have nextEq : state.onConnection stringify = next := by
            have accepted : step stringify state .connection = some next :=
              stepped
            rw [step] at accepted
            split at accepted
            · cases accepted
            · exact Option.some.inj accepted
          have kept : InOrder stringify frames next := by
            rw [← nextEq]
            cases hasSocket : state.socket with
            | none => exact inOrder.accept hasSocket
            | some id => exact inOrder.reject hasSocket
          simpa [submitted] using
            inductionHypothesis restNotDisposed kept ran
      | socketEnd =>
          cases stepped
          simpa [submitted] using
            inductionHypothesis restNotDisposed inOrder ran
      | dispose =>
          exact absurd List.mem_cons_self notDisposed

theorem inOrder_initial : InOrder stringify [] (.initial : State Frame) :=
  ⟨fun _ => ⟨rfl, rfl⟩, fun _ isSome => by cases isSome⟩

theorem filterMap_of_serialised {texts : List JsString}
    (serialised : frames.map stringify = texts.map some) :
    frames.filterMap stringify = texts := by
  have through := congrArg (List.filterMap id) serialised
  simpa [List.filterMap_map] using through

end

/-- However the writes and the connections are interleaved, the socket that is
accepted has been written the lines of all frames in the order of their
submission, a frame waits only as long as there is none, and no other
connection has been written anything. -/
theorem socket_gets_frames_inOrder {Frame : Type*}
    {stringify : Frame → Option JsString} {events : List (Event Frame)}
    {final : State Frame} {texts : List JsString}
    (ran : (system stringify).exec .initial events = some final)
    (notDisposed : Event.dispose ∉ events)
    (serialised : (submitted events).map stringify = texts.map some) :
    (∀ id, final.socket = some id →
      (final.connections[id]?).map Connection.written =
        some (terminated newline texts)) ∧
    (final.socket = none →
      final.outboundBuffer = submitted events ∧ final.connections = []) ∧
    ∀ (other : Nat) (connection : Connection),
      final.connections[other]? = some connection →
      final.socket ≠ some other → connection.written = [] := by
  have inOrder := exec_inOrder notDisposed inOrder_initial ran
  rw [List.nil_append] at inOrder
  refine ⟨fun id hasSocket => ?_, inOrder.waiting, ?_⟩
  · obtain ⟨_, isConnection, written⟩ := inOrder.connected id hasSocket
    have found := List.getElem?_eq_getElem isConnection
    have text := written id _ found
    rw [if_pos rfl, transcript, filterMap_of_serialised serialised] at text
    rw [found, Option.map_some, text]
  · intro other connection isOther notSocket
    cases hasSocket : final.socket with
    | none =>
        rw [(inOrder.waiting hasSocket).2] at isOther
        cases isOther
    | some id =>
        obtain ⟨_, _, written⟩ := inOrder.connected id hasSocket
        have apart : other ≠ id := fun same =>
          notSocket (by rw [hasSocket, same])
        rw [written other connection isOther, if_neg apart]

/-- A frame before the connection, one after it, and a second client. -/
theorem socket_gets_frames_inOrder_twoClients :
    (([⟨js "1\n2\n", false⟩, ⟨[], true⟩] : List Connection)[0]?).map
        Connection.written =
      some (terminated newline [js "1", js "2"]) := by
  have ran : (system fun frame : JsString => some frame).exec .initial
      [.writeFrame (js "1"), .connection, .connection,
        .writeFrame (js "2")] =
      some
        { socket := some 0
          outboundBuffer := []
          connections := [⟨js "1\n2\n", false⟩, ⟨[], true⟩]
          disposed := false } := by
    rfl
  exact (socket_gets_frames_inOrder ran (by simp) rfl).1 0 rfl

end RtsNotebook.Notebook.Outbound
