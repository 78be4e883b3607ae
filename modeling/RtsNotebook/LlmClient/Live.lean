import Mathlib.Algebra.Order.Ring.Unbundled.Rat
import RtsNotebook.LlmClient.CellEnvelope

/-!
# The live executor

`_run_live_mode`, over any connection and any clock.  Everything outside the
executor is a state that three operations act on: a clock reading, a send and
a receive.

Two things are recorded beside what the source computes and read by no step.
An entry of `succeeded` or `failed` carries the cell whose turn appended it.
The list `drains` keeps, for each cell whose envelope was sent, what its
receives gave and the surroundings when its drain was over.
-/

namespace RtsNotebook.LlmClient

open RtsNotebook.Python

/-- Seconds. -/
abbrev Time := Rat

/-- How `connection.send` ends: an `Exception` is caught by the executor, any
other exception is not. -/
inductive SendOutcome where
  | sent
  | raised (message : PyString)
  | escaped

/-- How `connection.recv` ends. -/
inductive RecvOutcome where
  | value (reply : PyJson)
  | raised (message : PyString)
  | keyboardInterrupt
  | escaped

/-- A connection and a clock. -/
structure Connection (World : Type) where
  monotonic : World → Time × World
  send : PyJson → World → SendOutcome × World
  recv : Time → World → RecvOutcome × World

/-- The arguments of `_run_live_mode`, the session of the connection, and how
the two limits are printed in messages. -/
structure LiveConfig where
  surroundings : Surroundings
  sessionId : PyString
  cellTimeout : Time
  cellTimeoutText : PyString
  quiescenceWindow : Time
  totalTimeout : Time
  totalTimeoutText : PyString
  recording : Bool

/-- One receive of a drain, with the clock reading that follows an empty
one. -/
structure Tick where
  outcome : RecvOutcome
  reading : Option Time

/-- The drain of one cell, once it is over. -/
structure Drain (World : Type) where
  cell : PyString
  requestId : PyString
  ticks : List Tick
  world : World

/-- An entry with the cell whose turn appended it. -/
structure Entry where
  cell : PyString
  envelope : PyJson

/-- What the cell loop accumulates. -/
structure LiveState (World : Type) where
  succeeded : List Entry
  failed : List Entry
  sentReceived : List PyJson
  workingRts : List (PyString × PyJson)
  interrupted : Bool
  drains : List (Drain World)

/-- The variables of one cell's drain loop. -/
structure DrainState where
  quiescenceStart : Option Time
  cellCompleted : Bool
  receivedForCell : Option PyJson
  ticks : List Tick

/-- `_synthetic_k_envelope` -/
def syntheticKEnvelope (cellId kCode message : PyString) : PyJson :=
  .dict
    [(py "type", .str (py "operator.action")),
      (py "payload", .dict
        [(py "kind", .str (py "run.complete")),
          (py "status", .str (py "error")),
          (py "cell_id", .str cellId),
          (py "k_code", .str kCode),
          (py "message", .str message),
          (py "outputs", .list [])])]

/-- The success record of a cell without a reply. -/
def syntheticSuccess (cellId : PyString) (ordinal : Nat)
    (outputs : List PyJson) : PyJson :=
  .dict
    [(py "type", .str (py "operator.action")),
      (py "payload", .dict
        [(py "kind", .str (py "run.complete")),
          (py "status", .str (py "ok")),
          (py "cell_id", .str cellId),
          (py "ordinal", .int ordinal),
          (py "outputs", .list outputs)])]

namespace LiveState

variable {World : Type}

def succeed (live : LiveState World) (cell : PyString) (envelope : PyJson) :
    LiveState World :=
  { live with
    succeeded := live.succeeded ++ [{ cell := cell, envelope := envelope }] }

def fail (live : LiveState World) (cell : PyString) (envelope : PyJson) :
    LiveState World :=
  { live with
    failed := live.failed ++ [{ cell := cell, envelope := envelope }] }

/-- `sent_received.append(...)`, where recording is on. -/
def record (live : LiveState World) (config : LiveConfig)
    (sent received : PyJson) : LiveState World :=
  if config.recording then
    { live with
      sentReceived := live.sentReceived ++
        [.dict [(py "sent", sent), (py "received", received)]] }
  else
    live

/-- History: the drain of a cell is over. -/
def finishDrain (live : LiveState World) (cell requestId : PyString)
    (ticks : List Tick) (world : World) : LiveState World :=
  { live with
    drains := live.drains ++
      [{ cell := cell, requestId := requestId, ticks := ticks
         world := world }] }

/-- A `notebook.metadata` reply with a dictionary replaces the working
state. -/
def takeSnapshot (live : LiveState World) (payload : List (PyString × PyJson)) :
    LiveState World :=
  match get payload (py "snapshot") with
  | .dict snapshot => { live with workingRts := snapshot }
  | _ => live

end LiveState

section

variable {World : Type}

/-- `reply.get("message_type") or reply.get("type", "")` -/
def messageType (reply : List (PyString × PyJson)) : PyJson :=
  (get reply (py "message_type")).orElse
    (getD reply (py "type") (.str []))

/-- `reply_corr` -/
def replyCorrelation (reply payload : List (PyString × PyJson)) : PyJson :=
  (get reply (py "correlation_id")).orElse
    ((get reply (py "request_id")).orElse
      ((get payload (py "correlation_id")).orElse
        (get payload (py "request_id"))))

/-- `reply.get("payload") or {}`, on which every later branch calls `get`. -/
def replyPayload (reply : List (PyString × PyJson)) :
    Except Stop (List (PyString × PyJson)) :=
  ((get reply (py "payload")).orElse (.dict [])).items?

/-- A frame that is correlated with the request. -/
def isCorrelated (requestId : PyString) (reply payload :
    List (PyString × PyJson)) : Bool :=
  (replyCorrelation reply payload).isStr requestId

/-- A K-class frame that names the cell. -/
def isKeyedFailure (cell : PyString) (payload : List (PyString × PyJson)) :
    Bool :=
  (get payload (py "k_code")).truthy &&
    (get payload (py "cell_id")).isStr cell

/-- What a frame does to a cell that is drained: the loop goes on, or the cell
is complete. -/
def takeReply (cell requestId : PyString) (reply : PyJson)
    (live : LiveState World) (drain : DrainState) :
    Except Stop (LiveState World × DrainState) := do
  let items ← reply.items?
  let payload ← replyPayload items
  let live :=
    if (messageType items).isStr (py "notebook.metadata") then
      live.takeSnapshot payload
    else
      live
  let drain := { drain with quiescenceStart := none }
  if isCorrelated requestId items payload then
    let live :=
      if (get payload (py "k_code")).truthy then live.fail cell reply
      else live.succeed cell reply
    pure (live,
      { drain with receivedForCell := some reply, cellCompleted := true })
  else if isKeyedFailure cell payload then
    pure (live.fail cell reply,
      { drain with receivedForCell := some reply, cellCompleted := true })
  else
    pure (live, drain)

/-- The drain loop of one cell. -/
def drainLoop (connection : Connection World) (config : LiveConfig)
    (cell requestId : PyString) (cellDeadline : Time) :
    Nat → LiveState World → DrainState → World →
      Except Stop (LiveState World × DrainState × World)
  | 0, _, _, _ => .error .outOfFuel
  | fuel + 1, live, drain, world =>
      let (now, world) := connection.monotonic world
      if now < cellDeadline then
        let (outcome, world) := connection.recv (1 / 10) world
        match outcome with
        | .escaped => .error .raised
        | .keyboardInterrupt =>
            .ok
              ({ live with interrupted := true },
                { drain with
                  ticks := drain.ticks ++ [⟨outcome, none⟩] },
                world)
        | .raised message =>
            .ok
              (live.fail cell
                  (syntheticKEnvelope cell (py "K_TRANSPORT_LOST") message),
                { drain with
                  cellCompleted := true
                  ticks := drain.ticks ++ [⟨outcome, none⟩] },
                world)
        | .value reply =>
            if reply.truthy then do
              let (live, drain) ← takeReply cell requestId reply live
                { drain with ticks := drain.ticks ++ [⟨outcome, none⟩] }
              if drain.cellCompleted then
                pure (live, drain, world)
              else
                drainLoop connection config cell requestId cellDeadline fuel
                  live drain world
            else
              let (reading, world) := connection.monotonic world
              let ticks := drain.ticks ++ [⟨outcome, some reading⟩]
              match drain.quiescenceStart with
              | none =>
                  drainLoop connection config cell requestId cellDeadline
                    fuel live
                    { drain with
                      quiescenceStart := some reading
                      ticks := ticks }
                    world
              | some start =>
                  if config.quiescenceWindow ≤ reading - start then
                    .ok
                      (live,
                        { drain with cellCompleted := true, ticks := ticks },
                        world)
                  else
                    drainLoop connection config cell requestId cellDeadline
                      fuel live { drain with ticks := ticks } world
      else
        .ok (live, drain, world)

/-- `working_rts.get("cells", {}).get(cid)` and its outputs, for the record of
a quiet cell. -/
def quietOutputs (workingRts : List (PyString × PyJson)) (cell : PyString) :
    Except Stop (List PyJson) := do
  let cells ← (getD workingRts (py "cells") (.dict [])).items?
  match get cells cell with
  | .dict record =>
      match (get record (py "outputs")).orElse (.list []) with
      | .list outputs => pure outputs
      | _ => pure []
  | _ => pure []

/-- The branches after the drain loop of a cell that was not interrupted. -/
def settleCell (config : LiveConfig) (cell : PyString) (ordinal : Nat)
    (envelope : PyJson) (live : LiveState World) (drain : DrainState) :
    Except Stop (LiveState World) :=
  if !drain.cellCompleted then
    let failEnvelope :=
      syntheticKEnvelope cell (py "K_CELL_TIMEOUT")
        (py "cell exceeded " ++ config.cellTimeoutText ++ py "s budget")
    .ok ((live.fail cell failEnvelope).record config envelope failEnvelope)
  else
    match drain.receivedForCell with
    | some received => .ok (live.record config envelope received)
    | none => do
        let outputs ← quietOutputs live.workingRts cell
        let success := syntheticSuccess cell ordinal outputs
        pure ((live.succeed cell success).record config envelope success)

/-- The end of the cell loop after a send that raised: the remaining cells
fail with it. -/
def failRemaining (live : LiveState World) (remaining : List PyString) :
    LiveState World :=
  remaining.foldl
    (fun current cell =>
      current.fail cell
        (syntheticKEnvelope cell (py "K_TRANSPORT_LOST")
          (py "connection closed")))
    live

/-- The loop over the cells of the walk. -/
def runCells (connection : Connection World) (config : LiveConfig)
    (fuel : Nat) (cells : List (PyString × PyJson)) (runDeadline : Time) :
    Nat → List PyString → LiveState World → World →
      Except Stop (LiveState World × World)
  | _, [], live, world => .ok (live, world)
  | ordinal, cell :: remaining, live, world =>
      let (now, world) := connection.monotonic world
      if runDeadline < now then
        runCells connection config fuel cells runDeadline (ordinal + 1)
          remaining
          (live.fail cell
            (syntheticKEnvelope cell (py "K_CELL_TIMEOUT")
              (py "total run timeout (" ++ config.totalTimeoutText ++
                py "s) exceeded")))
          world
      else
        match get cells cell with
        | .dict record => do
            match ← deriveCellEnvelope config.surroundings cell record
                config.sessionId ordinal with
            | none =>
                let success := syntheticSuccess cell ordinal []
                runCells connection config fuel cells runDeadline
                  (ordinal + 1) remaining
                  ((live.succeed cell success).record config .none success)
                  world
            | some envelope =>
                match connection.send envelope world with
                | (.escaped, _) => .error .raised
                | (.raised message, world) =>
                    let failEnvelope :=
                      syntheticKEnvelope cell (py "K_TRANSPORT_LOST") message
                    pure
                      (failRemaining
                        ((live.fail cell failEnvelope).record config envelope
                          failEnvelope)
                        remaining, world)
                | (.sent, world) =>
                    let (now, world) := connection.monotonic world
                    let requestId := requestIdOf config.sessionId ordinal
                    let (live, drain, world) ←
                      drainLoop connection config cell requestId
                        (now + config.cellTimeout) fuel live
                        { quiescenceStart := none
                          cellCompleted := false
                          receivedForCell := none
                          ticks := [] }
                        world
                    let live := live.finishDrain cell requestId drain.ticks
                      world
                    if live.interrupted then
                      pure
                        (live.record config envelope
                          (drain.receivedForCell.getD .none), world)
                    else
                      let live ←
                        settleCell config cell ordinal envelope live drain
                      runCells connection config fuel cells runDeadline
                        (ordinal + 1) remaining live world
        | _ =>
            runCells connection config fuel cells runDeadline (ordinal + 1)
              remaining live world

/-- The trailing drain for the snapshot at the end of the run. -/
def trailingDrain (connection : Connection World) (tailDeadline : Time) :
    Nat → LiveState World → World → Except Stop (LiveState World)
  | 0, _, _ => .error .outOfFuel
  | fuel + 1, live, world =>
      let (now, world) := connection.monotonic world
      if now < tailDeadline then
        match connection.recv (1 / 10) world with
        | (.escaped, _) => .error .raised
        | (.keyboardInterrupt, _) => .error .raised
        | (.raised _, _) => .ok live
        | (.value reply, world) =>
            if reply.truthy then do
              let items ← reply.items?
              if (messageType items).isStr (py "notebook.metadata") then
                let payload ← replyPayload items
                trailingDrain connection tailDeadline fuel
                  (live.takeSnapshot payload) world
              else
                trailingDrain connection tailDeadline fuel live world
            else
              trailingDrain connection tailDeadline fuel live world
      else
        .ok live

/-- The ids of the walk, then those of the records that it leaves out. -/
def orderedIds (walk : List PyString) (cells : List (PyString × PyJson)) :
    List PyString :=
  walk ++ (cells.map Prod.fst).filter fun cell => cell ∉ walk

/-- What `_run_live_mode` returns, and the lines it has recorded. -/
structure LiveResult (World : Type) where
  notebook : List (PyString × PyJson)
  succeeded : List Entry
  failed : List Entry
  recorded : Option (List PyJson)
  drains : List (Drain World)

/-- `items[key] = value` -/
def setItem (key : PyString) (value : PyJson) :
    List (PyString × PyJson) → List (PyString × PyJson)
  | [] => [(key, value)]
  | item :: rest =>
      if item.1 = key then (key, value) :: rest
      else item :: setItem key value rest

/-- The outputs are mirrored into the records of the old `metadata.rts`, which
is replaced right after; what remains of it is that it may raise. -/
def mirrorOutputs (notebook workingRts : List (PyString × PyJson)) :
    Except Stop Unit := do
  let metadata ← (getD notebook (py "metadata") (.dict [])).items?
  let rts ← (getD metadata (py "rts") (.dict [])).items?
  if (getD rts (py "cells") (.dict [])).isDict then
    let _ ← ((get workingRts (py "cells")).orElse (.dict [])).items?
    pure ()
  else
    pure ()

/-- The rest of `_run_live_mode` once the cell loop is over. -/
def finishRun (connection : Connection World) (config : LiveConfig)
    (fuel : Nat) (notebook : List (PyString × PyJson))
    (live : LiveState World) (world : World) :
    Except Stop (LiveResult World) :=
  -- `raise KeyboardInterrupt()`, after the lines are written.
  if live.interrupted then
    .error .raised
  else do
    let (now, world) := connection.monotonic world
    let live ←
      trailingDrain connection (now + config.quiescenceWindow) fuel live world
    mirrorOutputs notebook live.workingRts
    let metadata ← (getD notebook (py "metadata") (.dict [])).items?
    pure
      { notebook := setItem (py "metadata")
          (.dict (setItem (py "rts") (.dict live.workingRts) metadata))
          notebook
        succeeded := live.succeeded
        failed := live.failed
        recorded := if config.recording then some live.sentReceived else none
        drains := live.drains }

/-- `notebook.get("metadata", {}).get("rts", {}) or {}` -/
def notebookRts (notebook : List (PyString × PyJson)) : Except Stop PyJson := do
  let metadata ← (getD notebook (py "metadata") (.dict [])).items?
  pure ((getD metadata (py "rts") (.dict [])).orElse (.dict []))

def hydrateEnvelope (rts : PyJson) : PyJson :=
  .dict
    [(py "type", .str (py "notebook.metadata")),
      (py "payload", .dict
        [(py "mode", .str (py "hydrate")),
          (py "snapshot", rts),
          (py "trigger", .str (py "executor.live"))])]

/-- `rts.get("cells", {}) or {}` -/
def cellRecords (rts : List (PyString × PyJson)) :
    Except Stop (List (PyString × PyJson)) :=
  ((getD rts (py "cells") (.dict [])).orElse (.dict [])).items?

/-- `ordered_ids`.  The walk over the layout tree is `_layout_walk_ids` of
another package. -/
def orderedCellIds (layoutWalkIds : PyJson → List PyString)
    (rts cells : List (PyString × PyJson)) : Except Stop (List PyString) := do
  let layout ← ((getD rts (py "layout") (.dict [])).orElse (.dict [])).items?
  pure (orderedIds (layoutWalkIds (get layout (py "tree"))) cells)

/-- `_run_live_mode` past a successful hydrate send. -/
def runHydrated (connection : Connection World) (config : LiveConfig)
    (layoutWalkIds : PyJson → List PyString) (fuel : Nat)
    (notebook : List (PyString × PyJson)) (rts : List (PyString × PyJson))
    (world : World) : Except Stop (LiveResult World) := do
  let cells ← cellRecords rts
  let ids ← orderedCellIds layoutWalkIds rts cells
  let (now, world) := connection.monotonic world
  let (live, world) ←
    runCells connection config fuel cells (now + config.totalTimeout) 0 ids
      { succeeded := []
        failed := []
        sentReceived := []
        workingRts := rts
        interrupted := false
        drains := [] }
      world
  finishRun connection config fuel notebook live world

/-- `_run_live_mode` -/
def runLiveMode (connection : Connection World) (config : LiveConfig)
    (layoutWalkIds : PyJson → List PyString) (fuel : Nat)
    (notebook : List (PyString × PyJson)) (world : World) :
    Except Stop (LiveResult World) := do
  let rts ← notebookRts notebook
  match connection.send (hydrateEnvelope rts) world with
  | (.escaped, _) => .error .raised
  | (.raised message, _) =>
      pure
        { notebook := notebook
          succeeded := []
          failed :=
            [{ cell := py "<hydrate>"
               envelope :=
                 syntheticKEnvelope (py "<hydrate>") (py "K_TRANSPORT_LOST")
                   message }]
          recorded := if config.recording then some [] else none
          drains := [] }
  | (.sent, world) => do
      let items ← rts.items?
      runHydrated connection config layoutWalkIds fuel notebook items world

end

end RtsNotebook.LlmClient
