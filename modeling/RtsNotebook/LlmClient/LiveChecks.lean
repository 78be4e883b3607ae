import RtsNotebook.Library.CheckedCalls
import RtsNotebook.LlmClient.LiveEnding

/-!
# The checks of a live run

Every step of `_run_live_mode` that calls a method of a value takes its shape
for granted, also that of a frame that the kernel has sent.  A check names the
value; the checks of a run are those of the steps that it takes, in order.
-/

namespace RtsNotebook.LlmClient

open RtsNotebook.Library RtsNotebook.Python

/-! ### Shapes -/

/-- `reply.get("payload") or {}` is a dictionary. -/
def hasPayload (items : List (PyString × PyJson)) : Bool :=
  ((get items (py "payload")).orElse (.dict [])).isDict

/-- A frame that the drain of a cell can read. -/
def fitsDrain : PyJson → Bool
  | .dict items => hasPayload items
  | _ => false

/-- A frame that the trailing drain can read: it looks at the payload of a
`notebook.metadata` only. -/
def fitsTail : PyJson → Bool
  | .dict items =>
      !(messageType items).isStr (py "notebook.metadata") || hasPayload items
  | _ => false

/-- A record that an envelope can be derived from: the kind is a string, and
so is the text where it is read. -/
def isDerivable (record : List (PyString × PyJson)) : Bool :=
  match (get record (py "kind")).orElse (.str []) with
  | .str kindText =>
      let readsText := lower kindText = py "spawn" ∨
        lower kindText = py "agent" ∧
          (get record (py "bound_agent_id")).truthy = true
      !readsText ||
        ((getD record (py "text") (.str [])).orElse (.str [])).str?.isSome
  | _ => false

/-- The outputs can be mirrored: the notebook has its `metadata.rts`, and where
this has its cells, so has the working state. -/
def canMirror (notebook workingRts : List (PyString × PyJson)) : Bool :=
  match getD notebook (py "metadata") (.dict []) with
  | .dict metadata =>
      match getD metadata (py "rts") (.dict []) with
      | .dict rts =>
          !(getD rts (py "cells") (.dict [])).isDict ||
            ((get workingRts (py "cells")).orElse (.dict [])).isDict
      | _ => false
  | _ => false

/-! ### Checks -/

inductive Check where
  /-- A value whose `get` is called. -/
  | dictionary (value : PyJson)
  | record (items : List (PyString × PyJson))
  | frame (reply : PyJson)
  | tailFrame (reply : PyJson)
  /-- The working state when a cell without a reply is settled. -/
  | quiet (workingRts : List (PyString × PyJson))
  | mirror (notebook workingRts : List (PyString × PyJson))
  | write (lines : List PyJson)
  /-- A `KeyboardInterrupt` in the trailing drain: no line is written. -/
  | tailInterrupt (recording : Bool)
  /-- The connection lets something out that is no `Exception`. -/
  | escape

def Check.passes : Check → Bool
  | .dictionary value => value.isDict
  | .record items => isDerivable items
  | .frame reply => fitsDrain reply
  | .tailFrame reply => fitsTail reply
  | .quiet workingRts => (getD workingRts (py "cells") (.dict [])).isDict
  | .mirror notebook workingRts => canMirror notebook workingRts
  | .write lines => lines.all isEncodable
  | .tailInterrupt recording => !recording
  | .escape => false

section

variable {World : Type}

/-- The reply completes the cell. -/
def completes (cell requestId : PyString) : PyJson → Bool
  | .dict items =>
      match (get items (py "payload")).orElse (.dict []) with
      | .dict payload =>
          isCorrelated requestId items payload || isKeyedFailure cell payload
      | _ => false
  | _ => false

/-- The checks of the drain loop of a cell, from a point of it where no reply
has been taken. -/
def drainChecks (connection : Connection World) (window : Time)
    (cell requestId : PyString) (cellDeadline : Time) :
    Nat → Option Time → World → List Check
  | 0, _, _ => []
  | fuel + 1, quiescenceStart, world =>
      let (now, world) := connection.monotonic world
      if now < cellDeadline then
        match connection.recv (1 / 10) world with
        | (.escaped, _) => [.escape]
        | (.keyboardInterrupt, _) => []
        | (.raised _, _) => []
        | (.value reply, world) =>
            if reply.truthy then
              .frame reply ::
                if completes cell requestId reply then
                  []
                else
                  drainChecks connection window cell requestId cellDeadline
                    fuel none world
            else
              let (reading, world) := connection.monotonic world
              match quiescenceStart with
              | none =>
                  drainChecks connection window cell requestId cellDeadline
                    fuel (some reading) world
              | some start =>
                  if window ≤ reading - start then
                    []
                  else
                    drainChecks connection window cell requestId cellDeadline
                      fuel (some start) world
      else
        []

/-- The check of a cell that is settled. -/
def settleChecks (live : LiveState World) (drain : DrainState) : List Check :=
  if drain.cellCompleted && drain.receivedForCell.isNone then
    [.quiet live.workingRts]
  else
    []

/-- The checks of the loop over the cells. -/
def runChecks (connection : Connection World) (config : LiveConfig)
    (fuel : Nat) (cells : List (PyString × PyJson)) (runDeadline : Time) :
    Nat → List PyString → LiveState World → World → List Check
  | _, [], _, _ => []
  | ordinal, cell :: remaining, live, world =>
      let (now, world) := connection.monotonic world
      if runDeadline < now then
        runChecks connection config fuel cells runDeadline (ordinal + 1)
          remaining
          (live.fail cell
            (syntheticKEnvelope cell (py "K_CELL_TIMEOUT")
              (py "total run timeout (" ++ config.totalTimeoutText ++
                py "s) exceeded")))
          world
      else
        match get cells cell with
        | .dict record =>
            [.record record] ++
            after (deriveCellEnvelope config.surroundings cell record
              config.sessionId ordinal) fun
            | none =>
                let success := syntheticSuccess cell ordinal []
                runChecks connection config fuel cells runDeadline
                  (ordinal + 1) remaining
                  ((live.succeed cell success).record config .none success)
                  world
            | some envelope =>
                match connection.send envelope world with
                | (.escaped, _) => [.escape]
                | (.raised _, _) => []
                | (.sent, world) =>
                    let (now, world) := connection.monotonic world
                    let requestId := requestIdOf config.sessionId ordinal
                    let deadline := now + config.cellTimeout
                    drainChecks connection config.quiescenceWindow cell
                      requestId deadline fuel none world ++
                    after (drainLoop connection config cell requestId deadline
                      fuel live
                      { quiescenceStart := none
                        cellCompleted := false
                        receivedForCell := none
                        ticks := [] }
                      world) fun (live, drain, world) =>
                    let live := live.finishDrain cell requestId drain.ticks
                      world
                    if live.interrupted then
                      []
                    else
                      settleChecks live drain ++
                      after (settleCell config cell ordinal envelope live
                        drain) fun live =>
                      runChecks connection config fuel cells runDeadline
                        (ordinal + 1) remaining live world
        | _ =>
            runChecks connection config fuel cells runDeadline (ordinal + 1)
              remaining live world

/-- The checks of the trailing drain. -/
def tailChecks (connection : Connection World) (tailDeadline : Time) :
    Nat → World → List Check
  | 0, _ => []
  | fuel + 1, world =>
      let (now, world) := connection.monotonic world
      if now < tailDeadline then
        match connection.recv (1 / 10) world with
        | (.escaped, _) => [.escape]
        | (.keyboardInterrupt, _) => []
        | (.raised _, _) => []
        | (.value reply, world) =>
            if reply.truthy then
              .tailFrame reply ::
                tailChecks connection tailDeadline fuel world
            else
              tailChecks connection tailDeadline fuel world
      else
        []

/-- The checks of what follows the drains. -/
def closeChecks (config : LiveConfig) (notebook : List (PyString × PyJson))
    (live : LiveState World) : List Check :=
  .mirror notebook live.workingRts ::
    if config.recording then [.write live.sentReceived] else []

/-- The checks once the cell loop is over. -/
def endChecks (connection : Connection World) (config : LiveConfig)
    (fuel : Nat) (notebook : List (PyString × PyJson))
    (live : LiveState World) (world : World) : List Check :=
  if live.interrupted then
    closeChecks config notebook live
  else
    let (now, world) := connection.monotonic world
    let deadline := now + config.quiescenceWindow
    tailChecks connection deadline fuel world ++
    after (tailDrain connection deadline fuel live world) fun
    | none => [.tailInterrupt config.recording]
    | some live => closeChecks config notebook live

/-- The checks past a successful hydrate send. -/
def hydratedChecks (connection : Connection World) (config : LiveConfig)
    (layoutWalkIds : PyJson → List PyString) (fuel : Nat)
    (notebook rts : List (PyString × PyJson)) (world : World) : List Check :=
  [.dictionary ((getD rts (py "cells") (.dict [])).orElse (.dict []))] ++
  after (cellRecords rts) fun cells =>
  [.dictionary ((getD rts (py "layout") (.dict [])).orElse (.dict []))] ++
  after (orderedCellIds layoutWalkIds rts cells) fun ids =>
  let (now, world) := connection.monotonic world
  let live : LiveState World :=
    { succeeded := []
      failed := []
      sentReceived := []
      workingRts := rts
      interrupted := false
      drains := [] }
  runChecks connection config fuel cells (now + config.totalTimeout) 0 ids
    live world ++
  after (runCells connection config fuel cells (now + config.totalTimeout) 0
    ids live world) fun (live, world) =>
  endChecks connection config fuel notebook live world

/-- The checks of `_run_live_mode`. -/
def liveChecks (connection : Connection World) (config : LiveConfig)
    (layoutWalkIds : PyJson → List PyString) (fuel : Nat)
    (notebook : List (PyString × PyJson)) (world : World) : List Check :=
  [.dictionary (getD notebook (py "metadata") (.dict []))] ++
  after (notebookRts notebook) fun rts =>
  match connection.send (hydrateEnvelope rts) world with
  | (.escaped, _) => [.escape]
  | (.raised _, _) => []
  | (.sent, world) =>
      [.dictionary rts] ++
      after rts.items? fun items =>
      hydratedChecks connection config layoutWalkIds fuel notebook items world

end

end RtsNotebook.LlmClient
