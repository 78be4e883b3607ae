import Mathlib.Data.List.Infix
import RtsNotebook.Library.Traced
import RtsNotebook.LlmClient.LiveEnding
import RtsNotebook.LlmClient.StubReplay

/-!
# The command `llmnb execute`

`run_notebook` and `llm_client.cli.execute.run` over the three executors: the
notebook is loaded and guarded, its mode is run, the result is written back,
and the exit status tells how it went.  Files, the environment and the kernel
stand for parameters.
-/

namespace RtsNotebook.LlmClient.Execute

open RtsNotebook.Python RtsNotebook.Library

/-- The exceptions that the command tells apart, and the rest. -/
inductive Raised where
  | escalationRequiresOperator
  | replayMismatch
  | fileNotFound
  | valueError
  | notImplemented
  | keyboardInterrupt
  | other
  deriving DecidableEq

/-- `--mode` -/
inductive Mode where
  | stub
  | live
  | replay
  deriving DecidableEq

/-- What the command does outside itself. -/
inductive Effect where
  | opened
  | closed
  | ran (mode : Mode)
  | recorded (path : PyString) (lines : List PyJson)
  | wrote (target : PyString) (notebook : List (PyString × PyJson))

/-- The parsed arguments; an option that is not given is missing, or the text
that it is by default. -/
structure Arguments where
  path : PyString
  output : Option PyString
  mode : Mode
  replay : Option PyString
  record : Option PyString
  unattended : Bool
  connect : Option PyString
  authTokenEnv : PyString

/-- The machine that the command runs on, and what it uses of other
packages. -/
structure Host (World : Type) where
  /-- `os.environ.get(name, "")` -/
  environ : PyString → PyString
  /-- `connect_to_kernel(bind, token=token, transport="tcp")` -/
  connectToKernel : PyString → PyString →
    Except Raised (Connection World × World)
  /-- `_boot_tcp_loopback_kernel()` -/
  bootKernel : Except Raised (Connection World × World)
  /-- `_load_notebook(path)` -/
  loadNotebook : PyString → Except Raised (List (PyString × PyJson))
  /-- `_write_notebook(notebook, target)` -/
  writeNotebook : PyString → List (PyString × PyJson) → Except Raised Unit
  /-- The lines of a recording, written to a path. -/
  writeRecording : PyString → List PyJson → Except Raised Unit
  /-- The entries of a recording. -/
  readRecording : PyString → Except Raised (List PyJson)
  /-- `text.lower()` -/
  lower : PyString → PyString
  registry : StubRegistry
  layoutWalkIds : PyJson → List PyString
  config : LiveConfig
  fuel : Nat
  /-- The exception of an executor, where its model does not say which. -/
  raisedBy : Stop → Raised

/-- What the executors return. -/
structure Outcomes where
  notebook : List (PyString × PyJson)
  succeeded : List PyJson
  failed : List PyJson

/-- A row of `ExecutionResult.errors`. -/
structure ErrorRow where
  cellId : PyJson
  kCode : PyJson
  message : PyJson

structure ExecutionResult where
  notebookPath : PyString
  cellsExecuted : Nat
  cellsSucceeded : Nat
  cellsFailed : Nat
  finalState : PyJson
  errors : List ErrorRow

/-! ### `run_notebook` -/

/-- `_ESCALATE_MARKERS` -/
def escalateMarkers : List PyString :=
  [py "@@escalate", py "request_approval"]

/-- `_has_escalate` -/
def hasEscalate (lower : PyString → PyString)
    (cells : List (PyString × PyJson)) : Bool :=
  cells.any fun item =>
    match item.2 with
    | .dict record =>
        match getD record (py "text") (.str []) with
        | .str text =>
            escalateMarkers.any fun marker => marker <:+: lower text
        | _ => false
    | _ => false

/-- The cells that the guard and the count read. -/
def guardedCells (notebook : List (PyString × PyJson)) :
    Except Stop (List (PyString × PyJson)) := do
  let rts ← notebookRts notebook
  let items ← rts.items?
  match (get items (py "cells")).orElse (.dict []) with
  | .dict cells => pure cells
  | _ => pure []

/-- An `AttributeError`. -/
def attributeError {Value : Type} (call : Except Stop Value) :
    Traced Effect Raised Value :=
  .lift (call.mapError fun _ => .other)

/-- An entry of `failed` as a row. -/
def errorRow (envelope : PyJson) : Except Stop ErrorRow := do
  let items ← envelope.items?
  let payload ← replyPayload items
  pure
    { cellId := get payload (py "cell_id")
      kCode := get payload (py "k_code")
      message :=
        (get payload (py "message")).orElse (get payload (py "error")) }

section

variable {World : Type}

/-- The lines are written where a path was given. -/
def recordLines (host : Host World) (arguments : Arguments)
    (lines : Option (List PyJson)) : Traced Effect Raised Unit :=
  match arguments.record, lines with
  | some path, some lines => do
      .lift (host.writeRecording path lines)
      .emit (.recorded path lines)
  | _, _ => pure ()

/-- The hydrate send raises, so that `_live_transport_lost` writes the
recording and the run returns from inside the `try`. -/
def hydrateRefused (connection : Connection World × World)
    (notebook : List (PyString × PyJson)) : Bool :=
  match notebookRts notebook with
  | .error _ => false
  | .ok rts =>
      match (connection.1.send (hydrateEnvelope rts) connection.2).1 with
      | .raised _ => true
      | _ => false

/-- The `try` of `_run_live_mode`. -/
def runLive (host : Host World) (arguments : Arguments)
    (connection : Connection World × World)
    (notebook : List (PyString × PyJson)) :
    Traced Effect Raised (LiveEnd World) := do
  Traced.emit (.ran .live)
  let ending ← Traced.lift ((endLiveMode connection.1
    { host.config with recording := arguments.record.isSome }
    host.layoutWalkIds host.fuel notebook connection.2).mapError
      host.raisedBy)
  recordLines host arguments
    (if hydrateRefused connection notebook then ending.recorded else none)
  pure ending

/-- The end of `_run_live_mode`, past the `finally`. -/
def finishLive (host : Host World) (arguments : Arguments)
    (connection : Connection World × World)
    (notebook : List (PyString × PyJson)) (ending : LiveEnd World) :
    Traced Effect Raised Outcomes := do
  recordLines host arguments
    (if hydrateRefused connection notebook then none else ending.recorded)
  match ending.result with
  | none => .raise .keyboardInterrupt
  | some result =>
      pure
        { notebook := result.notebook
          succeeded := result.succeeded.map Entry.envelope
          failed := result.failed.map Entry.envelope }

/-- `_run_live_mode` closes the connection that it has opened itself. -/
def runLiveWith (host : Host World) (arguments : Arguments)
    (connection : Option (Connection World × World))
    (notebook : List (PyString × PyJson)) : Traced Effect Raised Outcomes :=
  match connection with
  | some connection => do
      let ending ← runLive host arguments connection notebook
      finishLive host arguments connection notebook ending
  | none => do
      let connection ← Traced.lift host.bootKernel
      Traced.emit .opened
      let ending ←
        (runLive host arguments connection notebook).ensure [.closed]
      finishLive host arguments connection notebook ending

def runStub (host : Host World) (arguments : Arguments)
    (notebook : List (PyString × PyJson)) :
    Traced Effect Raised Outcomes := do
  Traced.emit (.ran .stub)
  let result ← Traced.lift ((runStubMode host.registry host.layoutWalkIds
    arguments.record.isSome notebook).mapError host.raisedBy)
  recordLines host arguments result.recorded
  pure
    { notebook := result.notebook
      succeeded := result.succeeded
      failed := result.failed }

/-- The exception of a replay. -/
def replayRaised (host : Host World) : ReplayStop → Raised
  | .mismatch => .replayMismatch
  | .raised => host.raisedBy .raised

def runReplay (host : Host World) (arguments : Arguments)
    (notebook : List (PyString × PyJson)) :
    Traced Effect Raised Outcomes :=
  match arguments.replay with
  | none => .raise .valueError
  | some path => do
      Traced.emit (.ran .replay)
      let entries ← Traced.lift (host.readRecording path)
      let result ← Traced.lift ((runReplayMode host.layoutWalkIds notebook
        entries).mapError (replayRaised host))
      pure
        { notebook := result.notebook
          succeeded := result.succeeded
          failed := result.failed }

def runMode (host : Host World) (arguments : Arguments)
    (connection : Option (Connection World × World))
    (notebook : List (PyString × PyJson)) : Traced Effect Raised Outcomes :=
  match arguments.mode with
  | .stub => runStub host arguments notebook
  | .replay => runReplay host arguments notebook
  | .live => runLiveWith host arguments connection notebook

def writeBack (host : Host World) (target : PyString)
    (notebook : List (PyString × PyJson)) : Traced Effect Raised Unit := do
  .lift (host.writeNotebook target notebook)
  .emit (.wrote target notebook)

/-- `run_notebook` -/
def runNotebook (host : Host World) (arguments : Arguments)
    (connection : Option (Connection World × World)) :
    Traced Effect Raised ExecutionResult := do
  let notebook ← Traced.lift (host.loadNotebook arguments.path)
  let cells ← attributeError (guardedCells notebook)
  if !arguments.unattended && hasEscalate host.lower cells then
    .raise .escalationRequiresOperator
  else do
    let outcomes ← runMode host arguments connection notebook
    let target := arguments.output.getD arguments.path
    writeBack host target outcomes.notebook
    let finalState ← attributeError (notebookRts outcomes.notebook)
    let errors ← attributeError (outcomes.failed.mapM errorRow)
    pure
      { notebookPath := target
        cellsExecuted := cells.length
        cellsSucceeded := outcomes.succeeded.length
        cellsFailed := outcomes.failed.length
        finalState := finalState
        errors := errors }

/-! ### The command -/

/-- `_parse_connect_url`, where the transport is `tcp`; the other transports
end in a `ValueError` either way. -/
def parseConnectUrl (url : PyString) : Except Raised PyString :=
  if py "tcp://" <+: url then
    .ok (url.drop (py "tcp://").length)
  else if py "unix://" <+: url then
    .error .valueError
  else if py "://" <:+: url then
    .error .valueError
  else
    .ok url

/-- `_open_connection` -/
def openConnection (host : Host World) (arguments : Arguments)
    (url : PyString) : Except Raised (Connection World × World) := do
  let bind ← parseConnectUrl url
  let token := host.environ arguments.authTokenEnv
  if token = [] then
    .error .valueError
  else
    host.connectToKernel bind token

/-- The exit status of an exception that the command catches. -/
def statusOf : Raised → Except Raised Nat
  | .escalationRequiresOperator => .ok 2
  | .replayMismatch => .ok 2
  | .fileNotFound => .ok 2
  | .valueError => .ok 2
  | .notImplemented => .ok 3
  | fault => .error fault

/-- How the command ends: with an exit status and the result that it prints, or
with an exception. -/
structure CommandEnd where
  effects : List Effect
  result : Option ExecutionResult
  status : Except Raised Nat

/-- What the command makes of a call of `run_notebook`. -/
def report (traced : Traced Effect Raised ExecutionResult) : CommandEnd :=
  match traced.outcome with
  | .error fault =>
      { effects := traced.effects, result := none, status := statusOf fault }
  | .ok result =>
      { effects := traced.effects
        result := some result
        status := .ok (if result.errors.isEmpty then 0 else 1) }

/-- `run` of `llm_client.cli.execute` -/
def execute (host : Host World) (arguments : Arguments) : CommandEnd :=
  match arguments.connect.filter (· ≠ []) with
  | none => report (runNotebook host arguments none)
  | some url =>
      if arguments.mode ≠ .live then
        { effects := [], result := none, status := .ok 2 }
      else
        match openConnection host arguments url with
        | .error .keyboardInterrupt =>
            { effects := [], result := none
              status := .error .keyboardInterrupt }
        | .error _ => { effects := [], result := none, status := .ok 2 }
        | .ok connection =>
            let traced := (runNotebook host arguments (some connection)).ensure
              [.closed]
            report { traced with effects := .opened :: traced.effects }

end

end RtsNotebook.LlmClient.Execute
