import RtsNotebook.Library.OrderedMap
import RtsNotebook.Library.StableSort
import RtsNotebook.Sidebar.InFlight

/-!
# Reading run frames

The run frames of a notebook's metadata, and the three queries about the runs of
a cell.  Strings are compared by their code units.
-/

namespace RtsNotebook.Inspect

open RtsNotebook.Js RtsNotebook.Library RtsNotebook.Messaging
open RtsNotebook.Sidebar (RunFrameStatus RUN_FRAME_TERMINAL_STATUSES)

/-- `RunFrame`; `none` stands for `null` and for an absent `ended_at`. -/
structure RunFrame where
  runId : JsString
  cellId : JsString
  executorId : JsString
  contextManifestId : JsString
  status : RunFrameStatus
  startedAt : JsString
  endedAt : Option JsString
  turnHeadBefore : Option JsString
  turnHeadAfter : Option JsString
  deriving DecidableEq

/-! ### Parsing -/

/-- `strField` -/
def strField (obj : Json) (key : JsString) : Option JsString :=
  ((obj.member? key).bind Json.asString?).filter fun text => text ≠ []

/-- `strOrNull`, where `some none` is `null`. -/
def strOrNull (obj : Json) (key : JsString) : Option (Option JsString) :=
  match obj.member? key with
  | some .null => some none
  | _ => (strField obj key).map some

/-- `isRunFrameStatus`, with the status. -/
def runFrameStatus? (text : JsString) : Option RunFrameStatus :=
  [RunFrameStatus.running, .complete, .failed, .interrupted].find?
    fun status => status.text = text

/-- `parseRunFrame` -/
def parseRunFrame (runIdKey : JsString) (raw : Json) : Option RunFrame := do
  guard (isObject raw)
  let runId ← (strField raw (js "run_id")).or
    (if runIdKey.length > 0 then some runIdKey else none)
  let cellId ← strField raw (js "cell_id")
  let statusRaw ← strField raw (js "status")
  let status ← runFrameStatus? statusRaw
  let startedAt ← strField raw (js "started_at")
  pure
    { runId := runId
      cellId := cellId
      executorId := (strField raw (js "executor_id")).getD []
      contextManifestId := (strField raw (js "context_manifest_id")).getD []
      status := status
      startedAt := startedAt
      endedAt := strField raw (js "ended_at")
      turnHeadBefore := (strOrNull raw (js "turn_head_before")).getD none
      turnHeadAfter := (strOrNull raw (js "turn_head_after")).getD none }

/-- `metadata?.rts?.zone?.run_frames` -/
def rawRunFrames (metadata : Option Json) : Option Json := do
  let root ← metadata
  let rts ← root.member? (js "rts")
  let zone ← rts.member? (js "zone")
  zone.member? (js "run_frames")

/-- `out[run_id] = frame`.  Setting `__proto__` leaves the own properties as
they are. -/
def fileFrame (out : List (JsString × RunFrame)) (runId : JsString)
    (frame : RunFrame) : List (JsString × RunFrame) :=
  if runId = js "__proto__" then out else assignMember runId frame out

/-- One round of the loop of `runFramesOf`. -/
def readFrame (out : List (JsString × RunFrame))
    (entry : JsString × Json) : List (JsString × RunFrame) :=
  match parseRunFrame entry.1 entry.2 with
  | some frame => fileFrame out entry.1 frame
  | none => out

/-- `runFramesOf` -/
def runFramesOf (metadata : Option Json) : List (JsString × RunFrame) :=
  match (rawRunFrames metadata).filter isObject with
  | none => []
  | some raw => raw.ownMembers.foldl readFrame []

/-! ### Sorting -/

/-- `isTerminal` -/
def isTerminal (status : RunFrameStatus) : Bool :=
  status ∈ RUN_FRAME_TERMINAL_STATUSES

/-- `compareStartedAtDesc` -/
def compareStartedAtDesc (a b : RunFrame) : Int :=
  if a.startedAt = b.startedAt then
    if a.runId < b.runId then -1 else if b.runId < a.runId then 1 else 0
  else if a.startedAt < b.startedAt then
    1
  else
    -1

/-- `compareStartedAtAsc` -/
def compareStartedAtAsc (a b : RunFrame) : Int :=
  -compareStartedAtDesc a b

/-! ### Queries -/

/-- One round of the loops of `latestRunFrameForCell` and
`runFrameHistoryForCell`. -/
def considerFrame (cellId : JsString)
    (byRunId : OrderedMap JsString RunFrame) (f : RunFrame) :
    OrderedMap JsString RunFrame :=
  if f.cellId ≠ cellId then
    byRunId
  else
    match byRunId.get f.runId with
    | none => byRunId.set f.runId f
    | some prev =>
        if isTerminal f.status && !isTerminal prev.status then
          byRunId.set f.runId f
        else
          byRunId

/-- The frame of each run of the cell. -/
def byRunId (metadata : Option Json) (cellId : JsString) :
    OrderedMap JsString RunFrame :=
  ((runFramesOf metadata).map Prod.snd).foldl (considerFrame cellId) .empty

/-- `latestRunFrameForCell` -/
def latestRunFrameForCell (metadata : Option Json) (cellId : JsString) :
    Option RunFrame :=
  if cellId = [] then
    none
  else
    ((byRunId metadata cellId).values.insertionSort
      fun a b => compareStartedAtDesc a b ≤ 0).head?

/-- `runFrameHistoryForCell` -/
def runFrameHistoryForCell (metadata : Option Json) (cellId : JsString) :
    List RunFrame :=
  if cellId = [] then
    []
  else
    ((byRunId metadata cellId).values.filter
      fun f => isTerminal f.status).insertionSort
        fun a b => compareStartedAtAsc a b ≤ 0

/-- `runCountForCell` -/
def runCountForCell (metadata : Option Json) (cellId : JsString) : Nat :=
  if cellId = [] then
    0
  else
    ((((runFramesOf metadata).map Prod.snd).filter
      fun f => f.cellId = cellId).map RunFrame.runId).dedup.length

end RtsNotebook.Inspect
