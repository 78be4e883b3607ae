import RtsNotebook.LlmClient.LiveAccounting
import RtsNotebook.LlmClient.LiveEnding
import RtsNotebook.LlmClient.StubReplay

/-!
# The failed envelopes can be read

`run_notebook` reads the payload of every envelope that an executor lists as
failed, after it has written the notebook.  The executors list an envelope of
their own or a frame whose payload they have read, so that this never raises.
-/

namespace RtsNotebook.LlmClient

open RtsNotebook.Python

/-- The payload of the envelope can be read. -/
def HasPayload (envelope : PyJson) : Prop :=
  ∃ items payload, envelope = .dict items ∧ replyPayload items = .ok payload

theorem hasPayload_synthetic (cell kCode message : PyString) :
    HasPayload (syntheticKEnvelope cell kCode message) :=
  ⟨_, _, rfl, rfl⟩

section

variable {World : Type} {connection : Connection World} {config : LiveConfig}
  {cell requestId : PyString} {live after : LiveState World}
  {drain drainAfter : DrainState}

/-! ### The live executor -/

/-- Each failed entry of a run has a payload. -/
def LiveState.FailedRead (live : LiveState World) : Prop :=
  ∀ entry ∈ live.failed, HasPayload entry.envelope

theorem LiveState.FailedRead.fail {envelope : PyJson}
    (read : live.FailedRead) (hasPayload : HasPayload envelope) :
    (live.fail cell envelope).FailedRead := by
  intro entry listed
  rcases List.mem_append.mp listed with earlier | last
  · exact read entry earlier
  · rw [List.mem_singleton.mp last]
    exact hasPayload

theorem LiveState.FailedRead.of_same (read : live.FailedRead)
    (same : after.failed = live.failed) : after.FailedRead := by
  intro entry listed
  rw [same] at listed
  exact read entry listed

theorem LiveState.FailedRead.record (read : live.FailedRead)
    (sent received : PyJson) :
    (live.record config sent received).FailedRead :=
  read.of_same (record_failed live config sent received)

theorem TakesFrame.failedRead {items payload : List (PyString × PyJson)}
    (takes : TakesFrame cell requestId items payload live drain after
      drainAfter)
    (isPayload : replyPayload items = .ok payload)
    (read : live.FailedRead) : after.FailedRead := by
  obtain ⟨workingRts, snapped⟩ := seeSnapshot_eq live items payload
  have seen : (live.seeSnapshot items payload).FailedRead :=
    read.of_same (by rw [snapped])
  have own : HasPayload (.dict items) := ⟨items, payload, rfl, isPayload⟩
  cases takes with
  | succeeded => exact seen.of_same rfl
  | failed => exact seen.fail own
  | keyed => exact seen.fail own
  | passed => exact seen

theorem takeReply_failedRead {reply : PyJson}
    (took : takeReply cell requestId reply live drain =
      .ok (after, drainAfter))
    (read : live.FailedRead) : after.FailedRead := by
  obtain ⟨items, payload, _, isPayload, takes⟩ := takeReply_takes took
  exact takes.failedRead isPayload read

theorem DrainRun.failedRead {window : Time}
    (run : DrainRun window cell requestId live drain after drainAfter)
    (read : live.FailedRead) : after.FailedRead := by
  induction run with
  | interrupted => exact read.of_same rfl
  | raised live drain message =>
      exact read.fail (hasPayload_synthetic _ _ _)
  | completed took _ => exact takeReply_failedRead took read
  | passed took _ _ inductionHypothesis =>
      exact inductionHypothesis (takeReply_failedRead took read)
  | idle _ _ _ _ inductionHypothesis => exact inductionHypothesis read
  | waiting _ _ _ _ _ inductionHypothesis => exact inductionHypothesis read
  | quiet => exact read
  | timedOut => exact read

theorem Settles.failedRead {envelope : PyJson} {completed : Bool}
    {received : Option PyJson}
    (settles : Settles config cell envelope live completed received after)
    (read : live.FailedRead) : after.FailedRead := by
  cases settles with
  | timedOut received message =>
      exact (read.fail (hasPayload_synthetic _ _ _)).record _ _
  | answered reply => exact read.record _ _
  | quiet ordinal outputs =>
      have succeeded : (live.succeed cell
          (syntheticSuccess cell ordinal outputs)).FailedRead :=
        read.of_same rfl
      exact succeeded.record _ _

theorem failRemaining_failedRead (ids : List PyString)
    (read : live.FailedRead) : (failRemaining live ids).FailedRead := by
  induction ids generalizing live with
  | nil => exact read
  | cons cell ids inductionHypothesis =>
      exact inductionHypothesis (read.fail (hasPayload_synthetic _ _ _))

theorem runCells_failedRead {cells : List (PyString × PyJson)}
    {fuel ordinal : Nat} {runDeadline : Time} {ids : List PyString}
    {world worldAfter : World}
    (ran : runCells connection config fuel cells runDeadline ordinal ids live
      world = .ok (after, worldAfter))
    (notInterrupted : after.interrupted = false)
    (read : live.FailedRead) : after.FailedRead := by
  induction ids generalizing ordinal live world with
  | nil =>
      cases ran
      exact read
  | cons cell ids inductionHypothesis =>
      cases runCells_step ran with
      | late message late rest =>
          exact inductionHypothesis rest
            (read.fail (hasPayload_synthetic _ _ _))
      | skipped noRecord rest => exact inductionHypothesis rest read
      | silent hasRecord derives rest =>
          have succeeded : (live.succeed cell
              (syntheticSuccess cell ordinal [])).FailedRead :=
            read.of_same rfl
          exact inductionHypothesis rest (succeeded.record _ _)
      | refused inTime hasRecord derives refused after_eq =>
          rw [after_eq]
          refine failRemaining_failedRead ids ?_
          exact (read.fail (hasPayload_synthetic _ _ _)).record _ _
      | interrupted interrupted =>
          rw [notInterrupted] at interrupted
          cases interrupted
      | drained inTime hasRecord derives sent drains goesOn settled rest =>
          refine inductionHypothesis rest ?_
          refine (settleCell_settles settled).failedRead ?_
          exact ((drainLoop_run drains).failedRead read).of_same rfl

/-- What `run_notebook` reads of a finished live run. -/
structure LiveResult.Readable (result : LiveResult World) : Prop where
  failed : ∀ entry ∈ result.failed, HasPayload entry.envelope
  rts : ∃ rts, notebookRts result.notebook = .ok rts

theorem notebookRts_setItem (metadata rts notebook :
    List (PyString × PyJson)) :
    ∃ found, notebookRts (setItem (py "metadata")
      (.dict (setItem (py "rts") (.dict rts) metadata)) notebook) =
        .ok found := by
  rw [notebookRts, getD, lookup_setItem, if_pos rfl]
  exact ⟨_, rfl⟩

theorem finishRun_readable {fuel : Nat} {world : World}
    {notebook : List (PyString × PyJson)} {result : LiveResult World}
    (finished : finishRun connection config fuel notebook live world =
      .ok result)
    (read : live.FailedRead) : result.Readable := by
  have finishes := finishRun_finishes finished
  refine ⟨fun entry listed => ?_, ?_⟩
  · rw [finishes.failed] at listed
    exact read entry listed
  · rw [finishRun] at finished
    split at finished
    · cases finished
    · obtain ⟨tail, _, finished⟩ := ok_of_bind finished
      obtain ⟨_, _, finished⟩ := ok_of_bind finished
      obtain ⟨metadata, _, finished⟩ := ok_of_bind finished
      cases finished
      exact notebookRts_setItem metadata tail.workingRts notebook

theorem runLiveMode_readable {layoutWalkIds : PyJson → List PyString}
    {fuel : Nat} {world : World} {notebook : List (PyString × PyJson)}
    {result : LiveResult World}
    (ran : runLiveMode connection config layoutWalkIds fuel notebook world =
      .ok result) : result.Readable := by
  rw [runLiveMode] at ran
  obtain ⟨rts, isRts, ran⟩ := ok_of_bind ran
  split at ran
  · cases ran
  · cases ran
    refine ⟨fun entry listed => ?_, rts, isRts⟩
    rw [List.mem_singleton.mp listed]
    exact hasPayload_synthetic _ _ _
  · obtain ⟨items, _, ran⟩ := ok_of_bind ran
    rw [runHydrated] at ran
    obtain ⟨cells, _, ran⟩ := ok_of_bind ran
    obtain ⟨ids, _, ran⟩ := ok_of_bind ran
    obtain ⟨⟨live, worldAfter⟩, loop, finished⟩ := ok_of_bind ran
    have notInterrupted := (finishRun_finishes finished).notInterrupted
    refine finishRun_readable finished
      (runCells_failedRead loop notInterrupted ?_)
    exact fun entry listed => absurd listed List.not_mem_nil

end

section

variable {registry : StubRegistry} {layoutWalkIds : PyJson → List PyString}
  {notebook : List (PyString × PyJson)}

/-! ### The executors without a kernel -/

/-- What `run_notebook` reads of a finished run without a kernel. -/
structure HeadlessResult.Readable (result : HeadlessResult) : Prop where
  failed : ∀ envelope ∈ result.failed, HasPayload envelope
  rts : ∃ rts, notebookRts result.notebook = .ok rts

/-- Each failed frame has a payload. -/
def CellOutcomes.FailedRead (outcomes : CellOutcomes) : Prop :=
  ∀ envelope ∈ outcomes.failed, HasPayload envelope

theorem CellOutcomes.FailedRead.settle {outcomes : CellOutcomes}
    {received : PyJson} (read : outcomes.FailedRead)
    (hasPayload : HasPayload received) (cell : PyString)
    (payload : List (PyString × PyJson)) :
    (outcomes.settle cell received payload).FailedRead := by
  rw [CellOutcomes.settle]
  split
  · exact read
  · intro envelope listed
    rcases List.mem_append.mp listed with earlier | last
    · exact read envelope earlier
    · rw [List.mem_singleton.mp last]
      exact hasPayload

theorem stubCells_failedRead {recording : Bool} {ordinal : Nat}
    {ids : List PyString} {state after : StubState}
    (ran : stubCells registry recording ordinal ids state = .ok after)
    (read : state.outcomes.FailedRead) : after.outcomes.FailedRead := by
  induction ids generalizing ordinal state with
  | nil =>
      cases ran
      exact read
  | cons cell ids inductionHypothesis =>
      rw [stubCells] at ran
      split at ran
      · obtain ⟨⟨sent, received⟩, _, ran⟩ := ok_of_bind ran
        obtain ⟨payload, isPayload, ran⟩ := ok_of_bind ran
        exact inductionHypothesis ran
          (read.settle ⟨received, payload, rfl, isPayload⟩ cell payload)
      · exact inductionHypothesis ran read

theorem ok_of_otherwise {Value : Type} {call : Except Stop Value}
    {value : Value} (returned : otherwise call = .ok value) :
    call = .ok value := by
  cases call with
  | error stop => cases returned
  | ok found =>
      cases returned
      rfl

theorem readEntry_hasPayload {cell : PyString} {entry received : PyJson}
    {payload : List (PyString × PyJson)}
    (read : readEntry cell entry = .ok (received, payload)) :
    HasPayload received := by
  rw [readEntry] at read
  obtain ⟨sent, _, read⟩ := ok_of_bind read
  split at read
  · cases read
  · have isReceived := ok_of_otherwise read
    rw [receivedPayload] at isReceived
    obtain ⟨items, _, isReceived⟩ := ok_of_bind isReceived
    obtain ⟨receivedItems, areItems, isReceived⟩ := ok_of_bind isReceived
    obtain ⟨found, isPayload, isReceived⟩ := ok_of_bind isReceived
    cases isReceived
    refine ⟨receivedItems, _, ?_, isPayload⟩
    cases held : getD items (py "received") (.dict []) with
    | dict inner =>
        rw [held] at areItems
        cases areItems
        rfl
    | _ =>
        rw [held] at areItems
        cases areItems

theorem replayEntries_failedRead {matched : List (PyString × PyJson)}
    {outcomes after : CellOutcomes}
    (replayed : replayEntries matched outcomes = .ok after)
    (read : outcomes.FailedRead) : after.FailedRead := by
  induction matched generalizing outcomes with
  | nil =>
      cases replayed
      exact read
  | cons pair rest inductionHypothesis =>
      rw [replayEntries] at replayed
      obtain ⟨⟨received, payload⟩, isEntry, replayed⟩ := ok_of_bind replayed
      exact inductionHypothesis replayed
        (read.settle (readEntry_hasPayload isEntry) pair.1 payload)

/-- The notebook keeps its `metadata.rts` when records are stored in it. -/
theorem notebookRts_storeCells {rts : PyJson}
    (isRts : notebookRts notebook = .ok rts)
    (cells : List (PyString × PyJson)) :
    ∃ found, notebookRts (storeCells cells notebook) = .ok found := by
  rw [notebookRts] at isRts
  obtain ⟨metadata, isMetadata, _⟩ := ok_of_bind isRts
  rw [notebookRts, storeCells,
    bind_of_ok (items_modifyItem _ isMetadata rfl)]
  exact ⟨_, rfl⟩

theorem notebookRts_of_walk {cells : List (PyString × PyJson)}
    {ids : List PyString}
    (walked : walkNotebook layoutWalkIds notebook = .ok (cells, ids)) :
    ∃ rts, notebookRts notebook = .ok rts := by
  rw [walkNotebook] at walked
  obtain ⟨metadata, isMetadata, _⟩ := ok_of_bind walked
  rw [notebookRts, bind_of_ok isMetadata]
  exact ⟨_, rfl⟩

theorem runStubMode_readable {recording : Bool} {result : StubResult}
    (ran : runStubMode registry layoutWalkIds recording notebook =
      .ok result) : result.toHeadlessResult.Readable := by
  rw [runStubMode] at ran
  obtain ⟨⟨cells, ids⟩, walked, ran⟩ := ok_of_bind ran
  obtain ⟨state, loop, ran⟩ := ok_of_bind ran
  cases ran
  obtain ⟨rts, isRts⟩ := notebookRts_of_walk walked
  exact ⟨stubCells_failedRead loop fun envelope listed => (nomatch listed),
    notebookRts_storeCells isRts _⟩

theorem runReplayMode_readable {entries : List PyJson}
    {result : HeadlessResult}
    (ran : runReplayMode layoutWalkIds notebook entries = .ok result) :
    result.Readable := by
  rw [runReplayMode] at ran
  obtain ⟨⟨cells, ids⟩, walked, ran⟩ := ok_of_bind ran
  dsimp only at ran
  split at ran
  · cases ran
  · obtain ⟨outcomes, replayed, ran⟩ := ok_of_bind ran
    cases ran
    obtain ⟨rts, isRts⟩ := notebookRts_of_walk (ok_of_otherwise walked)
    exact ⟨replayEntries_failedRead replayed
        fun envelope listed => (nomatch listed),
      notebookRts_storeCells isRts _⟩

end

end RtsNotebook.LlmClient
