import RtsNotebook.LlmClient.Stub

/-!
# Recording a stub run and replaying it

A stub run records one line for each identifier that has a record, and the
replay wants one for each identifier of the walk.  Where they are as many, each
line is read as it was written, and the outputs that it brings are already in
the record: a cell that comes up again gets the same canned response.
-/

namespace RtsNotebook.LlmClient

open RtsNotebook.Python

section

variable {registry : StubRegistry} {ordinal : Nat} {cell other : PyString}
  {record payload cells : List (PyString × PyJson)} {ids : List PyString}
  {state after : StubState} {recording : Bool}

/-! ### The loop -/

theorem stubCells_cons
    (ran : stubCells registry recording ordinal (cell :: ids) state =
      .ok after)
    (hasRecord : get state.outcomes.cells cell = .dict record) :
    ∃ line received payload,
      readEntry cell line = .ok (received, payload) ∧
      Answers registry state.outcomes.cells cell payload ∧
      stubCells registry recording (ordinal + 1) ids
        { outcomes := state.outcomes.settle cell received payload
          sentReceived :=
            if recording then state.sentReceived ++ [line]
            else state.sentReceived } = .ok after := by
  unfold stubCells at ran
  rw [hasRecord] at ran
  obtain ⟨⟨sent, received⟩, answered, ran⟩ := ok_of_bind ran
  obtain ⟨payload, hasPayload, ran⟩ := ok_of_bind ran
  obtain ⟨found, canned, hasFound, hasCanned, outputsEq, read⟩ :=
    stubAnswer_spec answered
  cases hasPayload.symm.trans hasFound
  exact ⟨_, .dict received, payload, read,
    answers_of_stubAnswer hasRecord hasCanned outputsEq, ran⟩

theorem stubCells_skip
    (ran : stubCells registry recording ordinal (cell :: ids) state =
      .ok after)
    (noRecord : (get state.outcomes.cells cell).isDict = false) :
    stubCells registry recording (ordinal + 1) ids state = .ok after := by
  unfold stubCells at ran
  cases found : get state.outcomes.cells cell with
  | dict record =>
      rw [found] at noRecord
      cases noRecord
  | _ =>
      rw [found] at ran
      exact ran

theorem exists_record {value : PyJson} (isDict : value.isDict = true) :
    ∃ record, value = .dict record := by
  cases value with
  | dict record => exact ⟨record, rfl⟩
  | _ => cases isDict

/-- The loop keeps the cells that have an entry, in their order. -/
theorem keys_stubCells
    (ran : stubCells registry recording ordinal ids state = .ok after) :
    after.outcomes.cells.map Prod.fst =
      state.outcomes.cells.map Prod.fst := by
  induction ids generalizing ordinal state with
  | nil =>
      cases ran
      rfl
  | cons cell ids inductionHypothesis =>
      cases isDict : (get state.outcomes.cells cell).isDict with
      | false => exact inductionHypothesis (stubCells_skip ran isDict)
      | true =>
          obtain ⟨record, hasRecord⟩ := exists_record isDict
          obtain ⟨_, received, payload, _, _, rest⟩ :=
            stubCells_cons ran hasRecord
          exact (inductionHypothesis rest).trans
            (keys_settle state.outcomes cell received payload)

theorem length_stubCells
    (ran : stubCells registry true ordinal ids state = .ok after) :
    after.sentReceived.length = state.sentReceived.length +
      ids.countP fun cell => (get state.outcomes.cells cell).isDict := by
  induction ids generalizing ordinal state with
  | nil =>
      cases ran
      rfl
  | cons cell ids inductionHypothesis =>
      cases isDict : (get state.outcomes.cells cell).isDict with
      | false =>
          rw [inductionHypothesis (stubCells_skip ran isDict),
            List.countP_cons_of_neg (by simp [isDict])]
      | true =>
          obtain ⟨record, hasRecord⟩ := exists_record isDict
          obtain ⟨_, received, payload, _, _, rest⟩ :=
            stubCells_cons ran hasRecord
          have counted := inductionHypothesis rest
          simp only [isDict_settle, if_true, List.length_append,
            List.length_singleton] at counted
          rw [counted, List.countP_cons_of_pos (by simp [isDict])]
          omega

/-- What is persisted stays so until the end of the loop. -/
theorem persisted_stubCells
    (ran : stubCells registry recording ordinal ids state = .ok after)
    (persisted : Persisted state.outcomes.cells cell payload)
    (answers : Answers registry state.outcomes.cells cell payload) :
    Persisted after.outcomes.cells cell payload := by
  induction ids generalizing ordinal state with
  | nil =>
      cases ran
      exact persisted
  | cons other ids inductionHypothesis =>
      cases isDict : (get state.outcomes.cells other).isDict with
      | false =>
          exact inductionHypothesis (stubCells_skip ran isDict) persisted
            answers
      | true =>
          obtain ⟨record, hasRecord⟩ := exists_record isDict
          obtain ⟨_, received, _, _, otherAnswers, rest⟩ :=
            stubCells_cons ran hasRecord
          exact inductionHypothesis rest
            (persisted.settle answers otherAnswers received)
            (answers.settle received)

/-- Replaying the lines of a run over the records that it leaves changes none
of them, and gives the frames of the run. -/
theorem stubCells_replays
    (ran : stubCells registry true ordinal ids state = .ok after)
    (records : ∀ cell ∈ ids,
      (get state.outcomes.cells cell).isDict = true) :
    ∃ lines succeeded failed,
      after.sentReceived = state.sentReceived ++ lines ∧
      after.outcomes.succeeded = state.outcomes.succeeded ++ succeeded ∧
      after.outcomes.failed = state.outcomes.failed ++ failed ∧
      ∀ earlier later,
        replayEntries (ids.zip lines)
            { cells := after.outcomes.cells
              succeeded := earlier
              failed := later } =
          .ok
            { cells := after.outcomes.cells
              succeeded := earlier ++ succeeded
              failed := later ++ failed } := by
  induction ids generalizing ordinal state with
  | nil =>
      cases ran
      exact ⟨[], [], [], by simp, by simp, by simp, by simp [replayEntries]⟩
  | cons cell ids inductionHypothesis =>
      obtain ⟨record, hasRecord⟩ :=
        exists_record (records cell List.mem_cons_self)
      obtain ⟨line, received, payload, read, answers, rest⟩ :=
        stubCells_cons ran hasRecord
      obtain ⟨lines, succeeded, failed, linesEq, succeededEq, failedEq,
          replays⟩ := inductionHypothesis rest fun other member => by
        rw [isDict_settle]
        exact records other (List.mem_cons_of_mem _ member)
      simp only [if_true, List.append_assoc, List.singleton_append] at linesEq
      by_cases ok : readsOk payload = true
      · have settled : state.outcomes.settle cell received payload =
            { state.outcomes with
              cells := persistOutputs state.outcomes.cells cell payload
              succeeded := state.outcomes.succeeded ++ [received] } :=
          if_pos ok
        have persisted : Persisted after.outcomes.cells cell payload := by
          refine persisted_stubCells rest ?_ (answers.settle received)
          rw [settled]
          exact persisted_persistOutputs state.outcomes.cells cell payload
        rw [settled, List.append_assoc] at succeededEq
        rw [settled] at failedEq
        refine ⟨line :: lines, received :: succeeded, failed, linesEq,
          succeededEq, failedEq, fun earlier later => ?_⟩
        rw [List.zip_cons_cons]
        unfold replayEntries
        rw [bind_of_ok read]
        dsimp only
        unfold CellOutcomes.settle
        rw [if_pos ok, persistOutputs_eq_self persisted, replays]
        simp
      · have settled : state.outcomes.settle cell received payload =
            { state.outcomes with
              failed := state.outcomes.failed ++ [received] } :=
          if_neg ok
        rw [settled] at succeededEq
        rw [settled, List.append_assoc] at failedEq
        refine ⟨line :: lines, succeeded, received :: failed, linesEq,
          succeededEq, failedEq, fun earlier later => ?_⟩
        rw [List.zip_cons_cons]
        unfold replayEntries
        rw [bind_of_ok read]
        dsimp only
        unfold CellOutcomes.settle
        rw [if_neg ok, replays]
        simp

/-! ### Recording and replaying -/

/-- The replay of what the run has recorded, over the notebook that it left,
returns that notebook and as many frames. -/
def Reproduces (layoutWalkIds : PyJson → List PyString)
    (result : StubResult) : Prop :=
  ∃ lines replayed, result.recorded = some lines ∧
    runReplayMode layoutWalkIds result.notebook lines = .ok replayed ∧
    replayed.notebook = result.notebook ∧
    replayed.succeeded.length = result.succeeded.length ∧
    replayed.failed.length = result.failed.length

variable {layoutWalkIds : PyJson → List PyString}
  {notebook target targetCells : List (PyString × PyJson)}
  {targetIds : List PyString} {result : StubResult}

theorem reproduces_iff
    (walked : walkNotebook layoutWalkIds notebook = .ok (cells, ids))
    (ran : runStubMode registry layoutWalkIds true notebook = .ok result) :
    Reproduces layoutWalkIds result ↔
      ∀ cell ∈ ids, (get cells cell).isDict = true := by
  unfold runStubMode at ran
  rw [bind_of_ok walked] at ran
  obtain ⟨after, loop, ran⟩ := ok_of_bind ran
  cases ran
  have walkedAfter : walkNotebook layoutWalkIds
      (storeCells after.outcomes.cells notebook) =
        .ok (after.outcomes.cells, ids) :=
    walkNotebook_storeCells walked (keys_stubCells loop)
  have counted := length_stubCells loop
  simp only [List.length_nil, Nat.zero_add] at counted
  constructor
  · rintro ⟨lines, replayed, hasLines, replays, _⟩
    cases hasLines
    have sameLength : after.sentReceived.length = ids.length := by
      by_contra different
      have caught := (runReplayMode_mismatch_iff walkedAfter).mpr
        (Or.inl different)
      rw [replays] at caught
      cases caught
    intro cell member
    have all := List.countP_eq_length.mp (counted.symm.trans sameLength)
    exact all cell member
  · intro records
    obtain ⟨lines, succeeded, failed, linesEq, succeededEq, failedEq,
      replays⟩ := stubCells_replays loop records
    simp only [List.nil_append] at linesEq succeededEq failedEq
    have sameLength : after.sentReceived.length = ids.length :=
      counted.trans (List.countP_eq_length.mpr records)
    refine ⟨after.sentReceived,
      { notebook := storeCells after.outcomes.cells
          (storeCells after.outcomes.cells notebook)
        succeeded := succeeded
        failed := failed }, rfl, ?_,
      storeCells_storeCells after.outcomes.cells notebook,
      by rw [succeededEq], by rw [failedEq]⟩
    unfold runReplayMode
    rw [bind_of_ok (otherwise_eq_ok.mpr walkedAfter)]
    dsimp only
    rw [if_neg (not_not.mpr sameLength), linesEq, bind_of_ok (replays [] [])]
    rfl

/-- A run that was recorded is reproduced if and only if each identifier of
the walk has a record; and a recording that drifts raises
`ReplayMismatchError` if and only if it is caught. -/
theorem recordedRun_reproduces_iff
    (walked : walkNotebook layoutWalkIds notebook = .ok (cells, ids))
    (ran : runStubMode registry layoutWalkIds true notebook = .ok result)
    (walkedTarget : walkNotebook layoutWalkIds target =
      .ok (targetCells, targetIds))
    (entries : List PyJson) :
    (Reproduces layoutWalkIds result ↔
        ∀ cell ∈ ids, (get cells cell).isDict = true) ∧
      ((Drifts targetIds entries →
          runReplayMode layoutWalkIds target entries = .error .mismatch) ↔
        (Drifts targetIds entries → Caught targetIds entries)) := by
  refine ⟨reproduces_iff walked ran, ?_⟩
  rw [runReplayMode_mismatch_iff walkedTarget]

end

/-! ### A layout with an identifier too many, and an ordinal -/

def noStubs : StubRegistry where
  responses := []
  sha256Hex := fun _ => []

/-- A notebook with one cell. -/
def agentCells : List (PyString × PyJson) :=
  [(py "cell", .dict [(py "text", .str (py "hello"))])]

def agentNotebook : List (PyString × PyJson) :=
  [(py "metadata", .dict
    [(py "rts", .dict [(py "cells", .dict agentCells)])])]

/-- A line for that cell, with an ordinal. -/
def agentEntry (ordinal : Int) : PyJson :=
  .dict
    [(py "sent", .dict
      [(py "payload", .dict
        [(py "cell_id", .str (py "cell")), (py "ordinal", .int ordinal)])]),
      (py "received", .dict [])]

/-- The layout lists a cell that has no record, and the replay raises; the
replay of an entry with another ordinal does not. -/
theorem ghostCell_and_otherOrdinal :
    (∃ result,
      runStubMode noStubs (fun _ => [py "ghost"]) true agentNotebook =
          .ok result ∧
        ¬ Reproduces (fun _ => [py "ghost"]) result) ∧
      Drifts [py "cell"] [agentEntry 7] ∧
      runReplayMode (fun _ => []) agentNotebook [agentEntry 7] ≠
        .error .mismatch := by
  refine ⟨?_, ?_, ?_⟩
  · obtain ⟨result, ran, _⟩ := exists_returned
      (runStubMode noStubs (fun _ => [py "ghost"]) true agentNotebook)
      (fun result => result.succeeded.length) 1 (by decide +kernel)
    refine ⟨result, ran, fun reproduced => ?_⟩
    have walked : walkNotebook (fun _ => [py "ghost"]) agentNotebook =
        .ok (agentCells, [py "ghost", py "cell"]) := rfl
    have records := (reproduces_iff walked ran).mp reproduced
    have ghost := records (py "ghost") List.mem_cons_self
    exact absurd ghost (by decide)
  · exact ⟨0, py "cell", agentEntry 7, rfl, rfl, _, rfl,
      Or.inr ⟨.int 7, rfl, by decide⟩⟩
  · intro refused
    have returned :
        (runReplayMode (fun _ => []) agentNotebook [agentEntry 7]).isOk =
          true := by decide +kernel
    rw [refused] at returned
    cases returned

/-- A notebook whose walk is that of its records, and a line that fits. -/
theorem recordedRun_reproduces_iff_oneCell :
    ∃ result,
      runStubMode noStubs (fun _ => []) true agentNotebook = .ok result ∧
      (Reproduces (fun _ => []) result ↔
        ∀ cell ∈ [py "cell"], (get agentCells cell).isDict = true) ∧
      ((Drifts [py "cell"] [agentEntry 0] →
          runReplayMode (fun _ => []) agentNotebook [agentEntry 0] =
            .error .mismatch) ↔
        (Drifts [py "cell"] [agentEntry 0] →
          Caught [py "cell"] [agentEntry 0])) := by
  obtain ⟨result, ran, _⟩ := exists_returned
    (runStubMode noStubs (fun _ => []) true agentNotebook)
    (fun result => result.succeeded.length) 1 (by decide +kernel)
  have walked : walkNotebook (fun _ => []) agentNotebook =
      .ok (agentCells, [py "cell"]) := rfl
  exact ⟨result, ran,
    recordedRun_reproduces_iff walked ran walked [agentEntry 0]⟩

end RtsNotebook.LlmClient
