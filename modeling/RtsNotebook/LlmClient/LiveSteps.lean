import RtsNotebook.LlmClient.Live

/-!
# The steps of a live run

What each part of the executor does, said once: a frame, the drain loop, the
settlement of a cell, a turn of the cell loop and the end of the run.  Each is
a relation or a structure with a rule for every way through the source.
-/

namespace RtsNotebook.LlmClient

open RtsNotebook.Python

section

variable {World : Type}

/-! ### One frame -/

/-- The frame has completed the cell. -/
def DrainState.complete (drain : DrainState) (received : PyJson) :
    DrainState :=
  { drain with
    quiescenceStart := none
    receivedForCell := some received
    cellCompleted := true }

/-- The state once a frame has been looked at for a snapshot. -/
def LiveState.seeSnapshot (live : LiveState World)
    (items payload : List (PyString × PyJson)) : LiveState World :=
  if (messageType items).isStr (py "notebook.metadata") then
    live.takeSnapshot payload
  else
    live

theorem takeSnapshot_eq
    (live : LiveState World) (payload : List (PyString × PyJson)) :
    ∃ workingRts,
      live.takeSnapshot payload = { live with workingRts := workingRts } := by
  unfold LiveState.takeSnapshot
  split
  · exact ⟨_, rfl⟩
  · exact ⟨live.workingRts, rfl⟩

theorem seeSnapshot_eq
    (live : LiveState World) (items payload : List (PyString × PyJson)) :
    ∃ workingRts,
      live.seeSnapshot items payload =
        { live with workingRts := workingRts } := by
  unfold LiveState.seeSnapshot
  split
  · exact takeSnapshot_eq live payload
  · exact ⟨live.workingRts, rfl⟩

/-- What a frame with a payload does to the cell that is drained. -/
inductive TakesFrame (cell requestId : PyString)
    (items payload : List (PyString × PyJson)) (live : LiveState World)
    (drain : DrainState) : LiveState World → DrainState → Prop where
  | succeeded (correlated : isCorrelated requestId items payload = true)
      (noCode : (get payload (py "k_code")).truthy = false) :
      TakesFrame cell requestId items payload live drain
        ((live.seeSnapshot items payload).succeed cell (.dict items))
        (drain.complete (.dict items))
  | failed (correlated : isCorrelated requestId items payload = true)
      (hasCode : (get payload (py "k_code")).truthy = true) :
      TakesFrame cell requestId items payload live drain
        ((live.seeSnapshot items payload).fail cell (.dict items))
        (drain.complete (.dict items))
  | keyed (notCorrelated : isCorrelated requestId items payload = false)
      (keyed : isKeyedFailure cell payload = true) :
      TakesFrame cell requestId items payload live drain
        ((live.seeSnapshot items payload).fail cell (.dict items))
        (drain.complete (.dict items))
  | passed (notCorrelated : isCorrelated requestId items payload = false)
      (notKeyed : isKeyedFailure cell payload = false) :
      TakesFrame cell requestId items payload live drain
        (live.seeSnapshot items payload)
        { drain with quiescenceStart := none }

variable {cell requestId : PyString} {live after : LiveState World}
  {drain drainAfter : DrainState}

theorem takeReply_takes {reply : PyJson}
    (took : takeReply cell requestId reply live drain =
      .ok (after, drainAfter)) :
    ∃ items payload, reply = .dict items ∧ replyPayload items = .ok payload ∧
      TakesFrame cell requestId items payload live drain after drainAfter := by
  unfold takeReply at took
  obtain ⟨items, isDict, took⟩ := ok_of_bind took
  obtain ⟨payload, hasPayload, took⟩ := ok_of_bind took
  have replyEq : reply = .dict items := by
    cases reply with
    | dict found => exact congrArg PyJson.dict (Except.ok.inj isDict)
    | _ => cases isDict
  refine ⟨items, payload, replyEq, hasPayload, ?_⟩
  subst replyEq
  by_cases correlated : isCorrelated requestId items payload = true
  · rw [if_pos correlated] at took
    by_cases hasCode : (get payload (py "k_code")).truthy = true
    · rw [if_pos hasCode] at took
      cases took
      exact .failed correlated hasCode
    · rw [if_neg hasCode] at took
      cases took
      exact .succeeded correlated (Bool.eq_false_of_not_eq_true hasCode)
  · rw [if_neg correlated] at took
    have notCorrelated := Bool.eq_false_of_not_eq_true correlated
    by_cases keyed : isKeyedFailure cell payload = true
    · rw [if_pos keyed] at took
      cases took
      exact .keyed notCorrelated keyed
    · rw [if_neg keyed] at took
      cases took
      exact .passed notCorrelated (Bool.eq_false_of_not_eq_true keyed)

/-- A frame leaves the drains and the receives on record. -/
theorem TakesFrame.frame {items payload : List (PyString × PyJson)}
    (takes : TakesFrame cell requestId items payload live drain after drainAfter) :
    after.drains = live.drains ∧ after.interrupted = live.interrupted ∧
      drainAfter.ticks = drain.ticks := by
  obtain ⟨workingRts, snapped⟩ := seeSnapshot_eq live items payload
  cases takes with
  | succeeded => rw [snapped]; exact ⟨rfl, rfl, rfl⟩
  | failed => rw [snapped]; exact ⟨rfl, rfl, rfl⟩
  | keyed => rw [snapped]; exact ⟨rfl, rfl, rfl⟩
  | passed => rw [snapped]; exact ⟨rfl, rfl, rfl⟩

/-! ### The loop -/

/-- The drain after one more receive. -/
def DrainState.tick (drain : DrainState) (outcome : RecvOutcome)
    (reading : Option Time) : DrainState :=
  { drain with ticks := drain.ticks ++ [⟨outcome, reading⟩] }

/-- The turns of the drain loop, from a point of it to its end. -/
inductive DrainRun (window : Time) (cell requestId : PyString) :
    LiveState World → DrainState → LiveState World → DrainState → Prop where
  | interrupted (live : LiveState World) (drain : DrainState) :
      DrainRun window cell requestId live drain
        { live with interrupted := true } (drain.tick .keyboardInterrupt none)
  | raised (live : LiveState World) (drain : DrainState)
      (message : PyString) :
      DrainRun window cell requestId live drain
        (live.fail cell
          (syntheticKEnvelope cell (py "K_TRANSPORT_LOST") message))
        { drain.tick (.raised message) none with cellCompleted := true }
  | completed {live after : LiveState World} {drain drainAfter : DrainState}
      {reply : PyJson}
      (took : takeReply cell requestId reply live
        (drain.tick (.value reply) none) = .ok (after, drainAfter))
      (completed : drainAfter.cellCompleted = true) :
      DrainRun window cell requestId live drain after drainAfter
  | passed {live middle after : LiveState World}
      {drain drainMiddle drainAfter : DrainState} {reply : PyJson}
      (took : takeReply cell requestId reply live
        (drain.tick (.value reply) none) = .ok (middle, drainMiddle))
      (goesOn : drainMiddle.cellCompleted = false)
      (rest : DrainRun window cell requestId middle drainMiddle after
        drainAfter) :
      DrainRun window cell requestId live drain after drainAfter
  | idle {live after : LiveState World} {drain drainAfter : DrainState}
      {reply : PyJson} (reading : Time) (isEmpty : reply.truthy = false)
      (noStart : drain.quiescenceStart = none)
      (rest : DrainRun window cell requestId live
        { drain.tick (.value reply) (some reading) with
          quiescenceStart := some reading } after drainAfter) :
      DrainRun window cell requestId live drain after drainAfter
  | waiting {live after : LiveState World} {drain drainAfter : DrainState}
      {reply : PyJson} {start : Time} (reading : Time)
      (isEmpty : reply.truthy = false)
      (hasStart : drain.quiescenceStart = some start)
      (notFull : ¬ window ≤ reading - start)
      (rest : DrainRun window cell requestId live
        (drain.tick (.value reply) (some reading)) after drainAfter) :
      DrainRun window cell requestId live drain after drainAfter
  | quiet {live : LiveState World} {drain : DrainState} {reply : PyJson}
      {start : Time} (reading : Time) (isEmpty : reply.truthy = false)
      (hasStart : drain.quiescenceStart = some start)
      (full : window ≤ reading - start) :
      DrainRun window cell requestId live drain live
        { drain.tick (.value reply) (some reading) with
          cellCompleted := true }
  | timedOut (live : LiveState World) (drain : DrainState) :
      DrainRun window cell requestId live drain live drain

theorem drainLoop_run
    {connection : Connection World} {config : LiveConfig}
    {cellDeadline : Time} {fuel : Nat} {world worldAfter : World}
    (drained : drainLoop connection config cell requestId cellDeadline fuel
      live drain world = .ok (after, drainAfter, worldAfter)) :
    DrainRun config.quiescenceWindow cell requestId live drain after
      drainAfter := by
  induction fuel generalizing live drain world with
  | zero => cases drained
  | succ fuel inductionHypothesis =>
      unfold drainLoop at drained
      dsimp only at drained
      split at drained
      · split at drained
        · cases drained
        · rename_i outcome
          rw [outcome] at drained
          cases drained
          exact .interrupted live drain
        · rename_i message outcome
          rw [outcome] at drained
          cases drained
          exact .raised live drain message
        · rename_i reply outcome
          rw [outcome] at drained
          split at drained
          · obtain ⟨⟨middle, drainMiddle⟩, took, drained⟩ :=
              ok_of_bind drained
            split at drained
            · rename_i completed
              cases drained
              exact .completed took completed
            · rename_i goesOn
              exact .passed took (Bool.eq_false_of_not_eq_true goesOn)
                (inductionHypothesis drained)
          · rename_i notTruthy
            have isEmpty := Bool.eq_false_of_not_eq_true notTruthy
            split at drained
            · rename_i noStart
              exact .idle _ isEmpty noStart (inductionHypothesis drained)
            · rename_i start hasStart
              split at drained
              · rename_i full
                cases drained
                exact .quiet _ isEmpty hasStart full
              · rename_i notFull
                exact .waiting _ isEmpty hasStart notFull
                  (inductionHypothesis drained)
      · cases drained
        exact .timedOut _ _

/-! ### After the drain -/

/-- How a cell that was drained is settled, by whether it is completed and by
the frame taken for it. -/
inductive Settles (config : LiveConfig) (cell : PyString) (envelope : PyJson)
    (live : LiveState World) :
    Bool → Option PyJson → LiveState World → Prop where
  | timedOut (received : Option PyJson) (message : PyString) :
      Settles config cell envelope live false received
        ((live.fail cell
            (syntheticKEnvelope cell (py "K_CELL_TIMEOUT") message)).record
          config envelope
          (syntheticKEnvelope cell (py "K_CELL_TIMEOUT") message))
  | answered (reply : PyJson) :
      Settles config cell envelope live true (some reply)
        (live.record config envelope reply)
  | quiet (ordinal : Nat) (outputs : List PyJson) :
      Settles config cell envelope live true none
        ((live.succeed cell (syntheticSuccess cell ordinal outputs)).record
          config envelope (syntheticSuccess cell ordinal outputs))

theorem settleCell_settles
    {config : LiveConfig} {ordinal : Nat} {envelope : PyJson}
    (settled : settleCell config cell ordinal envelope live drain =
      .ok after) :
    Settles config cell envelope live drain.cellCompleted
      drain.receivedForCell after := by
  unfold settleCell at settled
  cases completed : drain.cellCompleted with
  | false =>
      rw [completed] at settled
      cases settled
      exact .timedOut _ _
  | true =>
      rw [completed] at settled
      cases received : drain.receivedForCell with
      | some reply =>
          rw [received] at settled
          cases settled
          exact .answered reply
      | none =>
          rw [received] at settled
          obtain ⟨outputs, _, settled⟩ := ok_of_bind settled
          cases settled
          exact .quiet ordinal outputs

/-! ### The cell loop -/

/-- What the turn of the first cell does, and what the loop does next. -/
inductive CellStep (connection : Connection World) (config : LiveConfig)
    (fuel : Nat) (cells : List (PyString × PyJson)) (runDeadline : Time)
    (ordinal : Nat) (cell : PyString) (ids : List PyString)
    (live : LiveState World) (world : World) (after : LiveState World)
    (worldAfter : World) : Prop where
  | late (message : PyString)
      (late : runDeadline < (connection.monotonic world).1)
      (rest : runCells connection config fuel cells runDeadline (ordinal + 1)
        ids
        (live.fail cell
          (syntheticKEnvelope cell (py "K_CELL_TIMEOUT") message))
        (connection.monotonic world).2 = .ok (after, worldAfter))
  | skipped (noRecord : (get cells cell).isDict = false)
      (rest : runCells connection config fuel cells runDeadline (ordinal + 1)
        ids live (connection.monotonic world).2 = .ok (after, worldAfter))
  | silent {record : List (PyString × PyJson)}
      (hasRecord : get cells cell = .dict record)
      (derives : deriveCellEnvelope config.surroundings cell record
        config.sessionId ordinal = .ok none)
      (rest : runCells connection config fuel cells runDeadline (ordinal + 1)
        ids
        ((live.succeed cell (syntheticSuccess cell ordinal [])).record config
          .none (syntheticSuccess cell ordinal []))
        (connection.monotonic world).2 = .ok (after, worldAfter))
  | refused {record : List (PyString × PyJson)} {envelope : PyJson}
      {message : PyString}
      (inTime : (connection.monotonic world).1 ≤ runDeadline)
      (hasRecord : get cells cell = .dict record)
      (derives : deriveCellEnvelope config.surroundings cell record
        config.sessionId ordinal = .ok (some envelope))
      (refused : connection.send envelope (connection.monotonic world).2 =
        (.raised message, worldAfter))
      (after_eq : after = failRemaining
        ((live.fail cell
            (syntheticKEnvelope cell (py "K_TRANSPORT_LOST") message)).record
          config envelope
          (syntheticKEnvelope cell (py "K_TRANSPORT_LOST") message)) ids)
  | interrupted (interrupted : after.interrupted = true)
  | drained {record : List (PyString × PyJson)} {envelope : PyJson}
      {drained next : LiveState World} {drain : DrainState}
      {worldSent worldDrained : World}
      (inTime : (connection.monotonic world).1 ≤ runDeadline)
      (hasRecord : get cells cell = .dict record)
      (derives : deriveCellEnvelope config.surroundings cell record
        config.sessionId ordinal = .ok (some envelope))
      (sent : connection.send envelope (connection.monotonic world).2 =
        (.sent, worldSent))
      (drains : drainLoop connection config cell
        (requestIdOf config.sessionId ordinal)
        ((connection.monotonic worldSent).1 + config.cellTimeout) fuel live
        { quiescenceStart := none
          cellCompleted := false
          receivedForCell := none
          ticks := [] }
        (connection.monotonic worldSent).2 =
          .ok (drained, drain, worldDrained))
      (goesOn : drained.interrupted = false)
      (settled : settleCell config cell ordinal envelope
        (drained.finishDrain cell (requestIdOf config.sessionId ordinal)
          drain.ticks worldDrained) drain = .ok next)
      (rest : runCells connection config fuel cells runDeadline (ordinal + 1)
        ids next worldDrained = .ok (after, worldAfter))

@[simp]
theorem record_interrupted
    (live : LiveState World) (config : LiveConfig) (sent received : PyJson) :
    (live.record config sent received).interrupted = live.interrupted := by
  unfold LiveState.record
  split <;> rfl

variable {connection : Connection World} {config : LiveConfig}
  {cells : List (PyString × PyJson)} {world worldAfter : World} {fuel : Nat}

theorem runCells_step
    {runDeadline : Time} {ordinal : Nat} {ids : List PyString}
    (ran : runCells connection config fuel cells runDeadline ordinal
      (cell :: ids) live world = .ok (after, worldAfter)) :
    CellStep connection config fuel cells runDeadline ordinal cell ids live
      world after worldAfter := by
  unfold runCells at ran
  dsimp only at ran
  split at ran
  · rename_i late
    exact .late _ late ran
  · rename_i notLate
    have inTime := not_lt.mp notLate
    split at ran
    · rename_i record hasRecord
      obtain ⟨derived, derives, ran⟩ := ok_of_bind ran
      cases derived with
      | none => exact .silent hasRecord derives ran
      | some envelope =>
          dsimp only at ran
          split at ran
          · cases ran
          · rename_i message worldRefused refused
            cases ran
            exact .refused inTime hasRecord derives refused rfl
          · rename_i worldSent sent
            obtain ⟨⟨drained, drain, worldDrained⟩, drains, ran⟩ :=
              ok_of_bind ran
            dsimp only at ran
            split at ran
            · rename_i interrupted
              cases ran
              exact .interrupted (by rw [record_interrupted, interrupted])
            · rename_i goesOn
              obtain ⟨next, settled, ran⟩ := ok_of_bind ran
              exact .drained inTime hasRecord derives sent drains
                (Bool.eq_false_of_not_eq_true goesOn) settled ran
    · rename_i noRecord
      refine .skipped ?_ ran
      cases hasRecord : get cells cell with
      | dict record => exact absurd hasRecord (noRecord record)
      | _ => rfl

/-! ### The end of the run -/

/-- The trailing drain changes the working state only. -/
theorem trailingDrain_eq
    {tailDeadline : Time}
    (drained : trailingDrain connection tailDeadline fuel live world =
      .ok after) :
    ∃ workingRts, after = { live with workingRts := workingRts } := by
  induction fuel generalizing live world with
  | zero => cases drained
  | succ fuel inductionHypothesis =>
      unfold trailingDrain at drained
      dsimp only at drained
      split at drained
      · split at drained
        · cases drained
        · cases drained
        · cases drained
          exact ⟨_, rfl⟩
        · split at drained
          · obtain ⟨items, _, drained⟩ := ok_of_bind drained
            split at drained
            · obtain ⟨payload, _, drained⟩ := ok_of_bind drained
              obtain ⟨workingRts, taken⟩ := takeSnapshot_eq live payload
              have rest := inductionHypothesis drained
              rw [taken] at rest
              exact rest
            · exact inductionHypothesis drained
          · exact inductionHypothesis drained
      · cases drained
        exact ⟨_, rfl⟩

/-- What a run that returns takes over from the cell loop. -/
structure Finishes (config : LiveConfig) (notebook : List (PyString × PyJson))
    (live : LiveState World) (result : LiveResult World) : Prop where
  notInterrupted : live.interrupted = false
  hasRts : ∃ metadata rts,
    (getD notebook (py "metadata") (.dict [])).items? = .ok metadata ∧
    (getD metadata (py "rts") (.dict [])).items? = .ok rts
  succeeded : result.succeeded = live.succeeded
  failed : result.failed = live.failed
  recorded : result.recorded =
    if config.recording then some live.sentReceived else none
  drains : result.drains = live.drains

theorem finishRun_finishes
    {notebook : List (PyString × PyJson)} {result : LiveResult World}
    (finished : finishRun connection config fuel notebook live world =
      .ok result) : Finishes config notebook live result := by
  unfold finishRun at finished
  split at finished
  · cases finished
  · rename_i notInterrupted
    obtain ⟨tail, drained, finished⟩ := ok_of_bind finished
    obtain ⟨_, mirrored, finished⟩ := ok_of_bind finished
    obtain ⟨metadata, hasMetadata, finished⟩ := ok_of_bind finished
    cases finished
    unfold mirrorOutputs at mirrored
    obtain ⟨found, hasFound, mirrored⟩ := ok_of_bind mirrored
    obtain ⟨rts, hasRts, _⟩ := ok_of_bind mirrored
    obtain ⟨workingRts, rfl⟩ := trailingDrain_eq drained
    exact ⟨Bool.eq_false_of_not_eq_true notInterrupted,
      ⟨found, rts, hasFound, hasRts⟩, rfl, rfl, rfl, rfl⟩

end

end RtsNotebook.LlmClient
