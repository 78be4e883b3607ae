import RtsNotebook.LlmClient.LiveAccounting

/-!
# Each cell of a live run is counted once

The accounts of the turns add up over the walk: its identifiers are distinct,
so the turn of one cell leaves the tallies of the others alone.  A run counts
each of its cells once exactly where no receive of a drain has raised.
-/

namespace RtsNotebook.LlmClient

open RtsNotebook.Python

section

variable {World : Type} {connection : Connection World} {config : LiveConfig}
  {cells : List (PyString × PyJson)} {window : Time}

/-! ### Accounts of the walk -/

/-- The account of a cell after a run: of its drain, or of a turn that needed
none. -/
structure CellAccount (window : Time) (drains : List (Drain World))
    (cell : PyString) (successes failures : Nat) : Prop where
  drained : ∀ drain ∈ drains, drain.cell = cell →
    Accounted window drain.requestId drain.ticks successes failures
  notDrained : (∀ drain ∈ drains, drain.cell ≠ cell) →
    successes + failures = 1

/-- What the turn of one cell does. -/
structure Turn (window : Time) (cells : List (PyString × PyJson))
    (cell : PyString) (own : List (Drain World))
    (live after : LiveState World) : Prop where
  drains_eq : after.drains = live.drains ++ own
  owner : ∀ drain ∈ own, drain.cell = cell ∧
    (get cells drain.cell).isDict = true
  account : ∃ successes failures,
    Adds cell successes failures live after ∧
    ((get cells cell).isDict = true →
      CellAccount window own cell successes failures)

/-- What the loop over a part of the walk does. -/
structure Ran (window : Time) (cells : List (PyString × PyJson))
    (ids : List PyString) (drains : List (Drain World))
    (live after : LiveState World) : Prop where
  drains_eq : after.drains = live.drains ++ drains
  owner : ∀ drain ∈ drains, drain.cell ∈ ids ∧
    (get cells drain.cell).isDict = true
  others : ∀ cell, cell ∉ ids →
    after.successes cell = live.successes cell ∧
    after.failures cell = live.failures cell
  account : ∀ cell ∈ ids, (get cells cell).isDict = true →
    ∃ successes failures,
      after.successes cell = live.successes cell + successes ∧
      after.failures cell = live.failures cell + failures ∧
      CellAccount window drains cell successes failures

variable {cell : PyString} {ids : List PyString}
  {live middle after : LiveState World} {own drains : List (Drain World)}

theorem Turn.counted
    {successes failures : Nat}
    (adds : Adds cell successes failures live after)
    (once : successes + failures = 1)
    (sameDrains : after.drains = live.drains) :
    Turn window cells cell [] live after where
  drains_eq := by simp [sameDrains]
  owner := by simp
  account := ⟨successes, failures, adds, fun _ =>
    { drained := by simp
      notDrained := fun _ => once }⟩

theorem Turn.skipped (noRecord : (get cells cell).isDict = false) :
    Turn window cells cell [] live live where
  drains_eq := by simp
  owner := by simp
  account := ⟨0, 0, Adds.of_same rfl rfl, fun isRecord => by
    rw [noRecord] at isRecord
    cases isRecord⟩

theorem Ran.nil : Ran window cells [] [] live live where
  drains_eq := by simp
  owner := by simp
  others := fun _ _ => ⟨rfl, rfl⟩
  account := by simp

/-- A turn before the rest of the walk, whose cells are other ones. -/
theorem Ran.cons
    (turn : Turn window cells cell own live middle)
    (fresh : cell ∉ ids)
    (rest : Ran window cells ids drains middle after) :
    Ran window cells (cell :: ids) (own ++ drains) live after := by
  obtain ⟨successes, failures, adds, ownAccount⟩ := turn.account
  constructor
  · rw [rest.drains_eq, turn.drains_eq, List.append_assoc]
  · intro drain member
    rcases List.mem_append.mp member with ownMember | restMember
    · obtain ⟨owned, isRecord⟩ := turn.owner drain ownMember
      exact ⟨owned ▸ List.mem_cons_self, isRecord⟩
    · obtain ⟨inIds, isRecord⟩ := rest.owner drain restMember
      exact ⟨List.mem_cons_of_mem _ inIds, isRecord⟩
  · intro other outside
    have different : other ≠ cell := fun equal =>
      outside (equal ▸ List.mem_cons_self)
    have outsideRest : other ∉ ids := fun inIds =>
      outside (List.mem_cons_of_mem _ inIds)
    obtain ⟨restSuccesses, restFailures⟩ := rest.others other outsideRest
    exact ⟨restSuccesses.trans (adds.otherSuccesses other different),
      restFailures.trans (adds.otherFailures other different)⟩
  · intro other member isRecord
    rcases List.mem_cons.mp member with rfl | inIds
    · obtain ⟨restSuccesses, restFailures⟩ := rest.others other fresh
      have account := ownAccount isRecord
      refine ⟨successes, failures,
        restSuccesses.trans adds.ownSuccesses,
        restFailures.trans adds.ownFailures, ?_, ?_⟩
      · intro drain drainMember owned
        rcases List.mem_append.mp drainMember with ownMember | restMember
        · exact account.drained drain ownMember owned
        · exact absurd (owned ▸ (rest.owner drain restMember).1) fresh
      · intro none
        exact account.notDrained fun drain ownMember =>
          none drain (List.mem_append_left _ ownMember)
    · have different : other ≠ cell := fun equal => fresh (equal ▸ inIds)
      obtain ⟨restSuccesses, restFailures, succeeded, failed, account⟩ :=
        rest.account other inIds isRecord
      rw [adds.otherSuccesses other different] at succeeded
      rw [adds.otherFailures other different] at failed
      refine ⟨restSuccesses, restFailures, succeeded, failed, ?_, ?_⟩
      · intro drain drainMember owned
        rcases List.mem_append.mp drainMember with ownMember | restMember
        · exact absurd ((turn.owner drain ownMember).1.symm.trans owned)
            (Ne.symm different)
        · exact account.drained drain restMember owned
      · intro none
        exact account.notDrained fun drain restMember =>
          none drain (List.mem_append_right _ restMember)

theorem Turn.drained
    {requestId : PyString} {ticks : List Tick} {worldAfter : World}
    {successes failures : Nat}
    (isRecord : (get cells cell).isDict = true)
    (adds : Adds cell successes failures live after)
    (accounted : Accounted window requestId ticks successes failures)
    (drains_eq : after.drains =
      live.drains ++ [⟨cell, requestId, ticks, worldAfter⟩]) :
    Turn window cells cell [⟨cell, requestId, ticks, worldAfter⟩] live
      after where
  drains_eq := drains_eq
  owner := by
    intro drain member
    cases List.mem_singleton.mp member
    exact ⟨rfl, isRecord⟩
  account := ⟨successes, failures, adds, fun _ =>
    { drained := by
        intro drain member _
        cases List.mem_singleton.mp member
        exact accounted
      notDrained := fun none =>
        absurd rfl (none _ (List.mem_singleton_self _)) }⟩

/-! ### The cell loop -/

/-- After a send that raised, each remaining cell fails once. -/
theorem failRemaining_ran (distinct : ids.Nodup) :
    Ran window cells ids [] live (failRemaining live ids) := by
  induction ids generalizing live with
  | nil =>
      exact Ran.nil
  | cons cell ids inductionHypothesis =>
      obtain ⟨fresh, restDistinct⟩ := List.nodup_cons.mp distinct
      exact Ran.cons (Turn.counted (Adds.fail live cell _) rfl rfl) fresh
        (inductionHypothesis restDistinct)

/-- The loop over the cells, where it was not interrupted. -/
theorem runCells_ran
    {fuel ordinal : Nat} {runDeadline : Time} {world worldAfter : World}
    (distinct : ids.Nodup)
    (ran : runCells connection config fuel cells runDeadline ordinal ids live
      world = .ok (after, worldAfter))
    (notInterrupted : after.interrupted = false) :
    ∃ drains, Ran config.quiescenceWindow cells ids drains live after := by
  induction ids generalizing ordinal live world with
  | nil =>
      cases ran
      exact ⟨[], Ran.nil⟩
  | cons cell ids inductionHypothesis =>
      obtain ⟨fresh, restDistinct⟩ := List.nodup_cons.mp distinct
      cases runCells_step ran with
      | late message late rest =>
          obtain ⟨drains, rest⟩ := inductionHypothesis restDistinct rest
          exact ⟨[] ++ drains, Ran.cons
            (Turn.counted (Adds.fail live cell _) rfl rfl) fresh rest⟩
      | skipped noRecord rest =>
          obtain ⟨drains, rest⟩ := inductionHypothesis restDistinct rest
          exact ⟨[] ++ drains,
            Ran.cons (Turn.skipped noRecord) fresh rest⟩
      | silent hasRecord derives rest =>
          obtain ⟨drains, rest⟩ := inductionHypothesis restDistinct rest
          exact ⟨[] ++ drains, Ran.cons
            (Turn.counted ((Adds.succeed live cell _).record config _ _)
              rfl (by simp [LiveState.succeed])) fresh rest⟩
      | refused inTime hasRecord derives refused after_eq =>
          rw [after_eq]
          exact ⟨[] ++ [], Ran.cons
            (Turn.counted ((Adds.fail live cell _).record config _ _)
              rfl (by simp [LiveState.fail])) fresh
            (failRemaining_ran restDistinct)⟩
      | interrupted interrupted =>
          rw [interrupted] at notInterrupted
          cases notInterrupted
      | drained inTime hasRecord derives sent drains goesOn settled rest =>
          rename_i drain _ worldDrained
          have isRecord : (get cells cell).isDict = true := by
            rw [hasRecord]
            rfl
          obtain ⟨sameDrains, interrupted |
            ⟨_, ticks, successes, failures, ticksEq, adds, ends⟩⟩ :=
              (drainLoop_run drains).account rfl rfl
          · rw [interrupted] at goesOn
            cases goesOn
          · obtain ⟨settledDrains, _, moreSuccesses, moreFailures, moreAdds,
              accounted⟩ := settleCell_spec settled ends
            obtain ⟨restDrains, rest⟩ := inductionHypothesis restDistinct rest
            rw [List.nil_append] at ticksEq
            refine ⟨[⟨cell, _, ticks, worldDrained⟩] ++ restDrains,
              Ran.cons
                (Turn.drained isRecord
                  ((adds.finishDrain _ _ _).trans moreAdds)
                  accounted ?_) fresh rest⟩
            rw [settledDrains, ← ticksEq, ← sameDrains]
            rfl

/-! ### The whole run -/

/-- The account of every cell of a run that returned. -/
theorem runLiveMode_accounts
    {layoutWalkIds : PyJson → List PyString} {fuel : Nat}
    {notebook rts : List (PyString × PyJson)} {world : World}
    {result : LiveResult World}
    (hasRts : notebookRts notebook = .ok (.dict rts))
    (hasCells : cellRecords rts = .ok cells)
    (hasIds : orderedCellIds layoutWalkIds rts cells = .ok ids)
    (distinct : ids.Nodup)
    (hydrated : (connection.send (hydrateEnvelope (.dict rts)) world).1 =
      .sent)
    (returned : runLiveMode connection config layoutWalkIds fuel notebook
      world = .ok result) :
    (∀ drain ∈ result.drains, drain.cell ∈ ids ∧
      (get cells drain.cell).isDict = true) ∧
    ∀ cell ∈ ids, (get cells cell).isDict = true →
      CellAccount config.quiescenceWindow result.drains cell
        (entriesOf result.succeeded cell) (entriesOf result.failed cell) := by
  unfold runLiveMode at returned
  rw [hasRts] at returned
  obtain ⟨value, isRts, returned⟩ := ok_of_bind returned
  cases isRts
  generalize connection.send (hydrateEnvelope (.dict rts)) world = sent at *
  obtain ⟨outcome, worldSent⟩ := sent
  cases hydrated
  change runHydrated connection config layoutWalkIds fuel notebook rts
    worldSent = .ok result at returned
  unfold runHydrated at returned
  rw [hasCells] at returned
  obtain ⟨_, isCells, returned⟩ := ok_of_bind returned
  cases isCells
  rw [hasIds] at returned
  obtain ⟨_, isIds, returned⟩ := ok_of_bind returned
  cases isIds
  obtain ⟨⟨live, worldAfter⟩, ran, finished⟩ := ok_of_bind returned
  have finishes := finishRun_finishes finished
  obtain ⟨drains, run⟩ := runCells_ran distinct ran finishes.notInterrupted
  have drainsAre : result.drains = drains :=
    finishes.drains.trans run.drains_eq
  rw [drainsAre]
  refine ⟨run.owner, fun cell member isRecord => ?_⟩
  obtain ⟨successes, failures, hasSuccesses, hasFailures, account⟩ :=
    run.account cell member isRecord
  have successesEq : entriesOf result.succeeded cell = successes := by
    rw [finishes.succeeded]
    exact hasSuccesses.trans (Nat.zero_add successes)
  have failuresEq : entriesOf result.failed cell = failures := by
    rw [finishes.failed]
    exact hasFailures.trans (Nat.zero_add failures)
  rw [successesEq, failuresEq]
  exact account

/-- A run counts each of its cells exactly once if and only if no receive of a
drain has raised. -/
theorem countedOnce_iff_noReceiveRaised
    {layoutWalkIds : PyJson → List PyString} {fuel : Nat}
    {notebook rts : List (PyString × PyJson)} {world : World}
    {result : LiveResult World}
    (hasRts : notebookRts notebook = .ok (.dict rts))
    (hasCells : cellRecords rts = .ok cells)
    (hasIds : orderedCellIds layoutWalkIds rts cells = .ok ids)
    (distinct : ids.Nodup)
    (hydrated : (connection.send (hydrateEnvelope (.dict rts)) world).1 =
      .sent)
    (returned : runLiveMode connection config layoutWalkIds fuel notebook
      world = .ok result) :
    (∀ cell ∈ ids, (get cells cell).isDict = true →
      entriesOf result.succeeded cell + entriesOf result.failed cell = 1) ↔
    ∀ drain ∈ result.drains, ¬ Raised drain.ticks := by
  obtain ⟨owner, accounts⟩ :=
    runLiveMode_accounts hasRts hasCells hasIds distinct hydrated returned
  constructor
  · intro once drain member
    obtain ⟨inIds, isRecord⟩ := owner drain member
    have accounted :=
      (accounts drain.cell inIds isRecord).drained drain member rfl
    exact accounted.once_iff.mp (once drain.cell inIds isRecord)
  · intro noneRaised cell inIds isRecord
    have account := accounts cell inIds isRecord
    by_cases someDrain : ∃ drain ∈ result.drains, drain.cell = cell
    · obtain ⟨drain, member, owned⟩ := someDrain
      exact (account.drained drain member owned).once_iff.mpr
        (noneRaised drain member)
    · push Not at someDrain
      exact account.notDrained someDrain

end

/-- A clock that moves on with each reading, sends that succeed, and receives
that follow a script and are empty after it. -/
def scriptedConnection : Connection (Nat × List RecvOutcome) where
  monotonic := fun (now, script) => ((now : Time), (now + 1, script))
  send := fun _ world => (.sent, world)
  recv := fun _ (now, script) =>
    match script with
    | [] => (.value (.dict []), (now, []))
    | outcome :: rest => (outcome, (now, rest))

/-- A minute for each cell and for the run, and a window of a second. -/
def minuteConfig : LiveConfig where
  surroundings := { parseCellArgs := fun _ => none, uuidTail := fun _ => [] }
  sessionId := py "live"
  cellTimeout := 60
  cellTimeoutText := py "60"
  quiescenceWindow := 1
  totalTimeout := 60
  totalTimeoutText := py "60"
  recording := false

/-- The records of a notebook with one cell, which spawns an agent. -/
def spawnCells : List (PyString × PyJson) :=
  [(py "cell", .dict
    [(py "kind", .str (py "spawn")), (py "text", .str (py "task"))])]

def spawnNotebook : List (PyString × PyJson) :=
  [(py "metadata", .dict
    [(py "rts", .dict [(py "cells", .dict spawnCells)])])]

/-- The tallies of the one cell. -/
def spawnTally {World : Type} (result : LiveResult World) : Nat × Nat :=
  (entriesOf result.succeeded (py "cell"),
    entriesOf result.failed (py "cell"))

/-- The only receive of the drain raises: the cell is counted as failed and as
succeeded. -/
theorem receiveRaises_countedTwice :
    ∃ result,
      runLiveMode scriptedConnection minuteConfig (fun _ => []) 3
        spawnNotebook (0, [.raised (py "lost")]) = .ok result ∧
      entriesOf result.succeeded (py "cell") = 1 ∧
      entriesOf result.failed (py "cell") = 1 ∧
      ¬ (∀ cell ∈ [py "cell"], (get spawnCells cell).isDict = true →
        entriesOf result.succeeded cell +
          entriesOf result.failed cell = 1) := by
  obtain ⟨result, returned, tally⟩ :=
    exists_returned
      (runLiveMode scriptedConnection minuteConfig (fun _ => []) 3
        spawnNotebook (0, [.raised (py "lost")]))
      spawnTally (1, 1) (by decide +kernel)
  have succeeded : entriesOf result.succeeded (py "cell") = 1 :=
    congrArg Prod.fst tally
  have failed : entriesOf result.failed (py "cell") = 1 :=
    congrArg Prod.snd tally
  refine ⟨result, returned, succeeded, failed, fun once => ?_⟩
  have atCell := once (py "cell") (List.mem_singleton_self _) rfl
  omega

/-- The only receive of the drain is the reply. -/
theorem countedOnce_iff_noReceiveRaised_reply :
    ∃ result,
      runLiveMode scriptedConnection minuteConfig (fun _ => []) 3
        spawnNotebook
        (0, [.value (.dict [(py "request_id", .str (py "live:0"))])]) =
          .ok result ∧
      ((∀ cell ∈ [py "cell"], (get spawnCells cell).isDict = true →
        entriesOf result.succeeded cell + entriesOf result.failed cell = 1) ↔
      ∀ drain ∈ result.drains, ¬ Raised drain.ticks) := by
  obtain ⟨result, returned, _⟩ :=
    exists_returned
      (runLiveMode scriptedConnection minuteConfig (fun _ => []) 3
        spawnNotebook
        (0, [.value (.dict [(py "request_id", .str (py "live:0"))])]))
      spawnTally (1, 0) (by decide +kernel)
  exact ⟨result, returned, countedOnce_iff_noReceiveRaised rfl rfl rfl
    (by decide) rfl returned⟩

end RtsNotebook.LlmClient
