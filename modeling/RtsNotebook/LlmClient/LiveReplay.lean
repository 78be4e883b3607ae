import RtsNotebook.LlmClient.LiveCounts
import RtsNotebook.LlmClient.LiveLines

/-!
# Recording a live run and replaying it

The replay wants a readable line for each cell of the walk.  A live run writes
one for each cell whose envelope it comes to send, and only for these.  The
counts agree where no receive raised, which counts a cell twice, and where the
frames that the run and the replay read differently make up for each other.
-/

namespace RtsNotebook.LlmClient

open RtsNotebook.Python

section

variable {World : Type} {cell : PyString}

/-! ### The walk -/

/-- The turn of a cell begins in time, and its record has an envelope. -/
structure Ready (connection : Connection World) (config : LiveConfig)
    (cells : List (PyString × PyJson)) (runDeadline : Time) (ordinal : Nat)
    (cell : PyString) (world : World) (envelope : PyJson) : Prop where
  inTime : (connection.monotonic world).1 ≤ runDeadline
  hasEnvelope : ∃ record, get cells cell = .dict record ∧
    deriveCellEnvelope config.surroundings cell record config.sessionId
      ordinal = .ok (some envelope)

/-- The loop comes to sending an envelope for each cell, and each send but the
last is accepted. -/
inductive ShipsEach (connection : Connection World) (config : LiveConfig)
    (fuel : Nat) (cells : List (PyString × PyJson)) (runDeadline : Time) :
    Nat → List PyString → LiveState World → World → Prop where
  | nil {ordinal : Nat} {live : LiveState World} {world : World} :
      ShipsEach connection config fuel cells runDeadline ordinal [] live world
  | refused {ordinal : Nat} {cell : PyString} {live : LiveState World}
      {world worldAfter : World} {envelope : PyJson} {message : PyString}
      (ready : Ready connection config cells runDeadline ordinal cell world
        envelope)
      (refused : connection.send envelope (connection.monotonic world).2 =
        (.raised message, worldAfter)) :
      ShipsEach connection config fuel cells runDeadline ordinal [cell] live
        world
  | sent {ordinal : Nat} {cell : PyString} {remaining : List PyString}
      {live next : LiveState World} {world worldNext : World}
      {envelope : PyJson}
      (ready : Ready connection config cells runDeadline ordinal cell world
        envelope)
      (sent : (connection.send envelope (connection.monotonic world).2).1 =
        .sent)
      (turn : runCells connection config fuel cells runDeadline ordinal [cell]
        live world = .ok (next, worldNext))
      (rest : ShipsEach connection config fuel cells runDeadline (ordinal + 1)
        remaining next worldNext) :
      ShipsEach connection config fuel cells runDeadline ordinal
        (cell :: remaining) live world

variable {connection : Connection World} {config : LiveConfig}
  {cells : List (PyString × PyJson)} {runDeadline : Time} {fuel ordinal : Nat}
  {ids : List PyString} {live next after : LiveState World}
  {world worldNext worldAfter : World} {envelope other : PyJson}

theorem Ready.envelope_eq
    (ready : Ready connection config cells runDeadline ordinal cell world
      envelope)
    (again : Ready connection config cells runDeadline ordinal cell world
      other) :
    other = envelope := by
  obtain ⟨record, hasRecord, derived⟩ := ready.hasEnvelope
  obtain ⟨found, hasFound, derivedAgain⟩ := again.hasEnvelope
  cases hasRecord.symm.trans hasFound
  cases derived.symm.trans derivedAgain
  rfl

theorem ShipsEach.exists_ready
    (ships : ShipsEach connection config fuel cells runDeadline ordinal
      (cell :: ids) live world) :
    ∃ envelope, Ready connection config cells runDeadline ordinal cell world
      envelope := by
  cases ships with
  | refused ready _ => exact ⟨_, ready⟩
  | sent ready _ _ _ => exact ⟨_, ready⟩

/-- After the turn of a cell whose envelope was sent, the rest is to be
shipped. -/
theorem shipsEach_cons_iff
    (ready : Ready connection config cells runDeadline ordinal cell world
      envelope)
    (sent : (connection.send envelope (connection.monotonic world).2).1 =
      .sent)
    (turn : runCells connection config fuel cells runDeadline ordinal [cell]
      live world = .ok (next, worldNext))
    (ids : List PyString) :
    ShipsEach connection config fuel cells runDeadline ordinal (cell :: ids)
        live world ↔
      ShipsEach connection config fuel cells runDeadline (ordinal + 1) ids
        next worldNext := by
  constructor
  · intro ships
    cases ships with
    | refused again refused =>
        rw [ready.envelope_eq again] at refused
        rw [refused] at sent
        cases sent
    | sent _ _ turned rest =>
        cases turn.symm.trans turned
        exact rest
  · exact ShipsEach.sent ready sent turn

theorem not_shipsEach_of_refused
    {message : PyString} {remaining : PyString}
    (ready : Ready connection config cells runDeadline ordinal cell world
      envelope)
    (refused : connection.send envelope (connection.monotonic world).2 =
      (.raised message, worldAfter)) :
    ¬ ShipsEach connection config fuel cells runDeadline ordinal
      (cell :: remaining :: ids) live world := by
  intro ships
  cases ships with
  | sent again sent _ _ =>
      rw [ready.envelope_eq again, refused] at sent
      cases sent

/-- The turn of a cell that is drained and settled. -/
theorem runCells_sent
    {worldSent : World} {drained : LiveState World} {drain : DrainState}
    (ready : Ready connection config cells runDeadline ordinal cell world
      envelope)
    (sent : connection.send envelope (connection.monotonic world).2 =
      (.sent, worldSent))
    (drains : drainLoop connection config cell
      (requestIdOf config.sessionId ordinal)
      ((connection.monotonic worldSent).1 + config.cellTimeout) fuel live
      { quiescenceStart := none
        cellCompleted := false
        receivedForCell := none
        ticks := [] }
      (connection.monotonic worldSent).2 = .ok (drained, drain, worldNext))
    (goesOn : drained.interrupted = false)
    (settled : settleCell config cell ordinal envelope
      (drained.finishDrain cell (requestIdOf config.sessionId ordinal)
        drain.ticks worldNext) drain = .ok next)
    (ids : List PyString) :
    runCells connection config fuel cells runDeadline ordinal (cell :: ids)
        live world =
      runCells connection config fuel cells runDeadline (ordinal + 1) ids next
        worldNext := by
  obtain ⟨record, hasRecord, derived⟩ := ready.hasEnvelope
  rw [runCells]
  dsimp only
  rw [if_neg (not_lt.mpr ready.inTime), hasRecord]
  dsimp only
  rw [bind_of_ok derived]
  dsimp only
  rw [sent]
  dsimp only
  rw [bind_of_ok drains]
  dsimp only
  rw [if_neg (by simp [LiveState.finishDrain, goesOn]), bind_of_ok settled]

/-- What the turn of a cell is, by what the loop does next. -/
inductive CellTurn (connection : Connection World) (config : LiveConfig)
    (fuel : Nat) (cells : List (PyString × PyJson)) (runDeadline : Time)
    (ordinal : Nat) (cell : PyString) (ids : List PyString)
    (live : LiveState World) (world : World) (after : LiveState World)
    (worldAfter : World) : Prop where
  | unrecorded {next : LiveState World} {worldNext : World}
      {successes failures : Nat}
      (notReady : ∀ envelope, ¬ Ready connection config cells runDeadline
        ordinal cell world envelope)
      (tally : Tally live next successes failures [] [])
      (rest : runCells connection config fuel cells runDeadline (ordinal + 1)
        ids next worldNext = .ok (after, worldAfter))
  | unsent {next : LiveState World} {worldNext : World} {line : PyJson}
      {successes failures : Nat}
      (notReady : ∀ envelope, ¬ Ready connection config cells runDeadline
        ordinal cell world envelope)
      (unread : ∀ cell, readEntry cell line = .error .raised)
      (tally : Tally live next successes failures [line] [])
      (rest : runCells connection config fuel cells runDeadline (ordinal + 1)
        ids next worldNext = .ok (after, worldAfter))
  | refused {envelope line : PyJson} {message : PyString}
      {worldRefused : World} {next : LiveState World}
      (ready : Ready connection config cells runDeadline ordinal cell world
        envelope)
      (refused : connection.send envelope (connection.monotonic world).2 =
        (.raised message, worldRefused))
      (tally : Tally live next 0 1 [line] [])
      (balanced : Balanced 0 1 [line] ([] : List (Drain World)))
      (rest : after = failRemaining next ids)
  | sent {envelope line : PyJson} {next : LiveState World}
      {worldNext : World} {drain : Drain World} {successes failures : Nat}
      (ready : Ready connection config cells runDeadline ordinal cell world
        envelope)
      (sent : (connection.send envelope (connection.monotonic world).2).1 =
        .sent)
      (turn : runCells connection config fuel cells runDeadline ordinal [cell]
        live world = .ok (next, worldNext))
      (tally : Tally live next successes failures [line] [drain])
      (balanced : Balanced successes failures [line] [drain])
      (rest : runCells connection config fuel cells runDeadline (ordinal + 1)
        ids next worldNext = .ok (after, worldAfter))

theorem runCells_turn
    (recording : config.recording = true)
    (ran : runCells connection config fuel cells runDeadline ordinal
      (cell :: ids) live world = .ok (after, worldAfter))
    (notInterrupted : after.interrupted = false) :
    CellTurn connection config fuel cells runDeadline ordinal cell ids live
      world after worldAfter := by
  cases runCells_step ran with
  | late message late rest =>
      exact .unrecorded
        (fun envelope ready => absurd ready.inTime (not_le.mpr late))
        (Tally.fail live cell _) rest
  | skipped noRecord rest =>
      refine .unrecorded ?_ (Tally.same rfl rfl rfl rfl) rest
      intro envelope ready
      obtain ⟨record, hasRecord, _⟩ := ready.hasEnvelope
      rw [hasRecord] at noRecord
      cases noRecord
  | silent hasRecord derives rest =>
      refine .unsent ?_ (fun other => readEntry_noneSent other _)
        ((Tally.succeed live cell _).trans
          (Tally.record recording _ .none _)) rest
      intro envelope ready
      obtain ⟨found, hasFound, derivesSome⟩ := ready.hasEnvelope
      cases hasRecord.symm.trans hasFound
      cases derives.symm.trans derivesSome
  | refused inTime hasRecord derives refused after_eq =>
      rename_i message
      obtain ⟨readable, isFailure⟩ := line_syntheticKEnvelope
        (namesNoCell_of_derived derives) cell (py "K_TRANSPORT_LOST") message
      exact .refused ⟨inTime, _, hasRecord, derives⟩ refused
        ((Tally.fail live cell _).trans (Tally.record recording _ _ _))
        (Balanced.refused readable isFailure) after_eq
  | interrupted interrupted =>
      rw [interrupted] at notInterrupted
      cases notInterrupted
  | drained inTime hasRecord derives sent drains goesOn settled rest =>
      rename_i envelope drained next drain worldSent worldDrained
      have ready : Ready connection config cells runDeadline ordinal cell
          world envelope := ⟨inTime, _, hasRecord, derives⟩
      rcases (drainLoop_run drains).tallies rfl rfl with
        interrupted | ⟨ticks, successes, failures, ticksEq, tally, ends⟩
      · rw [interrupted] at goesOn
        cases goesOn
      · rw [List.nil_append] at ticksEq
        obtain ⟨_, settlement⟩ := settleCell_cases recording settled
        obtain ⟨moreSuccesses, moreFailures, line, moreTally, balanced⟩ :=
          ends.settled settlement (namesNoCell_of_derived derives)
            worldDrained
        have turn := runCells_sent ready sent drains goesOn settled
        rw [← ticksEq] at balanced
        exact .sent ready (by rw [sent]) (turn [])
          ((tally.trans (Tally.finishDrain drained cell _ drain.ticks
            worldDrained)).trans moreTally) balanced rest

theorem failRemaining_tally (live : LiveState World) (ids : List PyString) :
    Tally live (failRemaining live ids) 0 ids.length [] [] := by
  induction ids generalizing live with
  | nil =>
      exact Tally.same rfl rfl rfl rfl
  | cons cell ids inductionHypothesis =>
      have tally := (Tally.fail live cell
        (syntheticKEnvelope cell (py "K_TRANSPORT_LOST")
          (py "connection closed"))).trans (inductionHypothesis _)
      rwa [Nat.add_comm 1] at tally

/-- What is recorded over a walk, by whether each cell is shipped. -/
inductive Scribed (ships : Prop) (count successes failures : Nat)
    (lines : List PyJson) (drains : List (Drain World)) : Prop where
  | whole (shipped : ships) (length_eq : lines.length = count)
      (balanced : Balanced successes failures lines drains)
  | short (notShipped : ¬ ships) (fewer : lines.length < count)
  | unread (notShipped : ¬ ships) {line : PyJson} (member : line ∈ lines)
      (unread : ∀ cell, readEntry cell line = .error .raised)

/-- The loop over the cells, where it was not interrupted. -/
theorem runCells_scribed
    (recording : config.recording = true)
    (ran : runCells connection config fuel cells runDeadline ordinal ids live
      world = .ok (after, worldAfter))
    (notInterrupted : after.interrupted = false) :
    ∃ successes failures lines drains,
      Tally live after successes failures lines drains ∧
      lines.length ≤ ids.length ∧
      Scribed (ShipsEach connection config fuel cells runDeadline ordinal ids
        live world) ids.length successes failures lines drains := by
  induction ids generalizing ordinal live world with
  | nil =>
      cases ran
      exact ⟨0, 0, [], [], Tally.same rfl rfl rfl rfl, le_rfl,
        .whole .nil rfl ⟨by simp, rfl, rfl⟩⟩
  | cons cell ids inductionHypothesis =>
      cases runCells_turn recording ran notInterrupted with
      | unrecorded notReady tally rest =>
          obtain ⟨successes, failures, lines, drains, restTally, fits, _⟩ :=
            inductionHypothesis rest
          refine ⟨_, _, _, _, tally.trans restTally, ?_, .short ?_ ?_⟩
          · exact Nat.le_succ_of_le fits
          · intro ships
            obtain ⟨envelope, ready⟩ := ships.exists_ready
            exact notReady envelope ready
          · exact Nat.lt_succ_of_le fits
      | unsent notReady unread tally rest =>
          obtain ⟨successes, failures, lines, drains, restTally, fits, _⟩ :=
            inductionHypothesis rest
          refine ⟨_, _, _, _, tally.trans restTally, ?_,
            .unread ?_ List.mem_cons_self unread⟩
          · exact Nat.succ_le_succ fits
          · intro ships
            obtain ⟨envelope, ready⟩ := ships.exists_ready
            exact notReady envelope ready
      | refused ready refused tally balanced rest =>
          have whole := tally.trans (failRemaining_tally _ ids)
          rw [← rest] at whole
          cases ids with
          | nil =>
              exact ⟨_, _, _, _, whole, le_rfl,
                .whole (.refused ready refused) rfl balanced⟩
          | cons remaining ids =>
              exact ⟨_, _, _, _, whole, by simp,
                .short (not_shipsEach_of_refused ready refused) (by simp)⟩
      | sent ready sent turn tally balanced rest =>
          obtain ⟨successes, failures, lines, drains, restTally, fits,
            scribed⟩ := inductionHypothesis rest
          have ships_iff := shipsEach_cons_iff ready sent turn ids
          refine ⟨_, _, _, _, tally.trans restTally,
            Nat.succ_le_succ fits, ?_⟩
          cases scribed with
          | whole shipped length_eq restBalanced =>
              exact .whole (ships_iff.mpr shipped)
                (congrArg Nat.succ length_eq) (balanced.append restBalanced)
          | short notShipped fewer =>
              exact .short (mt ships_iff.mp notShipped)
                (Nat.succ_lt_succ fewer)
          | unread notShipped member unread =>
              exact .unread (mt ships_iff.mp notShipped)
                (List.mem_cons_of_mem _ member) unread

/-! ### The replay of the lines -/

theorem replayEntries_readable
    {lines : List PyJson} (readable : ∀ line ∈ lines, Readable line)
    (length_eq : lines.length = ids.length) (outcomes : CellOutcomes) :
    ∃ replayed, replayEntries (ids.zip lines) outcomes = .ok replayed ∧
      replayed.succeeded.length =
        outcomes.succeeded.length + lines.countP lineOk ∧
      replayed.succeeded.length + replayed.failed.length =
        outcomes.succeeded.length + outcomes.failed.length +
          lines.length := by
  induction ids generalizing lines outcomes with
  | nil =>
      cases List.length_eq_zero_iff.mp length_eq
      exact ⟨outcomes, rfl, by simp, by simp⟩
  | cons cell ids inductionHypothesis =>
      cases lines with
      | nil => cases length_eq
      | cons line lines =>
          obtain ⟨received, payload, read, isOk⟩ :=
            (readable line List.mem_cons_self).readEntry cell
          obtain ⟨replayed, replays, succeeded, total⟩ := inductionHypothesis
            (fun other member => readable other
              (List.mem_cons_of_mem _ member))
            (Nat.succ.inj length_eq)
            (outcomes.settle cell received payload)
          refine ⟨replayed, ?_, ?_, ?_⟩
          · rw [List.zip_cons_cons]
            unfold replayEntries
            rw [bind_of_ok read]
            exact replays
          · rw [succeeded, List.countP_cons, ← isOk]
            unfold CellOutcomes.settle
            cases readsOk payload <;> simp
            omega
          · rw [total, List.length_cons]
            unfold CellOutcomes.settle
            cases readsOk payload <;> simp <;> omega

theorem exists_read_of_replayEntries
    {pairs : List (PyString × PyJson)} {outcomes replayed : CellOutcomes}
    (replays : replayEntries pairs outcomes = .ok replayed) :
    ∀ pair ∈ pairs, ∃ read, readEntry pair.1 pair.2 = .ok read := by
  induction pairs generalizing outcomes with
  | nil => simp
  | cons first rest inductionHypothesis =>
      obtain ⟨cell, line⟩ := first
      unfold replayEntries at replays
      obtain ⟨read, reads, replays⟩ := ok_of_bind replays
      intro pair member
      rcases List.mem_cons.mp member with rfl | inRest
      · exact ⟨read, reads⟩
      · exact inductionHypothesis replays pair inRest

/-- The replay counts as the run has counted. -/
def SameCounts (layoutWalkIds : PyJson → List PyString)
    (notebook : List (PyString × PyJson)) (lines : List PyJson)
    (successes failures : Nat) : Prop :=
  ∃ replayed, runReplayMode layoutWalkIds notebook lines = .ok replayed ∧
    replayed.succeeded.length = successes ∧
    replayed.failed.length = failures

variable {layoutWalkIds : PyJson → List PyString}
  {notebook : List (PyString × PyJson)}

theorem sameCounts_iff
    {lines : List PyJson} {successes failures : Nat}
    (walked : walkNotebook layoutWalkIds notebook = .ok (cells, ids)) :
    SameCounts layoutWalkIds notebook lines successes failures ↔
      lines.length = ids.length ∧
      ∃ replayed,
        replayEntries (ids.zip lines)
            { cells := cells, succeeded := [], failed := [] } =
          .ok replayed ∧
        replayed.succeeded.length = successes ∧
        replayed.failed.length = failures := by
  unfold SameCounts runReplayMode
  rw [bind_of_ok (otherwise_eq_ok.mpr walked)]
  dsimp only
  by_cases sameLength : lines.length = ids.length
  · rw [if_neg (not_not.mpr sameLength)]
    simp only [sameLength, true_and]
    cases replays : replayEntries (ids.zip lines)
        { cells := cells, succeeded := [], failed := [] } with
    | error stop =>
        constructor <;> rintro ⟨replayed, equal, _⟩ <;> cases equal
    | ok outcomes =>
        constructor
        · rintro ⟨replayed, equal, succeeded, failed⟩
          cases equal
          exact ⟨outcomes, rfl, succeeded, failed⟩
        · rintro ⟨replayed, equal, succeeded, failed⟩
          cases equal
          exact ⟨_, rfl, succeeded, failed⟩
  · rw [if_pos sameLength]
    simp [sameLength]

/-- What was recorded over the walk is replayed with the same counts if and
only if each cell was shipped, no receive raised and the frames that are read
otherwise make up for each other. -/
theorem Scribed.sameCounts_iff
    {ships : Prop} {successes failures : Nat} {lines : List PyJson}
    {drains : List (Drain World)}
    (scribed : Scribed ships ids.length successes failures lines drains)
    (walked : walkNotebook layoutWalkIds notebook = .ok (cells, ids)) :
    SameCounts layoutWalkIds notebook lines successes failures ↔
      ships ∧ (∀ drain ∈ drains, ¬ Raised drain.ticks) ∧
        drains.countP Drain.misreadOk =
          drains.countP Drain.misreadFailed := by
  rw [LlmClient.sameCounts_iff walked]
  cases scribed with
  | whole shipped length_eq balanced =>
      obtain ⟨replayed, replays, succeeded, total⟩ :=
        replayEntries_readable balanced.readable length_eq
          { cells := cells, succeeded := [], failed := [] }
      simp only [List.length_nil, Nat.zero_add] at succeeded total
      have successes_eq := balanced.successes_eq
      have total_eq := balanced.total_eq
      have noneRaised : drains.countP Drain.receiveRaised = 0 ↔
          ∀ drain ∈ drains, ¬ Raised drain.ticks := by
        rw [List.countP_eq_zero]
        exact forall₂_congr fun drain _ => not_congr (receiveRaised_iff drain)
      rw [← noneRaised]
      constructor
      · rintro ⟨_, again, replaysAgain, sameSucceeded, sameFailed⟩
        cases replays.symm.trans replaysAgain
        exact ⟨shipped, by omega, by omega⟩
      · rintro ⟨_, noRaise, sameMisreads⟩
        exact ⟨length_eq, replayed, replays, by omega, by omega⟩
  | short notShipped fewer =>
      constructor
      · rintro ⟨length_eq, _⟩
        omega
      · rintro ⟨shipped, _⟩
        exact absurd shipped notShipped
  | unread notShipped member unread =>
      rename_i line
      constructor
      · rintro ⟨length_eq, replayed, replays, _⟩
        have inMap : line ∈ (ids.zip lines).map Prod.snd := by
          rw [List.map_snd_zip (le_of_eq length_eq)]
          exact member
        obtain ⟨pair, inZip, isLine⟩ := List.mem_map.mp inMap
        obtain ⟨read, reads⟩ :=
          exists_read_of_replayEntries replays pair inZip
        rw [isLine, unread pair.1] at reads
        cases reads
      · rintro ⟨shipped, _⟩
        exact absurd shipped notShipped

/-! ### The whole run -/

/-- The state in which the cell loop begins. -/
def LiveState.start (rts : List (PyString × PyJson)) : LiveState World :=
  { succeeded := []
    failed := []
    sentReceived := []
    workingRts := rts
    interrupted := false
    drains := [] }

/-- The hydrate envelope is sent, and then each cell of the walk is
shipped. -/
def ShipsWalk (connection : Connection World) (config : LiveConfig)
    (layoutWalkIds : PyJson → List PyString) (fuel : Nat)
    (notebook : List (PyString × PyJson)) (world : World) : Prop :=
  ∃ rts cells ids worldSent,
    notebookRts notebook = .ok (.dict rts) ∧
    cellRecords rts = .ok cells ∧
    orderedCellIds layoutWalkIds rts cells = .ok ids ∧
    connection.send (hydrateEnvelope (.dict rts)) world =
      (.sent, worldSent) ∧
    ShipsEach connection config fuel cells
      ((connection.monotonic worldSent).1 + config.totalTimeout) 0 ids
      (LiveState.start rts) (connection.monotonic worldSent).2

theorem walkNotebook_of_hydrated
    {metadata found rts : List (PyString × PyJson)} {value : PyJson}
    (hasMetadata : (getD notebook (py "metadata") (.dict [])).items? =
      .ok metadata)
    (hasFound : (getD metadata (py "rts") (.dict [])).items? = .ok found)
    (hasRts : notebookRts notebook = .ok value)
    (isRts : value.items? = .ok rts)
    (hasCells : cellRecords rts = .ok cells)
    (hasIds : orderedCellIds layoutWalkIds rts cells = .ok ids) :
    value = .dict rts ∧
      walkNotebook layoutWalkIds notebook = .ok (cells, ids) := by
  unfold notebookRts at hasRts
  rw [bind_of_ok hasMetadata] at hasRts
  have foundIs : getD metadata (py "rts") (.dict []) = .dict found := by
    cases held : getD metadata (py "rts") (.dict []) with
    | dict items =>
        rw [held] at hasFound
        cases hasFound
        rfl
    | _ =>
        rw [held] at hasFound
        cases hasFound
  rw [foundIs] at hasRts
  have same : value = .dict found := by
    cases hasRts
    cases found <;> rfl
  rw [same] at isRts
  cases isRts
  refine ⟨same, ?_⟩
  unfold walkNotebook
  rw [bind_of_ok hasMetadata, bind_of_ok hasFound, bind_of_ok hasCells,
    bind_of_ok hasIds]
  rfl

/-- The replay of what a run has recorded, over the notebook of the run,
counts as the run has counted. -/
def ReplaysSame (layoutWalkIds : PyJson → List PyString)
    (notebook : List (PyString × PyJson)) (result : LiveResult World) :
    Prop :=
  ∃ lines, result.recorded = some lines ∧
    SameCounts layoutWalkIds notebook lines result.succeeded.length
      result.failed.length

/-- A run that could not send the hydrate envelope has failed once, and its
recording is empty. -/
theorem not_sameCounts_empty :
    ¬ SameCounts layoutWalkIds notebook [] 0 1 := by
  rintro ⟨replayed, replays, succeeded, failed⟩
  unfold runReplayMode at replays
  obtain ⟨⟨cells, ids⟩, _, replays⟩ := ok_of_bind replays
  dsimp only at replays
  split at replays
  · cases replays
  · rw [List.zip_nil_right] at replays
    cases replays
    cases failed

/-- A recorded run that returned is replayed with the same counts if and only
if each cell was shipped, no receive of a drain raised, and as many cells were
completed by frames with a `k_code` and the status of a success as by frames
without one and another status. -/
theorem replaysSame_iff
    {result : LiveResult World}
    (recording : config.recording = true)
    (returned : runLiveMode connection config layoutWalkIds fuel notebook
      world = .ok result) :
    ReplaysSame layoutWalkIds notebook result ↔
      ShipsWalk connection config layoutWalkIds fuel notebook world ∧
        (∀ drain ∈ result.drains, ¬ Raised drain.ticks) ∧
        result.drains.countP Drain.misreadOk =
          result.drains.countP Drain.misreadFailed := by
  unfold runLiveMode at returned
  obtain ⟨value, hasRts, returned⟩ := ok_of_bind returned
  split at returned
  · cases returned
  · -- The hydrate envelope was not sent.
    rename_i message worldRefused refused
    cases returned
    constructor
    · rintro ⟨lines, hasLines, same⟩
      rw [if_pos recording] at hasLines
      cases hasLines
      exact absurd same not_sameCounts_empty
    · rintro ⟨⟨rts, cells, ids, worldSent, hasDict, _, _, sent, _⟩, _⟩
      cases hasRts.symm.trans hasDict
      rw [refused] at sent
      cases sent
  · rename_i worldSent sent
    obtain ⟨rts, isRts, returned⟩ := ok_of_bind returned
    unfold runHydrated at returned
    obtain ⟨cells, hasCells, returned⟩ := ok_of_bind returned
    obtain ⟨ids, hasIds, returned⟩ := ok_of_bind returned
    obtain ⟨⟨live, worldAfter⟩, ran, finished⟩ := ok_of_bind returned
    have finishes := finishRun_finishes finished
    obtain ⟨metadata, found, hasMetadata, hasFound⟩ := finishes.hasRts
    obtain ⟨valueEq, walked⟩ := walkNotebook_of_hydrated hasMetadata hasFound
      hasRts isRts hasCells hasIds
    obtain ⟨successes, failures, lines, ownDrains, tally, _, scribed⟩ :=
      runCells_scribed recording ran finishes.notInterrupted
    have ships_iff : ShipsWalk connection config layoutWalkIds fuel notebook
        world ↔
        ShipsEach connection config fuel cells
          ((connection.monotonic worldSent).1 + config.totalTimeout) 0 ids
          (LiveState.start rts) (connection.monotonic worldSent).2 := by
      constructor
      · rintro ⟨foundRts, foundCells, foundIds, foundWorld, isDict,
          areCells, areIds, wasSent, ships⟩
        cases (hasRts.symm.trans isDict).symm.trans (congrArg _ valueEq)
        cases hasCells.symm.trans areCells
        cases hasIds.symm.trans areIds
        rw [← valueEq, sent] at wasSent
        cases wasSent
        exact ships
      · intro ships
        exact ⟨rts, cells, ids, worldSent, valueEq ▸ hasRts, hasCells,
          hasIds, valueEq ▸ sent, ships⟩
    have succeededEq : result.succeeded.length = successes := by
      rw [finishes.succeeded, tally.succeeded]
      exact Nat.zero_add successes
    have failedEq : result.failed.length = failures := by
      rw [finishes.failed, tally.failed]
      exact Nat.zero_add failures
    have linesEq : live.sentReceived = lines := tally.lines_eq
    have drainsEq : result.drains = ownDrains :=
      finishes.drains.trans tally.drains_eq
    rw [ships_iff, drainsEq]
    refine Iff.trans ?_ (scribed.sameCounts_iff walked)
    unfold ReplaysSame
    rw [finishes.recorded, if_pos recording, succeededEq, failedEq, linesEq]
    simp

end

/-! ### A markdown cell, and an agent -/

/-- A minute for each cell and for the run, with a recording. -/
def recordingConfig : LiveConfig :=
  { minuteConfig with recording := true }

/-- A notebook with one cell, which has no envelope. -/
def markdownNotebook : List (PyString × PyJson) :=
  [(py "metadata", .dict
    [(py "rts", .dict
      [(py "cells", .dict
        [(py "cell", .dict [(py "kind", .str (py "markdown"))])])])])]

/-- Whether the recording of a run is replayed over a notebook. -/
def replays {World : Type} (notebook : List (PyString × PyJson))
    (result : LiveResult World) : Option Bool :=
  result.recorded.map fun lines =>
    (runReplayMode (fun _ => []) notebook lines).isOk

/-- A cell without an envelope is recorded with nothing sent, and the replay
raises. -/
theorem markdownCell_notReplayed :
    ∃ result,
      runLiveMode scriptedConnection recordingConfig (fun _ => []) 3
        markdownNotebook (0, []) = .ok result ∧
      ¬ ReplaysSame (fun _ => []) markdownNotebook result := by
  obtain ⟨result, returned, known⟩ := exists_returned
    (runLiveMode scriptedConnection recordingConfig (fun _ => []) 3
      markdownNotebook (0, []))
    (replays markdownNotebook) (some false) (by decide +kernel)
  refine ⟨result, returned, ?_⟩
  rintro ⟨lines, recorded, replayed, replay, _⟩
  unfold replays at known
  rw [recorded, Option.map_some, replay] at known
  cases known

/-- The only receive of the drain is the reply. -/
theorem replaysSame_iff_reply :
    ∃ result,
      runLiveMode scriptedConnection recordingConfig (fun _ => []) 3
        spawnNotebook
        (0, [.value (.dict [(py "request_id", .str (py "live:0"))])]) =
          .ok result ∧
      (ReplaysSame (fun _ => []) spawnNotebook result ↔
        ShipsWalk scriptedConnection recordingConfig (fun _ => []) 3
            spawnNotebook
            (0, [.value (.dict [(py "request_id", .str (py "live:0"))])]) ∧
          (∀ drain ∈ result.drains, ¬ Raised drain.ticks) ∧
          result.drains.countP Drain.misreadOk =
            result.drains.countP Drain.misreadFailed) := by
  obtain ⟨result, returned, _⟩ := exists_returned
    (runLiveMode scriptedConnection recordingConfig (fun _ => []) 3
      spawnNotebook
      (0, [.value (.dict [(py "request_id", .str (py "live:0"))])]))
    spawnTally (1, 0) (by decide +kernel)
  exact ⟨result, returned, replaysSame_iff rfl returned⟩

end RtsNotebook.LlmClient
