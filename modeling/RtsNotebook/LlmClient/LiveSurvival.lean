import Mathlib.Algebra.Order.Field.Rat
import Mathlib.Tactic.Linarith
import RtsNotebook.LlmClient.LiveChecks
import RtsNotebook.LlmClient.LiveReplay

/-!
# What a live run survives

A live run ends with its result, or with a `KeyboardInterrupt`, and with the
lines that were asked for if and only if all its checks pass.  That it ends at
all is the clock's: a receive takes some time.
-/

namespace RtsNotebook.LlmClient

open RtsNotebook.Library RtsNotebook.Python

theorem returns_items? (value : PyJson) :
    Returns value.items? ↔ value.isDict = true := by
  cases value with
  | dict items => exact iff_of_true (returns_ok items) rfl
  | none => simp [PyJson.items?, PyJson.isDict]
  | bool value => simp [PyJson.items?, PyJson.isDict]
  | int value => simp [PyJson.items?, PyJson.isDict]
  | float value => simp [PyJson.items?, PyJson.isDict]
  | str value => simp [PyJson.items?, PyJson.isDict]
  | list items => simp [PyJson.items?, PyJson.isDict]

section

variable {World : Type}

theorem not_allPass_escape : ¬ AllPass Check.passes [.escape] :=
  fun passes => absurd ((allPass_single _ _).mp passes) Bool.false_ne_true

/-- A clock that does not go back, and receives that take some time. -/
structure Connection.Paced (connection : Connection World)
    (quantum : Time) : Prop where
  positive : 0 < quantum
  steady : ∀ world, (connection.monotonic world).1 ≤
    (connection.monotonic (connection.monotonic world).2).1
  advances : ∀ timeout world, (connection.monotonic world).1 + quantum ≤
    (connection.monotonic
      (connection.recv timeout (connection.monotonic world).2).2).1

/-- The run ends with its result or with a `KeyboardInterrupt`, and a recording
that was asked for is written. -/
def Survives (config : LiveConfig)
    (outcome : Except Stop (LiveEnd World)) : Prop :=
  EndsIn (fun ending => config.recording = true →
    ending.recorded.isSome = true) outcome

variable {connection : Connection World} {config : LiveConfig}
  {cell requestId : PyString} {quantum : Time} {live : LiveState World}
  {drain : DrainState} {world : World} {reply : PyJson}

/-! ### Frames -/

theorem returns_replyPayload (items : List (PyString × PyJson)) :
    Returns (replyPayload items) ↔ hasPayload items = true :=
  returns_items? _

/-- A frame that fits is taken, and completes the cell where it should. -/
theorem takeReply_of_fits (fits : fitsDrain reply = true)
    (live : LiveState World) (drain : DrainState) :
    ∃ after drainAfter,
      takeReply cell requestId reply live drain = .ok (after, drainAfter) ∧
        drainAfter.cellCompleted =
          (completes cell requestId reply || drain.cellCompleted) ∧
        drainAfter.quiescenceStart = none := by
  cases reply with
  | dict items =>
      obtain ⟨payload, isPayload, _⟩ := (returns_replyPayload items).mpr fits
      have payloadEq : (get items (py "payload")).orElse (.dict []) =
          .dict payload := by
        rw [replyPayload] at isPayload
        cases held : (get items (py "payload")).orElse (.dict []) with
        | dict found =>
            rw [held] at isPayload
            exact congrArg PyJson.dict (Except.ok.inj isPayload)
        | none => rw [held] at isPayload; cases isPayload
        | bool value => rw [held] at isPayload; cases isPayload
        | int value => rw [held] at isPayload; cases isPayload
        | float value => rw [held] at isPayload; cases isPayload
        | str value => rw [held] at isPayload; cases isPayload
        | list found => rw [held] at isPayload; cases isPayload
      have taken : takeReply cell requestId (.dict items) live drain =
          (replyPayload items >>= fun payload =>
            let live := live.seeSnapshot items payload
            let drain := { drain with quiescenceStart := none }
            if isCorrelated requestId items payload then
              pure (if (get payload (py "k_code")).truthy then
                  live.fail cell (.dict items)
                else live.succeed cell (.dict items),
                drain.complete (.dict items))
            else if isKeyedFailure cell payload then
              pure (live.fail cell (.dict items),
                drain.complete (.dict items))
            else
              pure (live, drain)) := rfl
      rw [taken, bind_of_ok isPayload, completes, payloadEq]
      dsimp only
      by_cases correlated : isCorrelated requestId items payload = true
      · rw [if_pos correlated, correlated]
        exact ⟨_, _, rfl, rfl, rfl⟩
      · rw [if_neg correlated, Bool.eq_false_of_not_eq_true correlated]
        by_cases keyed : isKeyedFailure cell payload = true
        · rw [if_pos keyed, keyed]
          exact ⟨_, _, rfl, rfl, rfl⟩
        · rw [if_neg keyed, Bool.eq_false_of_not_eq_true keyed]
          exact ⟨_, _, rfl, rfl, rfl⟩
  | none => cases fits
  | bool value => cases fits
  | int value => cases fits
  | float value => cases fits
  | str value => cases fits
  | list items => cases fits

theorem not_returns_takeReply (unfit : ¬ fitsDrain reply = true) :
    ¬ Returns (takeReply cell requestId reply live drain) := by
  rintro ⟨⟨after, drainAfter⟩, took, _⟩
  obtain ⟨items, payload, rfl, isPayload, _⟩ := takeReply_takes took
  exact unfit ((returns_replyPayload items).mp ⟨payload, isPayload, trivial⟩)

/-! ### The drain of a cell -/

/-- A turn of a loop uses up one quantum of what is left. -/
theorem enough_after {deadline now : Time} {fuel : Nat} {outcome : RecvOutcome}
    {later next : World} (paced : connection.Paced quantum)
    (enough : deadline ≤
      (connection.monotonic world).1 + (fuel + 1 : Nat) * quantum)
    (clock : connection.monotonic world = (now, later))
    (received : connection.recv (1 / 10) later = (outcome, next)) :
    deadline ≤ (connection.monotonic next).1 + fuel * quantum := by
  have advances := paced.advances (1 / 10) world
  rw [clock, received] at advances
  rw [clock, Nat.cast_add, Nat.cast_one, add_mul, one_mul] at enough
  linarith

/-- The drain loop of a cell returns if and only if its checks pass. -/
theorem returns_drainLoop (paced : connection.Paced quantum)
    {cellDeadline : Time} {fuel : Nat}
    (enough : cellDeadline ≤ (connection.monotonic world).1 + fuel * quantum)
    (goesOn : drain.cellCompleted = false) :
    Returns (drainLoop connection config cell requestId cellDeadline
        (fuel + 1) live drain world) ↔
      AllPass Check.passes (drainChecks connection config.quiescenceWindow cell requestId
        cellDeadline (fuel + 1) drain.quiescenceStart world) := by
  obtain ⟨monotonic, send, recv⟩ := connection
  induction fuel generalizing live drain world with
  | zero =>
      rw [Nat.cast_zero, zero_mul, add_zero] at enough
      rw [drainLoop, drainChecks]
      dsimp only
      rw [if_neg (not_lt.mpr enough), if_neg (not_lt.mpr enough)]
      simp
  | succ fuel inductionHypothesis =>
      rcases clock : monotonic world with ⟨now, later⟩
      rcases received : recv (1 / 10) later with ⟨outcome, next⟩
      rcases second : monotonic next with ⟨reading, last⟩
      have enoughNext : cellDeadline ≤ (monotonic next).1 + fuel * quantum :=
        enough_after paced enough clock received
      have enoughLast : cellDeadline ≤ (monotonic last).1 + fuel * quantum := by
        have steady : (monotonic next).1 ≤ (monotonic (monotonic next).2).1 :=
          paced.steady next
        rw [second] at steady enoughNext
        linarith
      rw [drainLoop, drainChecks]
      simp only [clock, received, second]
      by_cases inTime : now < cellDeadline
      · rw [if_pos inTime, if_pos inTime]
        cases outcome with
        | escaped =>
            exact iff_of_false (not_returns_error _) not_allPass_escape
        | keyboardInterrupt => simp
        | raised message => simp
        | value reply =>
            simp only [second]
            by_cases truthy : reply.truthy = true
            · rw [if_pos truthy, if_pos truthy, allPass_cons]
              by_cases fits : fitsDrain reply = true
              · obtain ⟨after, drainAfter, took, completedEq, startEq⟩ :=
                  @takeReply_of_fits World cell requestId reply fits live
                    { drain with
                      ticks := drain.ticks ++ [⟨.value reply, none⟩] }
                rw [goesOn, Bool.or_false] at completedEq
                rw [bind_of_ok took, ← completedEq]
                refine Iff.trans ?_ (and_iff_right fits).symm
                by_cases completed : drainAfter.cellCompleted = true
                · rw [if_pos completed, if_pos completed]
                  exact iff_of_true (returns_ok _) allPass_nil
                · rw [if_neg completed, if_neg completed, ← startEq]
                  exact inductionHypothesis
                    (Bool.eq_false_of_not_eq_true completed) enoughNext
              · exact iff_of_false
                  (not_endsIn_bind (not_returns_takeReply fits))
                  fun passes => fits passes.1
            · rw [if_neg truthy, if_neg truthy]
              cases start : drain.quiescenceStart with
              | none =>
                  exact inductionHypothesis goesOn enoughLast
              | some first =>
                  dsimp only
                  by_cases full : config.quiescenceWindow ≤ reading - first
                  · rw [if_pos full, if_pos full]
                    simp
                  · rw [if_neg full, if_neg full, ← start]
                    exact inductionHypothesis goesOn enoughLast
      · rw [if_neg inTime, if_neg inTime]
        simp

/-! ### The turn of a cell -/

theorem returns_quietOutputs (workingRts : List (PyString × PyJson))
    (cell : PyString) :
    Returns (quietOutputs workingRts cell) ↔
      (getD workingRts (py "cells") (.dict [])).isDict = true := by
  rw [← returns_items?]
  refine returns_then fun cells => ?_
  split
  · split
    · exact returns_ok _
    · exact returns_ok _
  · exact returns_ok _

theorem returns_settleCell (ordinal : Nat) (envelope : PyJson)
    (live : LiveState World) (drain : DrainState) :
    Returns (settleCell config cell ordinal envelope live drain) ↔
      AllPass Check.passes (settleChecks live drain) := by
  rw [settleCell, settleChecks]
  cases completed : drain.cellCompleted with
  | false => simp
  | true =>
      cases received : drain.receivedForCell with
      | some reply => simp
      | none =>
          have quiet : AllPass Check.passes [.quiet live.workingRts] ↔
              Returns (quietOutputs live.workingRts cell) := by
            rw [returns_quietOutputs, allPass_cons]
            exact and_iff_left allPass_nil
          exact (returns_then fun outputs => returns_ok _).trans quiet.symm

theorem returns_deriveCellEnvelope (surroundings : Surroundings)
    (record : List (PyString × PyJson)) (sessionId : PyString)
    (ordinal : Nat) :
    Returns (deriveCellEnvelope surroundings cell record sessionId ordinal) ↔
      isDerivable record = true := by
  rw [deriveCellEnvelope, isDerivable]
  dsimp only
  cases (get record (py "kind")).orElse (.str []) with
  | str kindText =>
      dsimp only
      generalize (getD record (py "text") (.str [])).orElse (.str []) = text
      by_cases spawns : lower kindText = py "spawn"
      · rw [if_pos spawns]
        cases text <;> simp [spawns, PyJson.str?]
      · rw [if_neg spawns]
        by_cases continues : lower kindText = py "agent" ∧
            (get record (py "bound_agent_id")).truthy = true
        · rw [if_pos continues]
          cases text <;> simp [continues, PyJson.str?]
        · rw [if_neg continues]
          refine iff_of_true ?_ (by simp [spawns, continues])
          -- A section without a title is passed over, and so is any other kind.
          repeat' split
          all_goals exact returns_ok _
  | _ => exact iff_of_false (not_returns_error _) Bool.false_ne_true

/-! ### The loop over the cells -/

theorem returns_runCells (paced : connection.Paced quantum) {fuel : Nat}
    (enough : config.cellTimeout ≤ fuel * quantum)
    (cells : List (PyString × PyJson)) (runDeadline : Time) (ordinal : Nat)
    (ids : List PyString) (live : LiveState World) (world : World) :
    Returns (runCells connection config (fuel + 1) cells runDeadline ordinal
        ids live world) ↔
      AllPass Check.passes (runChecks connection config (fuel + 1) cells runDeadline
        ordinal ids live world) := by
  obtain ⟨monotonic, send, recv⟩ := connection
  induction ids generalizing ordinal live world with
  | nil => exact iff_of_true (returns_ok _) allPass_nil
  | cons cell remaining inductionHypothesis =>
      rcases clock : monotonic world with ⟨now, later⟩
      rw [runCells, runChecks]
      simp only [clock]
      by_cases late : runDeadline < now
      · rw [if_pos late, if_pos late]
        exact inductionHypothesis _ _ _
      · rw [if_neg late, if_neg late]
        cases get cells cell with
        | dict record =>
            have derives := @returns_deriveCellEnvelope cell
              config.surroundings record config.sessionId ordinal
            refine endsIn_after (derives.trans (allPass_single Check.passes (.record record)).symm)
              fun found _ => ?_
            cases found with
            | none => exact inductionHypothesis _ _ _
            | some envelope =>
                rcases shipped : send envelope later with ⟨outcome, sent⟩
                rcases second : monotonic sent with ⟨reading, started⟩
                have enoughStarted : reading + config.cellTimeout ≤
                    (monotonic started).1 + fuel * quantum := by
                  have steady : (monotonic sent).1 ≤
                      (monotonic (monotonic sent).2).1 := paced.steady sent
                  rw [second] at steady
                  linarith
                dsimp only
                rw [shipped]
                cases outcome with
                | escaped =>
                    exact iff_of_false (not_returns_error _)
                      not_allPass_escape
                | raised message =>
                    exact iff_of_true (returns_ok _) allPass_nil
                | sent =>
                    simp only [second]
                    refine endsIn_after
                      (returns_drainLoop paced enoughStarted rfl)
                      fun result _ => ?_
                    obtain ⟨drained, drain, last⟩ := result
                    dsimp only
                    split
                    · exact iff_of_true (returns_ok _) allPass_nil
                    · exact endsIn_after (returns_settleCell _ _ _ _)
                        fun next _ => inductionHypothesis _ _ _
        | _ => exact inductionHypothesis _ _ _

/-! ### The end of the run -/

/-- A frame that fits is taken by the trailing drain, whatever it holds. -/
theorem returns_tailFrame {Result : Type}
    {rest : List (PyString × PyJson) → Except Stop Result}
    {other : Except Stop Result} {checks : List Check}
    (returnsRest : ∀ payload, Returns (rest payload) ↔ AllPass Check.passes checks)
    (returnsOther : Returns other ↔ AllPass Check.passes checks) (reply : PyJson) :
    Returns (reply.items? >>= fun items =>
        if (messageType items).isStr (py "notebook.metadata") then
          replyPayload items >>= rest
        else
          other) ↔
      fitsTail reply = true ∧ AllPass Check.passes checks := by
  cases reply with
  | dict items =>
      have isDict : (PyJson.dict items).items? = .ok items := rfl
      rw [bind_of_ok isDict, fitsTail]
      by_cases isMetadata :
          (messageType items).isStr (py "notebook.metadata") = true
      · rw [if_pos isMetadata, isMetadata, Bool.not_true, Bool.false_or,
          ← returns_replyPayload]
        exact endsIn_then returnsRest
      · rw [if_neg isMetadata, Bool.eq_false_of_not_eq_true isMetadata,
          Bool.not_false, Bool.true_or, and_iff_right rfl]
        exact returnsOther
  | _ =>
      exact iff_of_false (not_returns_error _)
        fun passes => absurd passes.1 Bool.false_ne_true

theorem returns_tailDrain (paced : connection.Paced quantum)
    {tailDeadline : Time} {fuel : Nat}
    (enough : tailDeadline ≤
      (connection.monotonic world).1 + fuel * quantum) :
    Returns (tailDrain connection tailDeadline (fuel + 1) live world) ↔
      AllPass Check.passes (tailChecks connection tailDeadline (fuel + 1) world) := by
  obtain ⟨monotonic, send, recv⟩ := connection
  induction fuel generalizing live world with
  | zero =>
      rw [Nat.cast_zero, zero_mul, add_zero] at enough
      rw [tailDrain, tailChecks]
      dsimp only
      rw [if_neg (not_lt.mpr enough), if_neg (not_lt.mpr enough)]
      simp
  | succ fuel inductionHypothesis =>
      rcases clock : monotonic world with ⟨now, later⟩
      rcases received : recv (1 / 10) later with ⟨outcome, next⟩
      have enoughNext : tailDeadline ≤ (monotonic next).1 + fuel * quantum :=
        enough_after paced enough clock received
      rw [tailDrain, tailChecks]
      simp only [clock, received]
      by_cases inTime : now < tailDeadline
      · rw [if_pos inTime, if_pos inTime]
        cases outcome with
        | escaped =>
            exact iff_of_false (not_returns_error _) not_allPass_escape
        | keyboardInterrupt => simp
        | raised message => simp
        | value reply =>
            dsimp only
            by_cases truthy : reply.truthy = true
            · rw [if_pos truthy, if_pos truthy, allPass_cons]
              exact returns_tailFrame
                (fun payload => inductionHypothesis enoughNext)
                (inductionHypothesis enoughNext) reply
            · rw [if_neg truthy, if_neg truthy]
              exact inductionHypothesis enoughNext
      · rw [if_neg inTime, if_neg inTime]
        simp

theorem returns_mirrorOutputs (notebook workingRts : List (PyString × PyJson)) :
    Returns (mirrorOutputs notebook workingRts) ↔
      canMirror notebook workingRts = true := by
  rw [mirrorOutputs, canMirror]
  cases getD notebook (py "metadata") (.dict []) with
  | dict metadata =>
      have isDict : (PyJson.dict metadata).items? = .ok metadata := rfl
      rw [bind_of_ok isDict]
      dsimp only
      cases getD metadata (py "rts") (.dict []) with
      | dict rts =>
          have isDict : (PyJson.dict rts).items? = .ok rts := rfl
          rw [bind_of_ok isDict]
          dsimp only
          by_cases hasCells : (getD rts (py "cells") (.dict [])).isDict = true
          · rw [if_pos hasCells, hasCells, Bool.not_true, Bool.false_or,
              ← returns_items?]
            exact returns_then fun _ => returns_ok ()
          · rw [if_neg hasCells]
            refine iff_of_true (returns_ok ()) ?_
            rw [Bool.eq_false_of_not_eq_true hasCells]
            rfl
      | _ => exact iff_of_false (not_returns_error _) Bool.false_ne_true
  | _ => exact iff_of_false (not_returns_error _) Bool.false_ne_true

/-- The notebook of a run that can mirror has its `metadata`. -/
theorem hasMetadata_of_canMirror
    {notebook workingRts : List (PyString × PyJson)}
    (mirrors : canMirror notebook workingRts = true) :
    ∃ metadata,
      (getD notebook (py "metadata") (.dict [])).items? = .ok metadata := by
  rw [canMirror] at mirrors
  split at mirrors
  · rename_i metadata isMetadata
    rw [isMetadata]
    exact ⟨metadata, rfl⟩
  · cases mirrors

theorem survives_writeRecording (lines : List PyJson)
    (result : Option (List PyJson) → Option (LiveResult World)) :
    Survives config (writeRecording config lines >>= fun recorded =>
        pure { result := result recorded, recorded := recorded }) ↔
      AllPass Check.passes (if config.recording then [.write lines] else []) := by
  rw [writeRecording]
  by_cases recording : config.recording = true
  · rw [if_pos recording, if_pos recording, allPass_single]
    by_cases encodable : lines.all isEncodable = true
    · rw [if_pos encodable]
      exact iff_of_true ((endsIn_ok _).mpr fun _ => rfl) encodable
    · rw [if_neg encodable]
      exact iff_of_false (not_endsIn_error _) encodable
  · rw [if_neg recording, if_neg recording]
    exact iff_of_true
      ((endsIn_ok _).mpr fun isOn => absurd isOn recording) allPass_nil

theorem survives_closeRun (notebook : List (PyString × PyJson))
    (live : LiveState World) :
    Survives config (closeRun config notebook live) ↔
      AllPass Check.passes (closeChecks config notebook live) := by
  rw [closeRun, closeChecks, allPass_cons]
  by_cases mirrors : canMirror notebook live.workingRts = true
  · obtain ⟨_, mirrored, _⟩ := (returns_mirrorOutputs _ _).mpr mirrors
    obtain ⟨metadata, isMetadata⟩ := hasMetadata_of_canMirror mirrors
    refine Iff.trans ?_ (and_iff_right mirrors).symm
    rw [bind_of_ok mirrored, bind_of_ok isMetadata]
    exact survives_writeRecording _ _
  · exact iff_of_false
      (not_endsIn_bind (mt (returns_mirrorOutputs _ _).mp mirrors))
      fun passes => mirrors passes.1

theorem survives_endRun (paced : connection.Paced quantum) {fuel : Nat}
    (enough : config.quiescenceWindow ≤ fuel * quantum)
    (notebook : List (PyString × PyJson)) (live : LiveState World)
    (world : World) :
    Survives config
        (endRun connection config (fuel + 1) notebook live world) ↔
      AllPass Check.passes
        (endChecks connection config (fuel + 1) notebook live world) := by
  rw [endRun, endChecks]
  by_cases interrupted : live.interrupted = true
  · rw [if_pos interrupted, if_pos interrupted]
    exact survives_closeRun notebook live
  · rw [if_neg interrupted, if_neg interrupted]
    have enoughTail : (connection.monotonic world).1 + config.quiescenceWindow ≤
        (connection.monotonic (connection.monotonic world).2).1 +
          fuel * quantum := by
      have steady := paced.steady world
      linarith
    refine endsIn_after (returns_tailDrain paced enoughTail) fun tail _ => ?_
    cases tail with
    | none =>
        have ended : Survives config (.ok (⟨none, none⟩ : LiveEnd World)) ↔
            (!config.recording) = true := by
          rw [Survives, endsIn_ok]
          cases config.recording with
          | true => simp
          | false => simp
        exact ended.trans
          (allPass_single Check.passes (.tailInterrupt config.recording)).symm
    | some after => exact survives_closeRun notebook after

/-! ### The whole run -/

theorem survives_endHydrated (paced : connection.Paced quantum) {fuel : Nat}
    (enoughCell : config.cellTimeout ≤ fuel * quantum)
    (enoughTail : config.quiescenceWindow ≤ fuel * quantum)
    (layoutWalkIds : PyJson → List PyString)
    (notebook rts : List (PyString × PyJson)) (world : World) :
    Survives config (endHydrated connection config layoutWalkIds (fuel + 1)
        notebook rts world) ↔
      AllPass Check.passes (hydratedChecks connection config layoutWalkIds (fuel + 1)
        notebook rts world) := by
  rw [endHydrated, hydratedChecks]
  refine endsIn_after ((returns_items? _).trans
    (allPass_single Check.passes (.dictionary _)).symm) fun cells _ => ?_
  have hasLayout : Returns (orderedCellIds layoutWalkIds rts cells) ↔
      AllPass Check.passes [.dictionary
        ((getD rts (py "layout") (.dict [])).orElse (.dict []))] := by
    rw [allPass_single]
    refine Iff.trans ?_ (returns_items? _)
    exact returns_then fun layout => returns_ok _
  refine endsIn_after hasLayout fun ids _ => ?_
  refine endsIn_after (returns_runCells paced enoughCell _ _ _ _ _ _)
    fun result _ => ?_
  exact survives_endRun paced enoughTail notebook _ _

/-- A live run survives if and only if all its checks pass, given turns enough
for both limits. -/
theorem survives_iff_allPass (paced : connection.Paced quantum) {turns : Nat}
    (enoughCell : config.cellTimeout ≤ turns * quantum)
    (enoughTail : config.quiescenceWindow ≤ turns * quantum)
    (layoutWalkIds : PyJson → List PyString)
    (notebook : List (PyString × PyJson)) (world : World) :
    Survives config (endLiveMode connection config layoutWalkIds (turns + 1)
        notebook world) ↔
      AllPass Check.passes (liveChecks connection config layoutWalkIds (turns + 1) notebook
        world) := by
  rw [endLiveMode, liveChecks]
  have hasMetadata : Returns (notebookRts notebook) ↔
      AllPass Check.passes [.dictionary (getD notebook (py "metadata") (.dict []))] := by
    rw [allPass_single]
    refine Iff.trans ?_ (returns_items? _)
    exact returns_then fun metadata => returns_ok _
  refine endsIn_after hasMetadata fun rts _ => ?_
  rcases connection.send (hydrateEnvelope rts) world with ⟨outcome, sent⟩
  cases outcome with
  | escaped =>
      exact iff_of_false (not_endsIn_error _) not_allPass_escape
  | raised message =>
      refine iff_of_true ((endsIn_ok _).mpr fun recording => ?_) allPass_nil
      rw [if_pos recording]
      rfl
  | sent =>
      refine endsIn_after ((returns_items? _).trans
        (allPass_single Check.passes (.dictionary rts)).symm) fun items _ => ?_
      exact survives_endHydrated paced enoughCell enoughTail _ _ _ _

end

/-! ### A reply, an array and a snapshot without cells -/

theorem scriptedConnection_paced : scriptedConnection.Paced 1 where
  positive := by decide
  steady := by
    rintro ⟨now, script⟩
    have later : (now : Time) ≤ (now + 1 : Nat) := by
      exact_mod_cast Nat.le_succ now
    exact later
  advances := by
    rintro timeout ⟨now, script⟩
    have later : (now : Time) + 1 ≤ (now + 1 : Nat) := by
      rw [Nat.cast_add, Nat.cast_one]
    cases script with
    | nil => exact later
    | cons outcome rest => exact later

/-- The only receive of the drain is the reply. -/
theorem reply_survives :
    Survives recordingConfig
      (endLiveMode scriptedConnection recordingConfig (fun _ => []) 61
        spawnNotebook
        (0, [.value (.dict [(py "request_id", .str (py "live:0"))])])) :=
  (survives_iff_allPass scriptedConnection_paced (by decide +kernel)
    (by decide +kernel) _ _ _).mpr (by
      rw [AllPass]
      decide +kernel)

/-- A snapshot whose cells are `null`. -/
def nullSnapshot : PyJson :=
  .dict
    [(py "type", .str (py "notebook.metadata")),
      (py "payload", .dict
        [(py "snapshot", .dict [(py "cells", .none)])])]

/-- How a call stops. -/
def stop? {Result : Type} : Except Stop Result → Option Stop
  | .error stop => some stop
  | .ok _ => none

theorem not_survives_of_stop? {World : Type} {config : LiveConfig}
    {outcome : Except Stop (LiveEnd World)} {stop : Stop}
    (stops : stop? outcome = some stop) : ¬ Survives config outcome := by
  rintro ⟨ending, rfl, _⟩
  cases stops

/-- An array ends the run with an exception, and so does a snapshot whose cells
are `null` before a quiet cell. -/
theorem arrayAndNullCells_raise :
    (¬ Survives recordingConfig
      (endLiveMode scriptedConnection recordingConfig (fun _ => []) 61
        spawnNotebook (0, [.value (.list [.int 1])]))) ∧
    ¬ Survives recordingConfig
      (endLiveMode scriptedConnection recordingConfig (fun _ => []) 61
        spawnNotebook (0, [.value nullSnapshot])) := by
  constructor
  · have stops : stop? (endLiveMode scriptedConnection recordingConfig
        (fun _ => []) 61 spawnNotebook (0, [.value (.list [.int 1])])) =
          some .raised := by decide +kernel
    exact not_survives_of_stop? stops
  · have stops : stop? (endLiveMode scriptedConnection recordingConfig
        (fun _ => []) 61 spawnNotebook (0, [.value nullSnapshot])) =
          some .raised := by decide +kernel
    exact not_survives_of_stop? stops

end RtsNotebook.LlmClient
