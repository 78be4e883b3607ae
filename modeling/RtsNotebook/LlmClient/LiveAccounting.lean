import RtsNotebook.LlmClient.LiveSteps

/-!
# How often a cell is counted

A cell whose envelope was sent is counted by the way its drain ends.  The
timeout, the correlated reply, the K-class frame and the quiet window give one
entry each.  A receive that raises appends a failure and leaves the cell
completed without a reply, which is also how the quiet window leaves it, so a
success is appended as well.
-/

namespace RtsNotebook.LlmClient

open RtsNotebook.Python

section

variable {World : Type}

/-! ### What the receives of a drain say -/

/-- Some receive raised an exception. -/
def Raised (ticks : List Tick) : Prop :=
  ∃ tick ∈ ticks, ∃ message, tick.outcome = .raised message

/-- The receive gave a frame that is correlated with the request. -/
def Tick.IsReply (requestId : PyString) (tick : Tick) : Prop :=
  ∃ items payload, tick.outcome = .value (.dict items) ∧
    replyPayload items = .ok payload ∧
    isCorrelated requestId items payload = true

instance (requestId : PyString) (tick : Tick) :
    Decidable (tick.IsReply requestId) :=
  match tick with
  | ⟨.value (.dict items), _⟩ =>
      match hasPayload : replyPayload items with
      | .ok payload =>
          decidable_of_iff (isCorrelated requestId items payload = true)
            ⟨fun correlated => ⟨items, payload, rfl, hasPayload, correlated⟩,
              fun ⟨_, _, outcome, foundPayload, correlated⟩ => by
                cases outcome
                cases hasPayload.symm.trans foundPayload
                exact correlated⟩
      | .error _ =>
          .isFalse fun ⟨_, _, outcome, foundPayload, _⟩ => by
            cases outcome
            cases hasPayload.symm.trans foundPayload
  | ⟨.value .none, _⟩ | ⟨.value (.bool _), _⟩ | ⟨.value (.int _), _⟩
  | ⟨.value (.float _), _⟩ | ⟨.value (.str _), _⟩ | ⟨.value (.list _), _⟩
  | ⟨.raised _, _⟩ | ⟨.keyboardInterrupt, _⟩ | ⟨.escaped, _⟩ =>
      .isFalse fun ⟨_, _, outcome, _⟩ => by cases outcome

/-- Some receive gave a correlated frame. -/
def Replied (requestId : PyString) (ticks : List Tick) : Prop :=
  ∃ tick ∈ ticks, tick.IsReply requestId

instance (requestId : PyString) (ticks : List Tick) :
    Decidable (Replied requestId ticks) :=
  List.decidableBEx _ ticks

/-- Empty receives follow each other for a whole window, by the clock readings
after them; a receive without a reading starts over. -/
def settlesQuiet (window : Time) : Option Time → List Tick → Bool
  | _, [] => false
  | start, tick :: rest =>
      match tick.reading, start with
      | none, _ => settlesQuiet window none rest
      | some reading, none => settlesQuiet window (some reading) rest
      | some reading, some first =>
          if window ≤ reading - first then true
          else settlesQuiet window (some first) rest

theorem Tick.truthy_of_isReply
    {requestId : PyString} {reply : PyJson} {reading : Option Time}
    (isReply : Tick.IsReply requestId ⟨.value reply, reading⟩) :
    reply.truthy = true := by
  obtain ⟨items, payload, outcome, hasPayload, correlated⟩ := isReply
  cases outcome
  cases items with
  | nil =>
      -- An empty dictionary has no payload, hence no identifier.
      cases hasPayload
      simp [isCorrelated, replyCorrelation, PyJson.orElse, PyJson.truthy,
        PyJson.isStr] at correlated
  | cons item rest =>
      rfl

theorem Tick.not_isReply_of_empty
    {requestId : PyString} {reply : PyJson} {reading : Option Time}
    (isEmpty : reply.truthy = false) :
    ¬ Tick.IsReply requestId ⟨.value reply, reading⟩ := by
  intro isReply
  rw [Tick.truthy_of_isReply isReply] at isEmpty
  cases isEmpty

/-! ### How a drain ends -/

/-- The ends of a drain loop that was not interrupted: whether the cell is
completed, whether a frame was taken for it, and how many successes and
failures were appended. -/
inductive DrainEnd (window : Time) (requestId : PyString)
    (start : Option Time) (ticks : List Tick) :
    Bool → Bool → Nat → Nat → Prop where
  | timedOut (notRaised : ¬ Raised ticks) (silent : ¬ Replied requestId ticks)
      (loud : settlesQuiet window start ticks = false) :
      DrainEnd window requestId start ticks false false 0 0
  | succeeded (notRaised : ¬ Raised ticks) (reply : Replied requestId ticks) :
      DrainEnd window requestId start ticks true true 1 0
  | failed (notRaised : ¬ Raised ticks) (reply : Replied requestId ticks) :
      DrainEnd window requestId start ticks true true 0 1
  | keyed (notRaised : ¬ Raised ticks) (silent : ¬ Replied requestId ticks)
      (loud : settlesQuiet window start ticks = false) :
      DrainEnd window requestId start ticks true true 0 1
  | quiet (notRaised : ¬ Raised ticks) (silent : ¬ Replied requestId ticks)
      (quiet : settlesQuiet window start ticks = true) :
      DrainEnd window requestId start ticks true false 0 0
  | raised (raised : Raised ticks) :
      DrainEnd window requestId start ticks true false 0 1

variable {window : Time} {requestId : PyString} {start next : Option Time}
  {tick : Tick} {ticks : List Tick}

theorem raised_cons
    (notRaised : ∀ message, tick.outcome ≠ .raised message) :
    Raised (tick :: ticks) ↔ Raised ticks := by
  simp [Raised, notRaised]

private theorem replied_cons (silent : ¬ tick.IsReply requestId) :
    Replied requestId (tick :: ticks) ↔ Replied requestId ticks := by
  simp [Replied, silent]

theorem DrainEnd.cons
    {completed taken : Bool} {successes failures : Nat}
    (notRaised : ∀ message, tick.outcome ≠ .raised message)
    (silent : ¬ tick.IsReply requestId)
    (goesOn : settlesQuiet window start (tick :: ticks) =
      settlesQuiet window next ticks)
    (rest : DrainEnd window requestId next ticks completed taken successes
      failures) :
    DrainEnd window requestId start (tick :: ticks) completed taken successes
      failures := by
  cases rest with
  | timedOut notRaisedRest silentRest loud =>
      exact .timedOut (by rwa [raised_cons notRaised])
        (by rwa [replied_cons silent]) (goesOn.trans loud)
  | succeeded notRaisedRest reply =>
      exact .succeeded (by rwa [raised_cons notRaised])
        ((replied_cons silent).mpr reply)
  | failed notRaisedRest reply =>
      exact .failed (by rwa [raised_cons notRaised])
        ((replied_cons silent).mpr reply)
  | keyed notRaisedRest silentRest loud =>
      exact .keyed (by rwa [raised_cons notRaised])
        (by rwa [replied_cons silent]) (goesOn.trans loud)
  | quiet notRaisedRest silentRest quiet =>
      exact .quiet (by rwa [raised_cons notRaised])
        (by rwa [replied_cons silent]) (goesOn.trans quiet)
  | raised raised =>
      exact .raised ((raised_cons notRaised).mpr raised)

/-! ### Tallies -/

/-- How many entries were appended in the turn of a cell. -/
def entriesOf (entries : List Entry) (cell : PyString) : Nat :=
  (entries.map Entry.cell).count cell

namespace LiveState

/-- How often a cell has been counted as succeeded. -/
def successes (live : LiveState World) (cell : PyString) : Nat :=
  entriesOf live.succeeded cell

/-- How often a cell has been counted as failed. -/
def failures (live : LiveState World) (cell : PyString) : Nat :=
  entriesOf live.failed cell

end LiveState

/-- The entries that one cell's turn adds, and nothing else. -/
structure Adds (cell : PyString) (successes failures : Nat)
    (live after : LiveState World) : Prop where
  ownSuccesses : after.successes cell = live.successes cell + successes
  ownFailures : after.failures cell = live.failures cell + failures
  otherSuccesses : ∀ other, other ≠ cell →
    after.successes other = live.successes other
  otherFailures : ∀ other, other ≠ cell →
    after.failures other = live.failures other

namespace Adds

variable {cell : PyString} {live middle after : LiveState World}

theorem of_same
    (succeeded : after.succeeded = live.succeeded)
    (failed : after.failed = live.failed) :
    Adds cell 0 0 live after := by
  constructor <;> simp [LiveState.successes, LiveState.failures, succeeded,
    failed]

theorem trans
    {firstSuccesses firstFailures secondSuccesses secondFailures : Nat}
    (first : Adds cell firstSuccesses firstFailures live middle)
    (second : Adds cell secondSuccesses secondFailures middle after) :
    Adds cell (firstSuccesses + secondSuccesses)
      (firstFailures + secondFailures) live after where
  ownSuccesses := by
    rw [second.ownSuccesses, first.ownSuccesses, Nat.add_assoc]
  ownFailures := by
    rw [second.ownFailures, first.ownFailures, Nat.add_assoc]
  otherSuccesses := fun other different =>
    (second.otherSuccesses other different).trans
      (first.otherSuccesses other different)
  otherFailures := fun other different =>
    (second.otherFailures other different).trans
      (first.otherFailures other different)

theorem succeed (live : LiveState World) (cell : PyString)
    (envelope : PyJson) :
    Adds cell 1 0 live (live.succeed cell envelope) := by
  constructor
  · simp [LiveState.successes, LiveState.succeed, entriesOf]
  · rfl
  · intro other different
    simp [LiveState.successes, LiveState.succeed, entriesOf,
      Ne.symm different]
  · intro other _
    rfl

theorem fail (live : LiveState World) (cell : PyString)
    (envelope : PyJson) :
    Adds cell 0 1 live (live.fail cell envelope) := by
  constructor
  · rfl
  · simp [LiveState.failures, LiveState.fail, entriesOf]
  · intro other _
    rfl
  · intro other different
    simp [LiveState.failures, LiveState.fail, entriesOf, Ne.symm different]

end Adds

@[simp]
theorem record_succeeded
    (live : LiveState World) (config : LiveConfig) (sent received : PyJson) :
    (live.record config sent received).succeeded = live.succeeded := by
  unfold LiveState.record
  split <;> rfl

@[simp]
theorem record_failed
    (live : LiveState World) (config : LiveConfig) (sent received : PyJson) :
    (live.record config sent received).failed = live.failed := by
  unfold LiveState.record
  split <;> rfl

@[simp]
theorem record_drains
    (live : LiveState World) (config : LiveConfig) (sent received : PyJson) :
    (live.record config sent received).drains = live.drains := by
  unfold LiveState.record
  split <;> rfl

theorem Adds.record
    {cell : PyString} {successes failures : Nat} {live after : LiveState World}
    (adds : Adds cell successes failures live after)
    (config : LiveConfig) (sent received : PyJson) :
    Adds cell successes failures live (after.record config sent received) :=
  adds.trans (Adds.of_same (by simp) (by simp))

theorem Adds.finishDrain
    {cell : PyString} {successes failures : Nat} {live after : LiveState World}
    (adds : Adds cell successes failures live after)
    (requestId : PyString) (ticks : List Tick) (world : World) :
    Adds cell successes failures live
      (after.finishDrain cell requestId ticks world) := by
  have nothing : Adds cell 0 0 after
      (after.finishDrain cell requestId ticks world) :=
    Adds.of_same rfl rfl
  exact adds.trans nothing

/-! ### One frame -/

/-- What a frame does to the cell that is drained. -/
inductive ReplyEffect (cell requestId : PyString) (reply : PyJson)
    (live after : LiveState World) (drainAfter : DrainState) : Prop where
  | succeeded (isReply : Tick.IsReply requestId ⟨.value reply, none⟩)
      (completed : drainAfter.cellCompleted = true)
      (taken : drainAfter.receivedForCell.isSome = true)
      (adds : Adds cell 1 0 live after)
  | failed (isReply : Tick.IsReply requestId ⟨.value reply, none⟩)
      (completed : drainAfter.cellCompleted = true)
      (taken : drainAfter.receivedForCell.isSome = true)
      (adds : Adds cell 0 1 live after)
  | keyed (notReply : ¬ Tick.IsReply requestId ⟨.value reply, none⟩)
      (completed : drainAfter.cellCompleted = true)
      (taken : drainAfter.receivedForCell.isSome = true)
      (adds : Adds cell 0 1 live after)
  | passed (notReply : ¬ Tick.IsReply requestId ⟨.value reply, none⟩)
      (completed : drainAfter.cellCompleted = false)
      (taken : drainAfter.receivedForCell = none)
      (resets : drainAfter.quiescenceStart = none)
      (adds : Adds cell 0 0 live after)

theorem Tick.isReply_iff
    {items payload : List (PyString × PyJson)} {reading : Option Time}
    (hasPayload : replyPayload items = .ok payload) :
    Tick.IsReply requestId ⟨.value (.dict items), reading⟩ ↔
      isCorrelated requestId items payload = true := by
  constructor
  · rintro ⟨found, foundPayload, outcome, foundHas, correlated⟩
    cases outcome
    rw [hasPayload] at foundHas
    cases foundHas
    exact correlated
  · intro correlated
    exact ⟨items, payload, rfl, hasPayload, correlated⟩

theorem TakesFrame.effect
    {cell : PyString} {items payload : List (PyString × PyJson)}
    {live after : LiveState World} {drain drainAfter : DrainState}
    (takes : TakesFrame cell requestId items payload live drain after drainAfter)
    (hasPayload : replyPayload items = .ok payload)
    (notCompleted : drain.cellCompleted = false)
    (notTaken : drain.receivedForCell = none) :
    ReplyEffect cell requestId (.dict items) live after drainAfter := by
  have unchanged : Adds cell 0 0 live (live.seeSnapshot items payload) := by
    obtain ⟨workingRts, snapped⟩ := seeSnapshot_eq live items payload
    rw [snapped]
    exact Adds.of_same rfl rfl
  have isReply : Tick.IsReply requestId ⟨.value (.dict items), none⟩ ↔
      isCorrelated requestId items payload = true :=
    Tick.isReply_iff hasPayload
  cases takes with
  | succeeded correlated _ =>
      exact .succeeded (isReply.mpr correlated) rfl rfl
        (unchanged.trans (Adds.succeed _ cell _))
  | failed correlated _ =>
      exact .failed (isReply.mpr correlated) rfl rfl
        (unchanged.trans (Adds.fail _ cell _))
  | keyed notCorrelated _ =>
      exact .keyed (mt isReply.mp (by simp [notCorrelated])) rfl rfl
        (unchanged.trans (Adds.fail _ cell _))
  | passed notCorrelated _ =>
      exact .passed (mt isReply.mp (by simp [notCorrelated])) notCompleted
        notTaken rfl unchanged

/-! ### One drain -/

/-- What a drain does between two points of its loop: unless it is
interrupted, it ends in one of the ways above, by the receives made. -/
def DrainAccount (window : Time) (cell requestId : PyString)
    (live after : LiveState World) (drain drainAfter : DrainState) : Prop :=
  after.drains = live.drains ∧
    (after.interrupted = true ∨
      after.interrupted = live.interrupted ∧
      ∃ ticks successes failures,
        drainAfter.ticks = drain.ticks ++ ticks ∧
        Adds cell successes failures live after ∧
        DrainEnd window requestId drain.quiescenceStart ticks
          drainAfter.cellCompleted drainAfter.receivedForCell.isSome
          successes failures)

theorem DrainAccount.cons
    {cell : PyString} {live middle after : LiveState World}
    {drain drainMiddle drainAfter : DrainState}
    (rest : DrainAccount window cell requestId middle after drainMiddle
      drainAfter)
    (drains : middle.drains = live.drains)
    (interrupted : middle.interrupted = live.interrupted)
    (adds : Adds cell 0 0 live middle)
    (ticked : drainMiddle.ticks = drain.ticks ++ [tick])
    (notRaised : ∀ message, tick.outcome ≠ .raised message)
    (silent : ¬ tick.IsReply requestId)
    (goesOn : ∀ ticks,
      settlesQuiet window drain.quiescenceStart (tick :: ticks) =
        settlesQuiet window drainMiddle.quiescenceStart ticks) :
    DrainAccount window cell requestId live after drain drainAfter := by
  obtain ⟨restDrains, stopped |
    ⟨restInterrupted, ticks, successes, failures, restTicked, restAdds,
      restEnd⟩⟩ := rest
  · exact ⟨restDrains.trans drains, Or.inl stopped⟩
  · have allTicked : drainAfter.ticks = drain.ticks ++ tick :: ticks := by
      rw [restTicked, ticked, List.append_assoc]
      rfl
    have allAdds : Adds cell successes failures live after := by
      have both := adds.trans restAdds
      rwa [Nat.zero_add, Nat.zero_add] at both
    exact ⟨restDrains.trans drains,
      Or.inr ⟨restInterrupted.trans interrupted, tick :: ticks, successes,
        failures, allTicked, allAdds,
        restEnd.cons notRaised silent (goesOn ticks)⟩⟩

/-- The frame that completes the cell ends the drain. -/
theorem ReplyEffect.account
    {cell : PyString} {reply : PyJson} {live after : LiveState World}
    {drain drainAfter : DrainState}
    (effect : ReplyEffect cell requestId reply live after drainAfter)
    (completed : drainAfter.cellCompleted = true)
    (drains : after.drains = live.drains)
    (interrupted : after.interrupted = live.interrupted)
    (ticked : drainAfter.ticks = drain.ticks ++ [⟨.value reply, none⟩]) :
    DrainAccount window cell requestId live after drain drainAfter := by
  have notRaised : ¬ Raised [⟨.value reply, none⟩] := by simp [Raised]
  refine ⟨drains, Or.inr ⟨interrupted, [⟨.value reply, none⟩], ?_⟩⟩
  cases effect with
  | succeeded isReply _ taken adds =>
      refine ⟨1, 0, ticked, adds, ?_⟩
      rw [completed, taken]
      exact .succeeded notRaised ⟨_, List.mem_singleton_self _, isReply⟩
  | failed isReply _ taken adds =>
      refine ⟨0, 1, ticked, adds, ?_⟩
      rw [completed, taken]
      exact .failed notRaised ⟨_, List.mem_singleton_self _, isReply⟩
  | keyed notReply _ taken adds =>
      refine ⟨0, 1, ticked, adds, ?_⟩
      rw [completed, taken]
      exact .keyed notRaised (by simpa [Replied] using notReply) rfl
  | passed _ notCompleted _ _ _ =>
      rw [notCompleted] at completed
      cases completed

/-- How the drain loop of a cell ends, by its receives. -/
theorem DrainRun.account
    {cell : PyString} {live after : LiveState World}
    {drain drainAfter : DrainState}
    (run : DrainRun window cell requestId live drain after drainAfter)
    (notCompleted : drain.cellCompleted = false)
    (notTaken : drain.receivedForCell = none) :
    DrainAccount window cell requestId live after drain drainAfter := by
  induction run with
  | interrupted live drain => exact ⟨rfl, Or.inl rfl⟩
  | raised live drain message =>
      refine ⟨rfl, Or.inr ⟨rfl, _, 0, 1, rfl, Adds.fail live cell _, ?_⟩⟩
      simp only [DrainState.tick, notTaken]
      exact .raised ⟨_, List.mem_singleton_self _, message, rfl⟩
  | completed took completed =>
      obtain ⟨items, payload, rfl, hasPayload, takes⟩ := takeReply_takes took
      obtain ⟨drains, interrupted, ticked⟩ := takes.frame
      exact (takes.effect hasPayload notCompleted notTaken).account completed
        drains interrupted ticked
  | passed took goesOn _ inductionHypothesis =>
      obtain ⟨items, payload, rfl, hasPayload, takes⟩ := takeReply_takes took
      obtain ⟨drains, interrupted, ticked⟩ := takes.frame
      cases takes.effect hasPayload notCompleted notTaken with
      | passed notReply completed taken resets adds =>
          refine (inductionHypothesis completed taken).cons drains interrupted
            adds ticked (fun message equal => by cases equal) notReply ?_
          intro ticks
          rw [resets]
          rfl
      | succeeded _ completed _ _ => simp [goesOn] at completed
      | failed _ completed _ _ => simp [goesOn] at completed
      | keyed _ completed _ _ => simp [goesOn] at completed
  | idle reading isEmpty noStart _ inductionHypothesis =>
      refine (inductionHypothesis notCompleted notTaken).cons rfl rfl
        (Adds.of_same rfl rfl) rfl (fun message equal => by cases equal)
        (Tick.not_isReply_of_empty isEmpty) ?_
      intro ticks
      rw [noStart]
      rfl
  | waiting reading isEmpty hasStart notFull _ inductionHypothesis =>
      refine (inductionHypothesis notCompleted notTaken).cons rfl rfl
        (Adds.of_same rfl rfl) rfl (fun message equal => by cases equal)
        (Tick.not_isReply_of_empty isEmpty) ?_
      intro ticks
      simp only [DrainState.tick, hasStart]
      exact if_neg notFull
  | quiet reading isEmpty hasStart full =>
      refine ⟨rfl, Or.inr ⟨rfl, _, 0, 0, rfl, Adds.of_same rfl rfl, ?_⟩⟩
      simp only [DrainState.tick, notTaken, hasStart]
      refine .quiet (by simp [Raised]) ?_ (if_pos full)
      simpa [Replied] using Tick.not_isReply_of_empty isEmpty
  | timedOut live drain =>
      refine ⟨rfl, Or.inr ⟨rfl, [], 0, 0, by simp, Adds.of_same rfl rfl, ?_⟩⟩
      rw [notCompleted, notTaken]
      exact .timedOut (by simp [Raised]) (by simp [Replied]) rfl

/-! ### One cell -/

/-- The account of a drained cell: how often it was counted, against what its
receives said. -/
structure Accounted (window : Time) (requestId : PyString)
    (ticks : List Tick) (successes failures : Nat) : Prop where
  once_iff : successes + failures = 1 ↔ ¬ Raised ticks
  lost_iff : ¬ Replied requestId ticks →
    (successes = 0 ∧ failures ≠ 0 ↔
      ¬ Raised ticks ∧ settlesQuiet window none ticks = false)

/-- The branches after the loop settle the account. -/
theorem settleCell_spec
    {config : LiveConfig} {cell : PyString} {ordinal : Nat}
    {envelope : PyJson} {live after : LiveState World} {drain : DrainState}
    {successes failures : Nat}
    (settled : settleCell config cell ordinal envelope live drain = .ok after)
    (ends : DrainEnd window requestId none ticks drain.cellCompleted
      drain.receivedForCell.isSome successes failures) :
    after.drains = live.drains ∧ after.interrupted = live.interrupted ∧
      ∃ moreSuccesses moreFailures,
        Adds cell moreSuccesses moreFailures live after ∧
        Accounted window requestId ticks (successes + moreSuccesses)
          (failures + moreFailures) := by
  have settles := settleCell_settles settled
  generalize drain.cellCompleted = completed at settles ends
  generalize drain.receivedForCell = received at settles ends
  cases settles with
  | timedOut received message =>
      refine ⟨by simp [LiveState.fail], by simp [LiveState.fail], 0, 1,
        (Adds.fail live cell _).record config _ _, ?_⟩
      generalize received.isSome = taken at ends
      cases ends with
      | timedOut notRaised silent loud =>
          exact ⟨by simp [notRaised], by simp [notRaised, loud]⟩
  | answered reply =>
      refine ⟨by simp, by simp, 0, 0,
        (Adds.of_same rfl rfl).record config _ _, ?_⟩
      cases ends with
      | succeeded notRaised reply =>
          exact ⟨by simp [notRaised], fun silent => absurd reply silent⟩
      | failed notRaised reply =>
          exact ⟨by simp [notRaised], fun silent => absurd reply silent⟩
      | keyed notRaised silent loud =>
          exact ⟨by simp [notRaised], by simp [notRaised, loud]⟩
  | quiet ordinal outputs =>
      refine ⟨by simp [LiveState.succeed], by simp [LiveState.succeed], 1, 0,
        (Adds.succeed live cell _).record config _ _, ?_⟩
      cases ends with
      | quiet notRaised silent quiet =>
          exact ⟨by simp [notRaised], by simp [notRaised, quiet]⟩
      | raised raised =>
          exact ⟨by simp [raised], by simp [raised]⟩

end

end RtsNotebook.LlmClient
