import RtsNotebook.LlmClient.LiveAccounting
import RtsNotebook.LlmClient.Replay

/-!
# What a live run counts and records

The lengths of the lists between two states of the cell loop, with the lines
and the drains that were added.  A drain that was not interrupted is told by
its receives: by the frame that completed the cell, or by a receive that
raised.
-/

namespace RtsNotebook.LlmClient

open RtsNotebook.Python

section

variable {World : Type}

/-! ### What happens in a run -/

/-- The payload of a frame that completes the cell. -/
def Tick.completion (cell requestId : PyString) (tick : Tick) :
    Option (List (PyString × PyJson)) :=
  match tick.outcome with
  | .value (.dict items) =>
      match replyPayload items with
      | .ok payload =>
          if isCorrelated requestId items payload ||
              isKeyedFailure cell payload then
            some payload
          else
            none
      | .error _ => none
  | _ => none

/-- The payload of the frame that has completed the cell, where one has. -/
def completionOf (cell requestId : PyString) (ticks : List Tick) :
    Option (List (PyString × PyJson)) :=
  ticks.findSome? fun tick => tick.completion cell requestId

def countsFailed (payload : List (PyString × PyJson)) : Bool :=
  (get payload (py "k_code")).truthy

namespace Drain

/-- The frame is a failure for the run and a success for the replay. -/
def misreadOk (drain : Drain World) : Bool :=
  (completionOf drain.cell drain.requestId drain.ticks).any fun payload =>
    countsFailed payload && readsOk payload

/-- The frame is a success for the run and a failure for the replay. -/
def misreadFailed (drain : Drain World) : Bool :=
  (completionOf drain.cell drain.requestId drain.ticks).any fun payload =>
    !countsFailed payload && !readsOk payload

/-- Some receive of the drain raised. -/
def receiveRaised (drain : Drain World) : Bool :=
  drain.ticks.any fun tick =>
    match tick.outcome with
    | .raised _ => true
    | _ => false

end Drain

/-! ### Tallies -/

/-- A line of the recording. -/
def lineOf (sent received : PyJson) : PyJson :=
  .dict [(py "sent", sent), (py "received", received)]

/-- How many successes and failures are counted between two states, the lines
that are recorded and the drains that are over. -/
structure Tally (live after : LiveState World) (successes failures : Nat)
    (lines : List PyJson) (drains : List (Drain World)) : Prop where
  succeeded : after.succeeded.length = live.succeeded.length + successes
  failed : after.failed.length = live.failed.length + failures
  lines_eq : after.sentReceived = live.sentReceived ++ lines
  drains_eq : after.drains = live.drains ++ drains

namespace Tally

variable {live middle after : LiveState World}

theorem same
    (succeeded : after.succeeded = live.succeeded)
    (failed : after.failed = live.failed)
    (sentReceived : after.sentReceived = live.sentReceived)
    (drains : after.drains = live.drains) :
    Tally live after 0 0 [] [] := by
  constructor <;> simp [succeeded, failed, sentReceived, drains]

theorem trans
    {firstSuccesses firstFailures secondSuccesses secondFailures : Nat}
    {firstLines secondLines : List PyJson}
    {firstDrains secondDrains : List (Drain World)}
    (first : Tally live middle firstSuccesses firstFailures firstLines
      firstDrains)
    (second : Tally middle after secondSuccesses secondFailures secondLines
      secondDrains) :
    Tally live after (firstSuccesses + secondSuccesses)
      (firstFailures + secondFailures) (firstLines ++ secondLines)
      (firstDrains ++ secondDrains) where
  succeeded := by
    rw [second.succeeded, first.succeeded, Nat.add_assoc]
  failed := by
    rw [second.failed, first.failed, Nat.add_assoc]
  lines_eq := by
    rw [second.lines_eq, first.lines_eq, List.append_assoc]
  drains_eq := by
    rw [second.drains_eq, first.drains_eq, List.append_assoc]

theorem succeed (live : LiveState World) (cell : PyString)
    (envelope : PyJson) :
    Tally live (live.succeed cell envelope) 1 0 [] [] := by
  constructor <;> simp [LiveState.succeed]

theorem fail (live : LiveState World) (cell : PyString)
    (envelope : PyJson) :
    Tally live (live.fail cell envelope) 0 1 [] [] := by
  constructor <;> simp [LiveState.fail]

theorem record {config : LiveConfig} (recording : config.recording = true)
    (live : LiveState World) (sent received : PyJson) :
    Tally live (live.record config sent received) 0 0
      [lineOf sent received] [] := by
  constructor <;> simp [LiveState.record, recording, lineOf]

theorem finishDrain (live : LiveState World) (cell requestId : PyString)
    (ticks : List Tick) (world : World) :
    Tally live (live.finishDrain cell requestId ticks world) 0 0 []
      [⟨cell, requestId, ticks, world⟩] := by
  constructor <;> simp [LiveState.finishDrain]

end Tally

/-! ### One drain -/

/-- The ends of a drain loop that was not interrupted, by its receives:
whether the cell is completed, by which frame, and what is counted. -/
inductive DrainTally (cell requestId : PyString) (ticks : List Tick) :
    Bool → Option PyJson → Nat → Nat → Prop where
  | succeeded {items payload : List (PyString × PyJson)}
      (notRaised : ¬ Raised ticks)
      (completion : completionOf cell requestId ticks = some payload)
      (hasPayload : replyPayload items = .ok payload)
      (counted : countsFailed payload = false) :
      DrainTally cell requestId ticks true (some (.dict items)) 1 0
  | failed {items payload : List (PyString × PyJson)}
      (notRaised : ¬ Raised ticks)
      (completion : completionOf cell requestId ticks = some payload)
      (hasPayload : replyPayload items = .ok payload)
      (counted : countsFailed payload = true) :
      DrainTally cell requestId ticks true (some (.dict items)) 0 1
  | lost (raised : Raised ticks)
      (silent : completionOf cell requestId ticks = none) :
      DrainTally cell requestId ticks true none 0 1
  | quiet (notRaised : ¬ Raised ticks)
      (silent : completionOf cell requestId ticks = none) :
      DrainTally cell requestId ticks true none 0 0
  | timedOut (notRaised : ¬ Raised ticks)
      (silent : completionOf cell requestId ticks = none) :
      DrainTally cell requestId ticks false none 0 0

variable {cell requestId : PyString} {tick : Tick} {ticks : List Tick}

theorem completionOf_cons (silent : tick.completion cell requestId = none) :
    completionOf cell requestId (tick :: ticks) =
      completionOf cell requestId ticks := by
  unfold completionOf
  rw [List.findSome?_cons, silent]

theorem DrainTally.cons
    {completed : Bool} {received : Option PyJson} {successes failures : Nat}
    (rest : DrainTally cell requestId ticks completed received successes
      failures)
    (notRaised : ∀ message, tick.outcome ≠ .raised message)
    (silent : tick.completion cell requestId = none) :
    DrainTally cell requestId (tick :: ticks) completed received successes
      failures := by
  have raised : Raised (tick :: ticks) ↔ Raised ticks :=
    raised_cons notRaised
  have completion : completionOf cell requestId (tick :: ticks) =
      completionOf cell requestId ticks := completionOf_cons silent
  cases rest with
  | succeeded notRaisedRest found hasPayload counted =>
      exact .succeeded (mt raised.mp notRaisedRest) (completion.trans found)
        hasPayload counted
  | failed notRaisedRest found hasPayload counted =>
      exact .failed (mt raised.mp notRaisedRest) (completion.trans found)
        hasPayload counted
  | lost raisedRest none =>
      exact .lost (raised.mpr raisedRest) (completion.trans none)
  | quiet notRaisedRest none =>
      exact .quiet (mt raised.mp notRaisedRest) (completion.trans none)
  | timedOut notRaisedRest none =>
      exact .timedOut (mt raised.mp notRaisedRest) (completion.trans none)

theorem Tick.completion_eq
    {items payload : List (PyString × PyJson)} {reading : Option Time}
    (hasPayload : replyPayload items = .ok payload) :
    Tick.completion cell requestId ⟨.value (.dict items), reading⟩ =
      if isCorrelated requestId items payload ||
        isKeyedFailure cell payload then some payload else none := by
  unfold Tick.completion
  dsimp only
  rw [hasPayload]

/-- A frame completes no cell, or it ends the drain. -/
theorem TakesFrame.tally
    {items payload : List (PyString × PyJson)}
    {live after : LiveState World} {drain drainAfter : DrainState}
    (takes : TakesFrame cell requestId items payload live drain after
      drainAfter)
    (hasPayload : replyPayload items = .ok payload)
    (notCompleted : drain.cellCompleted = false)
    (notTaken : drain.receivedForCell = none) :
    (Tick.completion cell requestId ⟨.value (.dict items), none⟩ = none ∧
        drainAfter.cellCompleted = false ∧
        drainAfter.receivedForCell = none ∧
        Tally live after 0 0 [] []) ∨
      ∃ successes failures,
        drainAfter.cellCompleted = true ∧
        Tally live after successes failures [] [] ∧
        DrainTally cell requestId [⟨.value (.dict items), none⟩] true
          drainAfter.receivedForCell successes failures := by
  have unchanged : Tally live (live.seeSnapshot items payload) 0 0 [] [] := by
    obtain ⟨workingRts, snapped⟩ := seeSnapshot_eq live items payload
    rw [snapped]
    exact Tally.same rfl rfl rfl rfl
  have notRaised : ¬ Raised [⟨.value (.dict items), none⟩] := by
    simp [Raised]
  have completion : Tick.completion cell requestId
      ⟨.value (.dict items), none⟩ =
        if isCorrelated requestId items payload ||
          isKeyedFailure cell payload then some payload else none :=
    Tick.completion_eq hasPayload
  have completed :
      (isCorrelated requestId items payload ||
        isKeyedFailure cell payload) = true →
      completionOf cell requestId [⟨.value (.dict items), none⟩] =
        some payload := by
    intro completes
    simp [completionOf, completion, completes]
  cases takes with
  | succeeded correlated noCode =>
      exact Or.inr ⟨_, _, rfl, unchanged.trans (Tally.succeed _ cell _),
        .succeeded notRaised (completed (by simp [correlated])) hasPayload
          noCode⟩
  | failed correlated hasCode =>
      exact Or.inr ⟨_, _, rfl, unchanged.trans (Tally.fail _ cell _),
        .failed notRaised (completed (by simp [correlated])) hasPayload
          hasCode⟩
  | keyed _ keyed =>
      have hasCode : countsFailed payload = true := by
        unfold isKeyedFailure at keyed
        exact (Bool.and_eq_true_iff.mp keyed).1
      exact Or.inr ⟨_, _, rfl, unchanged.trans (Tally.fail _ cell _),
        .failed notRaised (completed (by simp [keyed])) hasPayload hasCode⟩
  | passed notCorrelated notKeyed =>
      refine Or.inl ⟨?_, notCompleted, notTaken, unchanged⟩
      simp [completion, notCorrelated, notKeyed]

/-- The frames that are no value, or an empty one, complete no cell. -/
theorem completion_empty {reply : PyJson} {reading : Option Time}
    (isEmpty : reply.truthy = false) :
    Tick.completion cell requestId ⟨.value reply, reading⟩ = none := by
  unfold Tick.completion
  cases reply with
  | dict items =>
      cases items with
      | nil => rfl
      | cons item rest => cases isEmpty
  | _ => rfl

/-- Between two points of its loop a drain is interrupted, or it counts and
completes the cell by the receives made. -/
def DrainTallies (cell requestId : PyString) (live after : LiveState World)
    (drain drainAfter : DrainState) : Prop :=
  after.interrupted = true ∨
    ∃ ticks successes failures,
      drainAfter.ticks = drain.ticks ++ ticks ∧
      Tally live after successes failures [] [] ∧
      DrainTally cell requestId ticks drainAfter.cellCompleted
        drainAfter.receivedForCell successes failures

theorem DrainTallies.cons
    {live middle after : LiveState World}
    {drain drainMiddle drainAfter : DrainState}
    (rest : DrainTallies cell requestId middle after drainMiddle drainAfter)
    (tally : Tally live middle 0 0 [] [])
    (ticked : drainMiddle.ticks = drain.ticks ++ [tick])
    (notRaised : ∀ message, tick.outcome ≠ .raised message)
    (silent : tick.completion cell requestId = none) :
    DrainTallies cell requestId live after drain drainAfter := by
  rcases rest with
    interrupted | ⟨ticks, successes, failures, restTicks, restTally, ends⟩
  · exact Or.inl interrupted
  · have both := tally.trans restTally
    simp only [Nat.zero_add, List.nil_append] at both
    refine Or.inr ⟨tick :: ticks, successes, failures, ?_, both,
      ends.cons notRaised silent⟩
    rw [restTicks, ticked, List.append_assoc]
    rfl

/-- How the drain loop of a cell ends, by its receives. -/
theorem DrainRun.tallies
    {window : Time} {live after : LiveState World}
    {drain drainAfter : DrainState}
    (run : DrainRun window cell requestId live drain after drainAfter)
    (notCompleted : drain.cellCompleted = false)
    (notTaken : drain.receivedForCell = none) :
    DrainTallies cell requestId live after drain drainAfter := by
  induction run with
  | interrupted live drain => exact Or.inl rfl
  | raised live drain message =>
      refine Or.inr ⟨_, 0, 1, rfl, Tally.fail live cell _, ?_⟩
      simp only [DrainState.tick, notTaken]
      exact .lost ⟨_, List.mem_singleton_self _, message, rfl⟩ rfl
  | completed took completed =>
      obtain ⟨items, payload, rfl, hasPayload, takes⟩ := takeReply_takes took
      rcases takes.tally hasPayload notCompleted notTaken with
        ⟨_, goesOn, _, _⟩ | ⟨successes, failures, _, tally, ends⟩
      · rw [goesOn] at completed
        cases completed
      · refine Or.inr ⟨_, successes, failures, takes.frame.2.2, tally, ?_⟩
        rw [completed]
        exact ends
  | passed took goesOn _ inductionHypothesis =>
      obtain ⟨items, payload, rfl, hasPayload, takes⟩ := takeReply_takes took
      rcases takes.tally hasPayload notCompleted notTaken with
        ⟨silent, _, taken, tally⟩ | ⟨_, _, completed, _, _⟩
      · exact (inductionHypothesis goesOn taken).cons tally takes.frame.2.2
          (fun message equal => by cases equal) silent
      · rw [goesOn] at completed
        cases completed
  | idle reading isEmpty _ _ inductionHypothesis =>
      exact (inductionHypothesis notCompleted notTaken).cons
        (Tally.same rfl rfl rfl rfl) rfl
        (fun message equal => by cases equal) (completion_empty isEmpty)
  | waiting reading isEmpty _ _ _ inductionHypothesis =>
      exact (inductionHypothesis notCompleted notTaken).cons
        (Tally.same rfl rfl rfl rfl) rfl
        (fun message equal => by cases equal) (completion_empty isEmpty)
  | quiet reading isEmpty _ _ =>
      refine Or.inr ⟨_, 0, 0, rfl, Tally.same rfl rfl rfl rfl, ?_⟩
      simp only [DrainState.tick, notTaken]
      refine .quiet (by simp [Raised]) ?_
      rw [completionOf, List.findSome?_cons, completion_empty isEmpty]
      rfl
  | timedOut live drain =>
      refine Or.inr ⟨[], 0, 0, by simp, Tally.same rfl rfl rfl rfl, ?_⟩
      rw [notCompleted, notTaken]
      exact .timedOut (by simp [Raised]) rfl

end

end RtsNotebook.LlmClient
