import RtsNotebook.LlmClient.LiveTally

/-!
# The lines of a live run

Each envelope that is sent, or cannot be, gives a line that the replay reads
for whatever cell, since it carries no `cell_id` where the replay looks for
one.  The replay goes by the status of the received frame and the run by its
`k_code`.
-/

namespace RtsNotebook.LlmClient

open RtsNotebook.Python

section

variable {World : Type} {cell requestId : PyString} {ticks : List Tick}

/-! ### Lines -/

/-- The replay reads the line, for whatever cell. -/
structure Readable (line : PyJson) : Prop where
  sent : ∃ payload, sentPayload line = .ok payload ∧
    ∀ cell, isOtherCell cell payload = false
  received : ∃ read, receivedPayload line = .ok read

/-- The replay counts the line as a success. -/
def lineOk (line : PyJson) : Bool :=
  match receivedPayload line with
  | .ok (_, payload) => readsOk payload
  | .error _ => false

theorem Readable.readEntry {line : PyJson} (readable : Readable line)
    (cell : PyString) :
    ∃ received payload,
      LlmClient.readEntry cell line = .ok (received, payload) ∧
        readsOk payload = lineOk line := by
  obtain ⟨sent, hasSent, ownCell⟩ := readable.sent
  obtain ⟨⟨received, payload⟩, read⟩ := readable.received
  refine ⟨received, payload, ?_, ?_⟩
  · unfold LlmClient.readEntry
    rw [bind_of_ok (otherwise_eq_ok.mpr hasSent), ownCell]
    exact otherwise_eq_ok.mpr read
  · unfold lineOk
    rw [read]

theorem readEntry_noneSent (cell : PyString) (received : PyJson) :
    LlmClient.readEntry cell (lineOf .none received) = .error .raised :=
  rfl

/-- The payload of the envelope of a cell has no `cell_id`. -/
def NamesNoCell (envelope : PyJson) : Prop :=
  ∃ payload,
    (∀ received,
      sentPayload (lineOf envelope received) = .ok payload) ∧
      ∀ cell, isOtherCell cell payload = false

theorem namesNoCell_of_derived
    {surroundings : Surroundings} {record : List (PyString × PyJson)}
    {sessionId : PyString} {ordinal : Nat} {envelope : PyJson}
    (derived : deriveCellEnvelope surroundings cell record sessionId ordinal =
      .ok (some envelope)) :
    NamesNoCell envelope := by
  unfold deriveCellEnvelope at derived
  dsimp only at derived
  split at derived
  · split at derived
    · split at derived
      · cases derived
        exact ⟨_, fun _ => rfl, fun _ => rfl⟩
      · cases derived
    · split at derived
      · split at derived
        · cases derived
          exact ⟨_, fun _ => rfl, fun _ => rfl⟩
        · cases derived
      · split at derived
        · split at derived
          · cases derived
          · split at derived
            · split at derived
              · cases derived
              · cases derived
                exact ⟨_, fun _ => rfl, fun _ => rfl⟩
            · cases derived
        · cases derived
  · cases derived

theorem receivedPayload_lineOf
    {items payload : List (PyString × PyJson)} (envelope : PyJson)
    (hasPayload : replyPayload items = .ok payload) :
    receivedPayload (lineOf envelope (.dict items)) =
      .ok (.dict items, payload) :=
  bind_of_ok hasPayload _

theorem readable_lineOf
    {envelope : PyJson} {items payload : List (PyString × PyJson)}
    (namesNoCell : NamesNoCell envelope)
    (hasPayload : replyPayload items = .ok payload) :
    Readable (lineOf envelope (.dict items)) := by
  obtain ⟨sent, hasSent, ownCell⟩ := namesNoCell
  exact ⟨⟨sent, hasSent _, ownCell⟩,
    ⟨_, receivedPayload_lineOf envelope hasPayload⟩⟩

theorem lineOk_lineOf
    {items payload : List (PyString × PyJson)} (envelope : PyJson)
    (hasPayload : replyPayload items = .ok payload) :
    lineOk (lineOf envelope (.dict items)) = readsOk payload := by
  unfold lineOk
  rw [receivedPayload_lineOf envelope hasPayload]

/-! ### One turn -/

/-- The replay reads the lines, and what it counts differs from what the run
has counted by the frames that it reads otherwise and by the receives that
raised. -/
structure Balanced (successes failures : Nat) (lines : List PyJson)
    (drains : List (Drain World)) : Prop where
  readable : ∀ line ∈ lines, Readable line
  successes_eq : successes + drains.countP Drain.misreadOk =
    lines.countP lineOk + drains.countP Drain.misreadFailed
  total_eq : successes + failures =
    lines.length + drains.countP Drain.receiveRaised

theorem Balanced.append
    {firstSuccesses firstFailures secondSuccesses secondFailures : Nat}
    {firstLines secondLines : List PyJson}
    {firstDrains secondDrains : List (Drain World)}
    (first : Balanced firstSuccesses firstFailures firstLines firstDrains)
    (second : Balanced secondSuccesses secondFailures secondLines
      secondDrains) :
    Balanced (firstSuccesses + secondSuccesses)
      (firstFailures + secondFailures) (firstLines ++ secondLines)
      (firstDrains ++ secondDrains) where
  readable := by
    intro line member
    rcases List.mem_append.mp member with inFirst | inSecond
    · exact first.readable line inFirst
    · exact second.readable line inSecond
  successes_eq := by
    have firstEq := first.successes_eq
    have secondEq := second.successes_eq
    simp only [List.countP_append]
    omega
  total_eq := by
    have firstEq := first.total_eq
    have secondEq := second.total_eq
    simp only [List.countP_append, List.length_append]
    omega

theorem receiveRaised_iff (drain : Drain World) :
    drain.receiveRaised = true ↔ Raised drain.ticks := by
  unfold Drain.receiveRaised Raised
  rw [List.any_eq_true]
  refine exists_congr fun tick => and_congr_right fun _ => ?_
  cases tick.outcome <;> simp

theorem countP_single {Item : Type} (holds : Item → Bool) (item : Item) :
    [item].countP holds = (holds item).toNat := by
  cases found : holds item <;> simp [found]

theorem Balanced.single
    {successes failures : Nat} {line : PyJson} {drain : Drain World}
    (readable : Readable line)
    (successes_eq : successes + drain.misreadOk.toNat =
      (lineOk line).toNat + drain.misreadFailed.toNat)
    (total_eq : successes + failures = 1 + drain.receiveRaised.toNat) :
    Balanced successes failures [line] [drain] where
  readable := by
    intro other member
    rw [List.mem_singleton.mp member]
    exact readable
  successes_eq := by
    simp only [countP_single]
    exact successes_eq
  total_eq := by
    simp only [countP_single, List.length_singleton]
    exact total_eq

theorem Balanced.refused {line : PyJson} (readable : Readable line)
    (isFailure : lineOk line = false) :
    Balanced 0 1 [line] ([] : List (Drain World)) where
  readable := by
    intro other member
    rw [List.mem_singleton.mp member]
    exact readable
  successes_eq := by
    rw [countP_single, isFailure]
    rfl
  total_eq := rfl

/-- The line that is recorded for a cell, and what is counted with it. -/
inductive Settlement (cell : PyString) (envelope : PyJson)
    (live after : LiveState World) :
    Bool → Option PyJson → Prop where
  | timedOut {received : Option PyJson} {message : PyString}
      (tally : Tally live after 0 1
        [lineOf envelope
          (syntheticKEnvelope cell (py "K_CELL_TIMEOUT") message)] []) :
      Settlement cell envelope live after false received
  | answered {reply : PyJson}
      (tally : Tally live after 0 0 [lineOf envelope reply] []) :
      Settlement cell envelope live after true (some reply)
  | quiet {ordinal : Nat} {outputs : List PyJson}
      (tally : Tally live after 1 0
        [lineOf envelope (syntheticSuccess cell ordinal outputs)] []) :
      Settlement cell envelope live after true none

theorem settleCell_cases
    {config : LiveConfig} {ordinal : Nat} {envelope : PyJson}
    {live after : LiveState World} {drain : DrainState}
    (recording : config.recording = true)
    (settled : settleCell config cell ordinal envelope live drain =
      .ok after) :
    after.interrupted = live.interrupted ∧
      Settlement cell envelope live after drain.cellCompleted
        drain.receivedForCell := by
  have settles := settleCell_settles settled
  generalize drain.cellCompleted = completed at settles
  generalize drain.receivedForCell = received at settles
  cases settles with
  | timedOut received message =>
      exact ⟨by simp [LiveState.fail], .timedOut
        ((Tally.fail live cell _).trans (Tally.record recording _ envelope _))⟩
  | answered reply =>
      exact ⟨by simp, .answered (Tally.record recording live envelope reply)⟩
  | quiet ordinal outputs =>
      exact ⟨by simp [LiveState.succeed], .quiet
        ((Tally.succeed live cell _).trans
          (Tally.record recording _ envelope _))⟩

theorem line_syntheticSuccess {envelope : PyJson}
    (namesNoCell : NamesNoCell envelope) (cell : PyString) (ordinal : Nat)
    (outputs : List PyJson) :
    Readable (lineOf envelope (syntheticSuccess cell ordinal outputs)) ∧
      lineOk (lineOf envelope (syntheticSuccess cell ordinal outputs)) =
        true :=
  ⟨readable_lineOf namesNoCell rfl, rfl⟩

theorem line_syntheticKEnvelope {envelope : PyJson}
    (namesNoCell : NamesNoCell envelope) (cell kCode message : PyString) :
    Readable (lineOf envelope (syntheticKEnvelope cell kCode message)) ∧
      lineOk (lineOf envelope (syntheticKEnvelope cell kCode message)) =
        false :=
  ⟨readable_lineOf namesNoCell rfl, rfl⟩

/-- A frame has completed the cell. -/
theorem Balanced.answered
    {envelope : PyJson} {items payload : List (PyString × PyJson)}
    (notRaised : ¬ Raised ticks)
    (completion : completionOf cell requestId ticks = some payload)
    (hasPayload : replyPayload items = .ok payload)
    (namesNoCell : NamesNoCell envelope) (world : World) :
    Balanced (!countsFailed payload).toNat (countsFailed payload).toNat
      [lineOf envelope (.dict items)]
      [(⟨cell, requestId, ticks, world⟩ : Drain World)] := by
  have raises := receiveRaised_iff
    (⟨cell, requestId, ticks, world⟩ : Drain World)
  refine .single (readable_lineOf namesNoCell hasPayload) ?_ ?_
  · rw [lineOk_lineOf envelope hasPayload]
    simp only [Drain.misreadOk, Drain.misreadFailed, completion,
      Option.any_some]
    cases countsFailed payload <;> cases readsOk payload <;> rfl
  · rw [Bool.eq_false_of_not_eq_true (mt raises.mp notRaised)]
    cases countsFailed payload <;> rfl

/-- No frame has completed the cell, and a synthetic one is recorded. -/
theorem Balanced.silent
    {line : PyJson} {successes failures : Nat}
    (silent : completionOf cell requestId ticks = none)
    (readable : Readable line) (world : World)
    (successes_eq : successes = (lineOk line).toNat)
    (total_eq : successes + failures = 1 +
      (Drain.receiveRaised
        (⟨cell, requestId, ticks, world⟩ : Drain World)).toNat) :
    Balanced successes failures [line]
      [(⟨cell, requestId, ticks, world⟩ : Drain World)] := by
  refine .single readable ?_ total_eq
  simp only [Drain.misreadOk, Drain.misreadFailed, silent, successes_eq]
  rfl

theorem DrainTally.settled
    {envelope : PyJson} {live after : LiveState World} {completed : Bool}
    {received : Option PyJson} {successes failures : Nat}
    (ends : DrainTally cell requestId ticks completed received successes
      failures)
    (settlement : Settlement cell envelope live after completed received)
    (namesNoCell : NamesNoCell envelope) (world : World) :
    ∃ moreSuccesses moreFailures line,
      Tally live after moreSuccesses moreFailures [line] [] ∧
      Balanced (successes + moreSuccesses) (failures + moreFailures) [line]
        [(⟨cell, requestId, ticks, world⟩ : Drain World)] := by
  have raises := receiveRaised_iff
    (⟨cell, requestId, ticks, world⟩ : Drain World)
  cases ends with
  | succeeded notRaised completion hasPayload counted =>
      cases settlement with
      | answered tally =>
          have balanced := Balanced.answered notRaised completion hasPayload
            namesNoCell world
          rw [counted] at balanced
          exact ⟨_, _, _, tally, balanced⟩
  | failed notRaised completion hasPayload counted =>
      cases settlement with
      | answered tally =>
          have balanced := Balanced.answered notRaised completion hasPayload
            namesNoCell world
          rw [counted] at balanced
          exact ⟨_, _, _, tally, balanced⟩
  | lost raised silent =>
      cases settlement with
      | quiet tally =>
          obtain ⟨readable, isOk⟩ :=
            line_syntheticSuccess namesNoCell cell _ _
          refine ⟨_, _, _, tally, .silent silent readable world ?_ ?_⟩
          · rw [isOk]
            rfl
          · rw [raises.mpr raised]
            rfl
  | quiet notRaised silent =>
      cases settlement with
      | quiet tally =>
          obtain ⟨readable, isOk⟩ :=
            line_syntheticSuccess namesNoCell cell _ _
          refine ⟨_, _, _, tally, .silent silent readable world ?_ ?_⟩
          · rw [isOk]
            rfl
          · rw [Bool.eq_false_of_not_eq_true (mt raises.mp notRaised)]
            rfl
  | timedOut notRaised silent =>
      cases settlement with
      | timedOut tally =>
          obtain ⟨readable, isFailure⟩ :=
            line_syntheticKEnvelope namesNoCell cell _ _
          refine ⟨_, _, _, tally, .silent silent readable world ?_ ?_⟩
          · rw [isFailure]
            rfl
          · rw [Bool.eq_false_of_not_eq_true (mt raises.mp notRaised)]
            rfl

end

end RtsNotebook.LlmClient
