import RtsNotebook.Library.Runs
import RtsNotebook.Messaging.RunMime

/-!
# Waiting for a run to end

`PtyKernelClient.executeCell` and `routeSpan` as a transition system.  A call
waits until the client is ready, puts its own wrapper of the caller's sink in
the one slot `activeRunSink`, writes its envelope, and then, for a directive
that starts a run, waits for a terminal frame or for the cap of sixty seconds.

Two history variables are kept with a call and read by no step: the span that
the kernel opens for the run the call dispatches, and whether a terminal frame
of that span has arrived while the call was waiting.
-/

namespace RtsNotebook.Notebook.PtyKernelClient

open RtsNotebook.Library RtsNotebook.Js RtsNotebook.Messaging

/-- A call of `executeCell`, named by its position in call order. -/
abbrev CallId := Nat

/-- `directive.kind` -/
inductive DirectiveKind where
  | spawn
  | continuation
  | lineMagic
  | cellMagic
  deriving DecidableEq, Repr

/-- Only a spawn or a continuation goes on to the race with the timeout; every
other branch returns after the write. -/
def awaitsTerminal : Option DirectiveKind → Bool
  | some .spawn => true
  | some .continuation => true
  | _ => false

/-- Where a call stands: before the client is ready, in the race, or past it;
`returned` is the early return of the branches that wait for no span. -/
inductive CallPhase where
  | starting
  | waiting
  | resolved
  | returned
  | rejected
  deriving DecidableEq, Repr

structure Call where
  directive : Option DirectiveKind
  phase : CallPhase
  runSpan : JsString
  ownTerminalSeen : Bool
  deriving DecidableEq, Repr

structure State where
  calls : List Call
  activeRunSink : Option CallId
  deriving DecidableEq, Repr

inductive Event where
  | executeCell (directive : Option DirectiveKind)
  | ready (call : CallId) (runSpan : JsString)
  | startFailed (call : CallId)
  | frame (payload : Json) (emitThrows : Bool)
  | timeout (call : CallId)

namespace Call

/-- `resolve()` of the promise in the race, which counts while the race is
open. -/
def resolve (call : Call) : Call :=
  if call.phase = .waiting then { call with phase := .resolved } else call

/-- History: the frame is a terminal frame of the call's own run. -/
def observe (call : Call) (payload : Json) : Call :=
  if call.phase = .waiting ∧ isTerminalFrame payload = true ∧
      spanId? payload = some call.runSpan then
    { call with ownTerminalSeen := true }
  else
    call

end Call

namespace State

def initial : State where
  calls := []
  activeRunSink := none

def setPhase (state : State) (id : CallId) (phase : CallPhase) : State :=
  { state with
    calls := state.calls.modify id fun call => { call with phase := phase } }

/-- `executeCell` past the await of readiness, up to the race. -/
def dispatch (state : State) (id : CallId) (runSpan : JsString) : State where
  calls := state.calls.modify id fun call =>
    { call with
      phase := if awaitsTerminal call.directive then .waiting else .returned
      runSpan := runSpan
      ownTerminalSeen := false }
  activeRunSink := some id

/-- `routeSpan`: the frame goes to the wrapper in the slot.  An exception of
the wrapped sink is caught in `routeSpan`, so the terminal test is not
reached. -/
def routeSpan (state : State) (payload : Json) (emitThrows : Bool) : State :=
  match state.activeRunSink with
  | none => state
  | some id =>
      if emitThrows then
        state
      else if isTerminalFrame payload then
        { state with calls := state.calls.modify id Call.resolve }
      else
        state

/-- The history variables over one frame. -/
def observe (state : State) (payload : Json) : State :=
  { state with calls := state.calls.map fun call => call.observe payload }

end State

/-- One event.  A frame that is not a span frame is dispatched elsewhere. -/
def step (state : State) : Event → Option State
  | .executeCell directive =>
      some { state with
        calls := state.calls ++
          [{ directive := directive
             phase := .starting
             runSpan := []
             ownTerminalSeen := false }] }
  | .ready id runSpan =>
      if (state.calls[id]?).any fun call => call.phase = .starting then
        some (state.dispatch id runSpan)
      else
        none
  | .startFailed id =>
      if (state.calls[id]?).any fun call => call.phase = .starting then
        some (state.setPhase id .rejected)
      else
        none
  | .frame payload emitThrows =>
      if (spanId? payload).isSome then
        some ((state.observe payload).routeSpan payload emitThrows)
      else
        some state
  | .timeout id =>
      if (state.calls[id]?).any fun call => call.phase = .waiting then
        some (state.setPhase id .rejected)
      else
        none

/-- Any number of calls, overlapping or one after the other, interleaved with
inbound frames. -/
def system : System State Event where
  initial := State.initial
  step := step

/-! ### Resolving with the own run -/

/-- A call whose promise has resolved has seen a terminal frame of its own run
while it waited, and a call that still waits has seen none. -/
structure CompletesWithOwnRun (state : State) : Prop where
  resolvedAfterOwn : ∀ (id : CallId) (call : Call),
    state.calls[id]? = some call → call.phase = .resolved →
    call.ownTerminalSeen = true
  ownResolves : ∀ (id : CallId) (call : Call),
    state.calls[id]? = some call → call.phase = .waiting →
    call.ownTerminalSeen = false

/-- At a terminal frame, the slot holds a waiting call, and its sink does not
throw, exactly where the frame is of the span of that call's run. -/
def SlotHoldsOwner (state : State) : Event → Prop
  | .frame payload emitThrows =>
      isTerminalFrame payload = true →
      ∀ spanId, spanId? payload = some spanId →
      ∀ (id : CallId) (call : Call), state.calls[id]? = some call →
        call.phase = .waiting →
        (state.activeRunSink = some id ∧ emitThrows = false ↔
          spanId = call.runSpan)
  | _ => True

/-- What one frame makes of one call. -/
def afterFrame (state : State) (payload : Json) (emitThrows : Bool)
    (id : CallId) (call : Call) : Call :=
  if state.activeRunSink = some id ∧ emitThrows = false ∧
      isTerminalFrame payload = true then
    (call.observe payload).resolve
  else
    call.observe payload

theorem frame_calls
    (state : State) (payload : Json) (emitThrows : Bool) (id : CallId) :
    ((state.observe payload).routeSpan payload emitThrows).calls[id]? =
      (state.calls[id]?).map (afterFrame state payload emitThrows id) := by
  have observed : (state.observe payload).calls[id]? =
      (state.calls[id]?).map fun call => call.observe payload := by
    simp [State.observe]
  have slotKept :
      (state.observe payload).activeRunSink = state.activeRunSink := rfl
  unfold State.routeSpan
  rw [slotKept]
  by_cases fires : state.activeRunSink = some id ∧ emitThrows = false ∧
      isTerminalFrame payload = true
  · obtain ⟨slot, rfl, terminal⟩ := fires
    cases found : state.calls[id]? <;>
      simp [slot, terminal, afterFrame, observed, found]
  · have silent : afterFrame state payload emitThrows id =
        fun call => call.observe payload := by
      funext call
      rw [afterFrame, if_neg fires]
    rw [silent, ← observed]
    cases slot : state.activeRunSink with
    | none => rfl
    | some holder =>
        cases emitThrows with
        | true => rfl
        | false =>
            cases terminal : isTerminalFrame payload with
            | false => simp
            | true =>
                have different : holder ≠ id := by
                  simpa [slot, terminal] using fires
                simp [different]

theorem afterFrame_of_not_terminal
    {state : State} {payload : Json} {emitThrows : Bool} {id : CallId}
    {call : Call} (open_ : ¬ isTerminalFrame payload = true) :
    afterFrame state payload emitThrows id call = call := by
  simp [afterFrame, Call.observe, open_]

theorem afterFrame_of_not_waiting
    {state : State} {payload : Json} {emitThrows : Bool} {id : CallId}
    {call : Call} (isOver : call.phase ≠ .waiting) :
    afterFrame state payload emitThrows id call = call := by
  have unobserved : call.observe payload = call := by
    simp [Call.observe, isOver]
  simp [afterFrame, unobserved, Call.resolve, isOver]

/-- A terminal frame makes a waiting call resolve by the slot and records it by
the span. -/
theorem afterFrame_of_waiting
    {state : State} {payload : Json} {emitThrows : Bool} {id : CallId}
    {call : Call} (terminal : isTerminalFrame payload = true)
    (waiting : call.phase = .waiting) :
    afterFrame state payload emitThrows id call =
      { call with
        phase :=
          if state.activeRunSink = some id ∧ emitThrows = false then
            .resolved
          else
            .waiting
        ownTerminalSeen :=
          if spanId? payload = some call.runSpan then true
          else call.ownTerminalSeen } := by
  obtain ⟨directive, phase, runSpan, seen⟩ := call
  cases waiting
  unfold afterFrame Call.observe Call.resolve
  by_cases fires : state.activeRunSink = some id ∧ emitThrows = false <;>
  by_cases own : spanId? payload = some runSpan <;>
    simp [fires, own, terminal]

private theorem modified_call
    {calls : List Call} {id tested : CallId} {change : Call → Call}
    {call : Call} (found : (calls.modify id change)[tested]? = some call) :
    calls[tested]? = some call ∨
      ∃ old, calls[tested]? = some old ∧ call = change old := by
  rw [List.getElem?_modify] at found
  split at found
  · obtain ⟨old, oldFound, rfl⟩ := Option.map_eq_some_iff.mp found
    exact Or.inr ⟨old, oldFound, rfl⟩
  · exact Or.inl (by simpa using found)

theorem CompletesWithOwnRun.setPhase
    {state : State} (completes : CompletesWithOwnRun state) (id : CallId) :
    CompletesWithOwnRun (state.setPhase id .rejected) where
  resolvedAfterOwn := by
    intro tested call found resolved
    rcases modified_call found with same | ⟨old, _, rfl⟩
    · exact completes.resolvedAfterOwn tested call same resolved
    · cases resolved
  ownResolves := by
    intro tested call found waiting
    rcases modified_call found with same | ⟨old, _, rfl⟩
    · exact completes.ownResolves tested call same waiting
    · cases waiting

theorem CompletesWithOwnRun.dispatch
    {state : State} (completes : CompletesWithOwnRun state) (id : CallId)
    (runSpan : JsString) :
    CompletesWithOwnRun (state.dispatch id runSpan) where
  resolvedAfterOwn := by
    intro tested call found resolved
    rcases modified_call found with same | ⟨old, _, rfl⟩
    · exact completes.resolvedAfterOwn tested call same resolved
    · cases awaits : awaitsTerminal old.directive <;>
        simp [awaits] at resolved
  ownResolves := by
    intro tested call found waiting
    rcases modified_call found with same | ⟨old, _, rfl⟩
    · exact completes.ownResolves tested call same waiting
    · rfl

theorem CompletesWithOwnRun.executeCell
    {state : State} (completes : CompletesWithOwnRun state)
    (directive : Option DirectiveKind) :
    CompletesWithOwnRun { state with
      calls := state.calls ++
        [{ directive := directive
           phase := .starting
           runSpan := []
           ownTerminalSeen := false }] } := by
  have cases : ∀ (id : CallId) (call : Call),
      (state.calls ++
        [{ directive := directive
           phase := .starting
           runSpan := []
           ownTerminalSeen := false }])[id]? = some call →
      state.calls[id]? = some call ∨ call.phase = .starting := by
    intro id call found
    rw [List.getElem?_append] at found
    split at found
    · exact Or.inl found
    · rw [List.getElem?_singleton] at found
      split at found
      · cases found
        exact Or.inr rfl
      · cases found
  constructor
  · intro id call found resolved
    rcases cases id call found with old | starting
    · exact completes.resolvedAfterOwn id call old resolved
    · rw [starting] at resolved
      cases resolved
  · intro id call found waiting
    rcases cases id call found with old | starting
    · exact completes.ownResolves id call old waiting
    · rw [starting] at waiting
      cases waiting

/-- A frame keeps the property exactly where the slot holds the owner. -/
theorem completes_frame_iff
    {state : State} (completes : CompletesWithOwnRun state)
    {payload : Json} {emitThrows : Bool} {spanId : JsString}
    (hasSpan : spanId? payload = some spanId) :
    CompletesWithOwnRun
        ((state.observe payload).routeSpan payload emitThrows) ↔
      SlotHoldsOwner state (.frame payload emitThrows) := by
  constructor
  · intro after terminal tested testedEq id call found waiting
    have unseen := completes.ownResolves id call found waiting
    have next :=
      (frame_calls state payload emitThrows id).trans
        (congrArg (Option.map (afterFrame state payload emitThrows id)) found)
    rw [Option.map_some, afterFrame_of_waiting terminal waiting] at next
    rw [testedEq] at next
    constructor
    · intro fires
      have seen := after.resolvedAfterOwn id _ next (by simp [fires])
      by_contra other
      simp [other, unseen] at seen
    · intro own
      by_contra silent
      have seen := after.ownResolves id _ next (by simp [silent])
      simp [own] at seen
  · intro owner
    have perCall : ∀ (id : CallId) (call : Call),
        ((state.observe payload).routeSpan payload emitThrows).calls[id]? =
          some call →
        (call.phase = .resolved → call.ownTerminalSeen = true) ∧
          (call.phase = .waiting → call.ownTerminalSeen = false) := by
      intro id call found
      rw [frame_calls] at found
      obtain ⟨old, oldFound, rfl⟩ := Option.map_eq_some_iff.mp found
      have oldResolved := completes.resolvedAfterOwn id old oldFound
      have oldWaiting := completes.ownResolves id old oldFound
      by_cases terminal : isTerminalFrame payload = true
      · by_cases waiting : old.phase = .waiting
        · have agree :=
            owner terminal spanId hasSpan id old oldFound waiting
          rw [afterFrame_of_waiting terminal waiting, hasSpan]
          by_cases own : spanId = old.runSpan
          · simp [agree, own]
          · simp [agree, own, oldWaiting waiting]
        · rw [afterFrame_of_not_waiting waiting]
          exact ⟨oldResolved, oldWaiting⟩
      · rw [afterFrame_of_not_terminal terminal]
        exact ⟨oldResolved, oldWaiting⟩
    exact
      { resolvedAfterOwn := fun id call found => (perCall id call found).1
        ownResolves := fun id call found => (perCall id call found).2 }

/-- One event keeps the property exactly where the slot holds the owner. -/
theorem completes_step_iff
    {state next : State} {event : Event}
    (completes : CompletesWithOwnRun state)
    (stepped : step state event = some next) :
    CompletesWithOwnRun next ↔ SlotHoldsOwner state event := by
  cases event with
  | executeCell directive =>
      cases stepped
      exact iff_of_true (completes.executeCell directive) trivial
  | ready id runSpan =>
      simp only [step, Option.ite_none_right_eq_some, Option.some.injEq]
        at stepped
      obtain ⟨_, rfl⟩ := stepped
      exact iff_of_true (completes.dispatch id runSpan) trivial
  | startFailed id =>
      simp only [step, Option.ite_none_right_eq_some, Option.some.injEq]
        at stepped
      obtain ⟨_, rfl⟩ := stepped
      exact iff_of_true (completes.setPhase id) trivial
  | timeout id =>
      simp only [step, Option.ite_none_right_eq_some, Option.some.injEq]
        at stepped
      obtain ⟨_, rfl⟩ := stepped
      exact iff_of_true (completes.setPhase id) trivial
  | frame payload emitThrows =>
      cases hasSpan : spanId? payload with
      | none =>
          simp only [step, hasSpan, Option.isSome_none, Bool.false_eq_true,
            if_false, Option.some.injEq] at stepped
          subst stepped
          refine iff_of_true completes ?_
          intro _ spanId found
          rw [hasSpan] at found
          cases found
      | some spanId =>
          simp only [step, hasSpan, Option.isSome_some, if_true,
            Option.some.injEq] at stepped
          subst stepped
          exact completes_frame_iff completes hasSpan

theorem CompletesWithOwnRun.initial : CompletesWithOwnRun State.initial where
  resolvedAfterOwn := by simp [State.initial]
  ownResolves := by simp [State.initial]

/-- Every call completes with its own run, on the whole run of the client,
exactly when at every terminal frame the slot holds the waiting call whose
run's span the frame closes, and no other waiting call. -/
theorem completesWithOwnRun_iff_slotHoldsOwner (events : List Event) :
    system.Always CompletesWithOwnRun State.initial events ↔
      system.StepsMeet SlotHoldsOwner State.initial events :=
  System.always_iff_stepsMeet (I := fun _ => True)
    (fun _ _ _ _ completes stepped owner =>
      ⟨trivial, (completes_step_iff completes stepped).mpr owner⟩)
    (fun _ _ _ _ completes stepped foreign kept =>
      foreign ((completes_step_iff completes stepped).mp kept))
    events trivial CompletesWithOwnRun.initial

/-- A terminal frame of a span. -/
def closedSpan (spanId : String) : Json :=
  .object
    [(js "spanId", .string (js spanId)),
      (js "endTimeUnixNano", .string (js "2"))]

/-- A nested span of the only run closes. -/
def nestedSpanCloses : List Event :=
  [.executeCell (some .spawn), .ready 0 (js "run"),
    .frame (closedSpan "child") false]

/-- A second call takes the slot before the first run closes. -/
def secondCallTakesSlot : List Event :=
  [.executeCell (some .spawn), .ready 0 (js "first"),
    .executeCell (some .continuation), .ready 1 (js "second"),
    .frame (closedSpan "first") false]

/-- The nested span resolves the call early; and the first call misses its own
terminal frame, which resolves the second. -/
theorem executeCell_completes_with_other_runs :
    ¬ system.Always CompletesWithOwnRun State.initial nestedSpanCloses ∧
      ¬ system.Always CompletesWithOwnRun State.initial
        secondCallTakesSlot := by
  constructor <;> intro always
  · have last := always.last rfl
    have seen := last.resolvedAfterOwn 0 _ rfl (by decide)
    revert seen
    decide
  · have last := always.last rfl
    have missed := last.ownResolves 0 _ rfl (by decide)
    revert missed
    decide

end RtsNotebook.Notebook.PtyKernelClient
