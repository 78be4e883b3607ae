import Mathlib.Data.List.Basic

/-!
# Runs of a guarded transition system

A system has an initial state and a partial step function.  An event that the
step function refuses cannot happen, so a run is a list of events each of
which is accepted in the state that the earlier ones reach.

Two notions compare a run with a condition.  `Always P` says that every state
on the run satisfies `P`.  `StepsMeet K` says that every step of the run meets
the condition `K`, which reads only the state before the step and the event.
The rule `always_iff_stepsMeet` makes `K` the exact condition for `P`, from two
facts about one step: a step that meets `K` keeps `P`, and one that does not
meet `K` breaks it.

For a state that every event either leaves alone or overwrites, the last event
that overwrites it decides (`view_foldl_last`).
-/

namespace RtsNotebook.Library

/-- A transition system whose step function refuses the events that cannot
happen. -/
structure System (State Event : Type*) where
  initial : State
  step : State → Event → Option State

namespace System

variable {State Event : Type*} (system : System State Event)

/-- The state after a list of events, if every event is accepted. -/
def exec : State → List Event → Option State
  | state, [] => some state
  | state, event :: events =>
      (system.step state event).bind fun next => exec next events

/-- Every state on the run satisfies `P`, the first and the last included. -/
def Always (P : State → Prop) : State → List Event → Prop
  | state, [] => P state
  | state, event :: events =>
      P state ∧
        ∀ next, system.step state event = some next → Always P next events

/-- Every accepted step of the run meets `K`. -/
def StepsMeet (K : State → Event → Prop) : State → List Event → Prop
  | _, [] => True
  | state, event :: events =>
      ∀ next, system.step state event = some next →
        K state event ∧ StepsMeet K next events

@[simp]
theorem exec_nil (state : State) : system.exec state [] = some state := rfl

@[simp]
theorem exec_cons (state : State) (event : Event) (events : List Event) :
    system.exec state (event :: events) =
      (system.step state event).bind fun next => system.exec next events := rfl

theorem exec_append (state : State) (first second : List Event) :
    system.exec state (first ++ second) =
      (system.exec state first).bind fun next => system.exec next second := by
  induction first generalizing state with
  | nil =>
      rfl
  | cons event events inductionHypothesis =>
      rw [List.cons_append, exec_cons, exec_cons, Option.bind_assoc]
      exact Option.bind_congr fun next _ => inductionHypothesis next

variable {system}

theorem Always.head
    {P : State → Prop} {state : State} {events : List Event}
    (always : system.Always P state events) :
    P state := by
  cases events with
  | nil =>
      exact always
  | cons event events =>
      exact always.1

/-- The last state of a run is on the run. -/
theorem Always.last
    {P : State → Prop} {state final : State} {events : List Event}
    (always : system.Always P state events)
    (run : system.exec state events = some final) :
    P final := by
  induction events generalizing state with
  | nil =>
      cases run
      exact always
  | cons event events inductionHypothesis =>
      rw [exec_cons, Option.bind_eq_some_iff] at run
      obtain ⟨next, stepped, rest⟩ := run
      exact inductionHypothesis (always.2 next stepped) rest

/-- What every allowed step keeps is kept by a run of allowed events. -/
theorem keeps_exec
    {P : State → Prop} {Allowed : Event → Prop}
    (keeps : ∀ state event next, P state → Allowed event →
      system.step state event = some next → P next)
    {state final : State} {events : List Event} (start : P state)
    (allowed : ∀ event ∈ events, Allowed event)
    (run : system.exec state events = some final) :
    P final := by
  induction events generalizing state with
  | nil =>
      cases run
      exact start
  | cons event events inductionHypothesis =>
      rw [exec_cons, Option.bind_eq_some_iff] at run
      obtain ⟨next, stepped, rest⟩ := run
      rw [List.forall_mem_cons] at allowed
      exact inductionHypothesis
        (keeps state event next start allowed.1 stepped) allowed.2 rest

/-- The exactness rule.  Where a step that meets `K` keeps `P` and a step that
does not meet `K` breaks it, `P` holds on the whole run exactly when every step
meets `K`.  The invariant `I` may use `P` and has to survive only the steps
that meet `K`. -/
theorem always_iff_stepsMeet
    {I P : State → Prop} {K : State → Event → Prop}
    (keeps : ∀ state event next, I state → P state →
      system.step state event = some next → K state event →
      I next ∧ P next)
    (breaks : ∀ state event next, I state → P state →
      system.step state event = some next → ¬ K state event → ¬ P next)
    {state : State} (events : List Event)
    (start : I state) (holds : P state) :
    system.Always P state events ↔ system.StepsMeet K state events := by
  induction events generalizing state with
  | nil =>
      exact ⟨fun _ => trivial, fun _ => holds⟩
  | cons event events inductionHypothesis =>
      constructor
      · intro always next stepped
        have nextHolds : P next := (always.2 next stepped).head
        have meets : K state event := by
          by_contra misses
          exact breaks state event next start holds stepped misses nextHolds
        obtain ⟨nextInvariant, _⟩ :=
          keeps state event next start holds stepped meets
        exact ⟨meets,
          (inductionHypothesis nextInvariant nextHolds).mp
            (always.2 next stepped)⟩
      · intro meetsAll
        refine ⟨holds, fun next stepped => ?_⟩
        obtain ⟨meets, rest⟩ := meetsAll next stepped
        obtain ⟨nextInvariant, nextHolds⟩ :=
          keeps state event next start holds stepped meets
        exact (inductionHypothesis nextInvariant nextHolds).mpr rest

end System

/-- A view of the state that an event either leaves as it is or replaces by
what it brings is decided by the last event that brings something. -/
theorem view_foldl_last {State Event Input View : Type*}
    {step : State → Event → State} {read : Event → Option Input}
    (view : State → View) (shown : Input → View)
    (ignored : ∀ state event, read event = none →
      view (step state event) = view state)
    (written : ∀ state event input, read event = some input →
      view (step state event) = shown input)
    (state : State) (events : List Event) :
    view (events.foldl step state) =
      ((events.filterMap read).getLast?.map shown).getD (view state) := by
  induction events generalizing state with
  | nil =>
      rfl
  | cons event events inductionHypothesis =>
      rw [List.foldl_cons, inductionHypothesis (step state event)]
      cases brought : read event with
      | none =>
          rw [List.filterMap_cons_none brought, ignored state event brought]
      | some input =>
          rw [List.filterMap_cons_some brought, List.getLast?_cons,
            written state event input brought]
          cases (events.filterMap read).getLast? <;> rfl

end RtsNotebook.Library
