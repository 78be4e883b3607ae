import Mathlib.Data.List.Basic

/-!
# Machines and the positions of their runs

A machine takes every event and gives an output for it.  A run is a list of
events, and what the machine does in it is read off by positions: the state
before the event at a position, and the output for that event.  Behind the last
event the state stays as it is.
-/

namespace RtsNotebook.Library

structure Machine (State Event Output : Type*) where
  initial : State
  step : State → Event → State × Output

namespace Machine

variable {State Event Output : Type*} (machine : Machine State Event Output)

/-- The state before the event at a position. -/
def stateAt (events : List Event) : Nat → State
  | 0 => machine.initial
  | position + 1 =>
      match events[position]? with
      | some event => (machine.step (stateAt events position) event).1
      | none => stateAt events position

/-- The output for the event at a position. -/
def outputAt? (events : List Event) (position : Nat) : Option Output :=
  events[position]?.map fun event =>
    (machine.step (machine.stateAt events position) event).2

variable {machine} {events : List Event} {event : Event} {position : Nat}

theorem stateAt_succ (isEvent : events[position]? = some event) :
    machine.stateAt events (position + 1) =
      (machine.step (machine.stateAt events position) event).1 := by
  rw [stateAt, isEvent]

theorem stateAt_succ_of_none (isEnd : events[position]? = none) :
    machine.stateAt events (position + 1) =
      machine.stateAt events position := by
  rw [stateAt, isEnd]

theorem outputAt?_eq (isEvent : events[position]? = some event) :
    machine.outputAt? events position =
      some (machine.step (machine.stateAt events position) event).2 := by
  rw [outputAt?, isEvent, Option.map_some]

theorem outputAt?_eq_none (isEnd : events[position]? = none) :
    machine.outputAt? events position = none := by
  rw [outputAt?, isEnd, Option.map_none]

variable (machine) (events)

/-- What each event of the run keeps, and no position behind the run breaks,
holds at every position. -/
theorem stateAt_induction (Holds : Nat → State → Prop)
    (start : Holds 0 machine.initial)
    (ends : ∀ position state, events[position]? = none →
      Holds position state → Holds (position + 1) state)
    (steps : ∀ position event, events[position]? = some event →
      Holds position (machine.stateAt events position) →
        Holds (position + 1)
          (machine.step (machine.stateAt events position) event).1)
    (position : Nat) : Holds position (machine.stateAt events position) := by
  induction position with
  | zero => exact start
  | succ position inductionHypothesis =>
      cases isEvent : events[position]? with
      | none =>
          rw [stateAt_succ_of_none isEvent]
          exact ends position _ isEvent inductionHypothesis
      | some event =>
          rw [stateAt_succ isEvent]
          exact steps position event isEvent inductionHypothesis

/-- A condition that every step keeps holds at every position. -/
theorem stateAt_invariant (Holds : State → Prop)
    (start : Holds machine.initial)
    (steps : ∀ state event, Holds state → Holds (machine.step state event).1)
    (position : Nat) : Holds (machine.stateAt events position) :=
  stateAt_induction machine events (fun _ state => Holds state) start
    (fun _ _ _ holds => holds) (fun _ event _ holds => steps _ event holds)
    position

end Machine

end RtsNotebook.Library
