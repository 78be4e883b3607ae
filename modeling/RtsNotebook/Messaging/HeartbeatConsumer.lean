import RtsNotebook.Library.Machines
import Mathlib.Algebra.Order.Ring.Int

/-!
# The heartbeat watchdog

`HeartbeatConsumer` with a sink.  A clock reading is a value of any type with a
zero, a subtraction and a linear order, so that nothing rests on how times are
rounded.
-/

namespace RtsNotebook.Messaging.HeartbeatConsumer

open RtsNotebook.Library

/-- `HEARTBEAT_LIVENESS_TIMEOUT_MS` -/
def HEARTBEAT_LIVENESS_TIMEOUT_MS : Nat := 30000

/-- What the sink is told. -/
structure LivenessLost (Time : Type*) where
  lastSeenAt : Time
  sinceMs : Time
  deriving DecidableEq

structure State (Payload Time : Type*) where
  lastPayload : Option Payload
  lastHeartbeatTimestamp : Time
  warned : Bool
  /-- What `pty.isHealthy()` returns. -/
  ptyHealthy : Bool

/-- A heartbeat and a poll read the clock. -/
inductive Event (Payload Time : Type*) where
  | heartbeat (payload : Payload) (now : Time)
  | poll (now : Time)
  | ptyHealth (healthy : Bool)

/-- A call of the environment. -/
inductive Call (Payload Time : Type*) where
  | onState (payload : Payload)
  | onLivenessLost (lost : LivenessLost Time)

def Call.lost? {Payload Time : Type*} : Call Payload Time →
    Option (LivenessLost Time)
  | onState _ => none
  | onLivenessLost lost => some lost

section

variable {Payload Time : Type*} [Zero Time] [Sub Time] [NatCast Time]
  [LinearOrder Time]

def initial : State Payload Time where
  lastPayload := none
  lastHeartbeatTimestamp := 0
  warned := false
  ptyHealthy := true

/-- `this.env.timeoutMs ?? HEARTBEAT_LIVENESS_TIMEOUT_MS` -/
def timeoutOf (timeoutMs : Option Time) : Time :=
  timeoutMs.getD (HEARTBEAT_LIVENESS_TIMEOUT_MS : Time)

/-- `onHeartbeatKernel` -/
def onHeartbeatKernel (state : State Payload Time) (payload : Payload)
    (now : Time) : State Payload Time × Option (Call Payload Time) :=
  ({ state with
      lastPayload := some payload
      lastHeartbeatTimestamp := now
      warned := false },
    some (.onState payload))

/-- `poll` -/
def poll (timeoutMs : Option Time) (state : State Payload Time) (now : Time) :
    State Payload Time × Option (Call Payload Time) :=
  if state.lastHeartbeatTimestamp = 0 then
    (state, none)
  else
    let sinceMs := now - state.lastHeartbeatTimestamp
    if sinceMs ≤ timeoutOf timeoutMs then
      (state, none)
    else if !state.ptyHealthy then
      (state, none)
    else if state.warned then
      (state, none)
    else
      ({ state with warned := true },
        some (.onLivenessLost ⟨state.lastHeartbeatTimestamp, sinceMs⟩))

def step (timeoutMs : Option Time) (state : State Payload Time) :
    Event Payload Time → State Payload Time × Option (Call Payload Time)
  | .heartbeat payload now => onHeartbeatKernel state payload now
  | .poll now => poll timeoutMs state now
  | .ptyHealth healthy => ({ state with ptyHealthy := healthy }, none)

def consumer (timeoutMs : Option Time) :
    Machine (State Payload Time) (Event Payload Time)
      (Option (Call Payload Time)) where
  initial := initial
  step := step timeoutMs

/-- The liveness warning that the event at a position issues. -/
def warningAt? (timeoutMs : Option Time) (events : List (Event Payload Time))
    (position : Nat) : Option (LivenessLost Time) :=
  ((consumer timeoutMs).outputAt? events position).join.bind Call.lost?

/-- The health of the PTY before the event at a position. -/
def ptyHealthyAt (events : List (Event Payload Time)) : Nat → Bool
  | 0 => true
  | position + 1 =>
      match events[position]? with
      | some (.ptyHealth healthy) => healthy
      | _ => ptyHealthyAt events position

/-- The latest heartbeat before a position. -/
structure LastHeartbeat (events : List (Event Payload Time))
    (position seen : Nat) (timestamp : Time) : Prop where
  before : seen < position
  heartbeat : ∃ payload, events[seen]? = some (.heartbeat payload timestamp)
  latest : ∀ between, seen < between → between < position →
    ∀ payload now, events[between]? ≠ some (.heartbeat payload now)

/-- A poll warns exactly when the latest heartbeat is too long ago, the PTY is
healthy and no warning has been issued since; a poll that does not warn changes
nothing. -/
structure WarnsOnce (timeoutMs : Option Time)
    (events : List (Event Payload Time)) : Prop where
  warns : ∀ position now lost, events[position]? = some (.poll now) →
    (warningAt? timeoutMs events position = some lost ↔
      ∃ seen timestamp, LastHeartbeat events position seen timestamp ∧
        timeoutOf timeoutMs < now - timestamp ∧
        ptyHealthyAt events position = true ∧
        (∀ between, seen < between → between < position →
          warningAt? timeoutMs events between = none) ∧
        lost = ⟨timestamp, now - timestamp⟩)
  onlyPolls : ∀ position lost,
    warningAt? timeoutMs events position = some lost →
      ∃ now, events[position]? = some (.poll now)
  once : ∀ first second, first < second →
    warningAt? timeoutMs events first ≠ none →
    warningAt? timeoutMs events second ≠ none →
      ∃ between payload now, first < between ∧ between < second ∧
        events[between]? = some (.heartbeat payload now)
  kept : ∀ position now, events[position]? = some (.poll now) →
    warningAt? timeoutMs events position = none →
      (consumer timeoutMs).stateAt events (position + 1) =
        (consumer timeoutMs).stateAt events position

variable {timeoutMs : Option Time} {events : List (Event Payload Time)}
  {event : Event Payload Time} {state : State Payload Time}
  {position : Nat} {now : Time}

/-! ### One step -/

/-- When a poll warns. -/
def Warns (timeoutMs : Option Time) (state : State Payload Time)
    (now : Time) : Prop :=
  state.lastHeartbeatTimestamp ≠ 0 ∧
    timeoutOf timeoutMs < now - state.lastHeartbeatTimestamp ∧
      state.ptyHealthy = true ∧ state.warned = false

theorem poll_of_warns (warns : Warns timeoutMs state now) :
    poll timeoutMs state now =
      ({ state with warned := true },
        some (.onLivenessLost ⟨state.lastHeartbeatTimestamp,
          now - state.lastHeartbeatTimestamp⟩)) := by
  obtain ⟨seen, late, healthy, notWarned⟩ := warns
  rw [poll, if_neg seen]
  simp only [if_neg (not_le.mpr late), healthy, notWarned, Bool.not_true,
    Bool.false_eq_true, if_false]

theorem poll_of_not_warns (quiet : ¬ Warns timeoutMs state now) :
    poll timeoutMs state now = (state, none) := by
  rw [poll]
  split
  · rfl
  · rename_i seen
    dsimp only
    split
    · rfl
    · rename_i late
      split
      · rfl
      · rename_i healthy
        split
        · rfl
        · rename_i notWarned
          refine absurd ⟨seen, not_le.mp late, ?_, ?_⟩ quiet
          · simpa using healthy
          · simpa using notWarned

theorem warningAt?_eq (isEvent : events[position]? = some event) :
    warningAt? timeoutMs events position =
      (step timeoutMs ((consumer timeoutMs).stateAt events position)
        event).2.bind Call.lost? := by
  rw [warningAt?, Machine.outputAt?_eq isEvent]
  rfl

theorem warningAt?_poll (timeoutMs : Option Time)
    (isPoll : events[position]? = some (.poll now)) :
    warningAt? timeoutMs events position =
      (poll timeoutMs ((consumer timeoutMs).stateAt events position)
        now).2.bind Call.lost? :=
  warningAt?_eq isPoll

/-- A poll warns exactly when it can, of the heartbeat that it has seen. -/
theorem warningAt?_eq_some_iff {lost : LivenessLost Time}
    (isPoll : events[position]? = some (.poll now)) :
    warningAt? timeoutMs events position = some lost ↔
      Warns timeoutMs ((consumer timeoutMs).stateAt events position) now ∧
        lost = ⟨((consumer timeoutMs).stateAt events
            position).lastHeartbeatTimestamp,
          now - ((consumer timeoutMs).stateAt events
            position).lastHeartbeatTimestamp⟩ := by
  rw [warningAt?_poll timeoutMs isPoll]
  by_cases warns :
      Warns timeoutMs ((consumer timeoutMs).stateAt events position) now
  · rw [poll_of_warns warns]
    simp only [warns, true_and, Option.bind_some, Call.lost?,
      Option.some.injEq]
    exact eq_comm
  · rw [poll_of_not_warns warns]
    simp [warns]

theorem isPoll_of_warning {lost : LivenessLost Time}
    (warning : warningAt? timeoutMs events position = some lost) :
    ∃ now, events[position]? = some (.poll now) := by
  cases isEvent : events[position]? with
  | none =>
      rw [warningAt?, Machine.outputAt?_eq_none isEvent] at warning
      cases warning
  | some event =>
      rw [warningAt?_eq isEvent] at warning
      cases event with
      | heartbeat payload now => cases warning
      | poll now => exact ⟨now, rfl⟩
      | ptyHealth healthy => cases warning

/-! ### The latch and the history -/

/-- No heartbeat has come yet, and the timestamp is the sentinel; or the
timestamp is that of the latest one, and the latch says whether a warning has
been issued since. -/
inductive Linked (timeoutMs : Option Time) (events : List (Event Payload Time))
    (position : Nat) (state : State Payload Time) : Prop where
  | never
      (unseen : ∀ earlier < position, ∀ payload now,
        events[earlier]? ≠ some (.heartbeat payload now))
      (sentinel : state.lastHeartbeatTimestamp = 0)
  | since (seen : Nat)
      (last : LastHeartbeat events position seen state.lastHeartbeatTimestamp)
      (nonzero : state.lastHeartbeatTimestamp ≠ 0)
      (latch : state.warned = true ↔ ∃ between, seen < between ∧
        between < position ∧ warningAt? timeoutMs events between ≠ none)

/-- Between heartbeats, the latch closes with the warning. -/
theorem Linked.succ {next : State Payload Time}
    (linked : Linked timeoutMs events position state)
    (noHeartbeat : ∀ payload now,
      events[position]? ≠ some (.heartbeat payload now))
    (sameTimestamp :
      next.lastHeartbeatTimestamp = state.lastHeartbeatTimestamp)
    (latched : next.warned = true ↔
      state.warned = true ∨ warningAt? timeoutMs events position ≠ none) :
    Linked timeoutMs events (position + 1) next := by
  cases linked with
  | never unseen sentinel =>
      refine .never ?_ (sameTimestamp.trans sentinel)
      rw [Nat.forall_lt_succ_right]
      exact ⟨unseen, noHeartbeat⟩
  | since seen last nonzero latch =>
      refine .since seen ?_ ?_ ?_
      · rw [sameTimestamp]
        refine ⟨Nat.lt_succ_of_lt last.before, last.heartbeat, ?_⟩
        intro between isAfter isBefore
        by_cases isLast : between = position
        · rw [isLast]
          exact noHeartbeat
        · exact last.latest between isAfter (by omega)
      · rw [sameTimestamp]
        exact nonzero
      · rw [latched, latch]
        constructor
        · rintro (⟨between, isAfter, isBefore, warned⟩ | warned)
          · exact ⟨between, isAfter, Nat.lt_succ_of_lt isBefore, warned⟩
          · exact ⟨position, last.before, Nat.lt_succ_self _, warned⟩
        · rintro ⟨between, isAfter, isBefore, warned⟩
          by_cases isLast : between = position
          · exact Or.inr (isLast ▸ warned)
          · exact Or.inl ⟨between, isAfter, by omega, warned⟩

/-- A poll closes the latch where it warns, and leaves it alone otherwise. -/
theorem linked_poll {now : Time}
    (isPoll : events[position]? = some (.poll now))
    (linked : Linked timeoutMs events position
      ((consumer timeoutMs).stateAt events position)) :
    Linked timeoutMs events (position + 1) ((consumer timeoutMs).step
      ((consumer timeoutMs).stateAt events position) (.poll now)).1 := by
  have noHeartbeat : ∀ payload now',
      events[position]? ≠ some (.heartbeat payload now') := by
    intro payload now' isHeartbeat
    rw [isPoll] at isHeartbeat
    cases isHeartbeat
  have warning := warningAt?_poll timeoutMs isPoll
  by_cases warns : Warns timeoutMs
      ((consumer timeoutMs).stateAt events position) now
  · have polled := poll_of_warns warns
    rw [polled] at warning
    apply linked.succ noHeartbeat
    · exact congrArg
        (fun result => State.lastHeartbeatTimestamp result.1) polled
    · rw [warning]
      refine iff_of_true ?_ (Or.inr (Option.some_ne_none _))
      exact congrArg (fun result => State.warned result.1) polled
  · have polled := poll_of_not_warns warns
    rw [polled] at warning
    apply linked.succ noHeartbeat
    · exact congrArg
        (fun result => State.lastHeartbeatTimestamp result.1) polled
    · have kept : ((consumer timeoutMs).step
            ((consumer timeoutMs).stateAt events position)
              (.poll now)).1.warned =
            ((consumer timeoutMs).stateAt events position).warned :=
        congrArg (fun result => State.warned result.1) polled
      rw [warning, kept]
      simp

theorem linked_stateAt (timeoutMs : Option Time)
    (positive : ∀ (position : Nat) (payload : Payload) (now : Time),
      events[position]? = some (.heartbeat payload now) → 0 < now)
    (position : Nat) :
    Linked timeoutMs events position
      ((consumer timeoutMs).stateAt events position) := by
  refine (consumer timeoutMs).stateAt_induction events
    (Linked timeoutMs events) ?_ ?_ ?_ position
  · exact .never (fun _ before => absurd before (Nat.not_lt_zero _)) rfl
  · intro position state isEnd linked
    have noWarning : warningAt? timeoutMs events position = none := by
      rw [warningAt?, Machine.outputAt?_eq_none isEnd]
      rfl
    apply linked.succ
    · intro payload now isHeartbeat
      rw [isEnd] at isHeartbeat
      cases isHeartbeat
    · rfl
    · simp [noWarning]
  · intro position event isEvent linked
    cases event with
    | heartbeat payload now =>
        have isPositive := positive position payload now isEvent
        refine .since position
          ⟨Nat.lt_succ_self _, ⟨payload, isEvent⟩, ?_⟩ (ne_of_gt isPositive) ?_
        · intro between isAfter isBefore
          omega
        · refine iff_of_false Bool.false_ne_true ?_
          rintro ⟨between, isAfter, isBefore, _⟩
          omega
    | poll now => exact linked_poll isEvent linked
    | ptyHealth healthy =>
        have noWarning : warningAt? timeoutMs events position = none :=
          warningAt?_eq isEvent
        apply linked.succ
        · intro payload now isHeartbeat
          rw [isEvent] at isHeartbeat
          cases isHeartbeat
        · rfl
        · rw [noWarning]
          simp [consumer, step]

theorem ptyHealthy_stateAt (timeoutMs : Option Time)
    (events : List (Event Payload Time)) (position : Nat) :
    ((consumer timeoutMs).stateAt events position).ptyHealthy =
      ptyHealthyAt events position := by
  apply (consumer timeoutMs).stateAt_induction events fun position state =>
    state.ptyHealthy = ptyHealthyAt events position
  · rfl
  · intro position state isEnd holds
    rw [ptyHealthyAt, isEnd]
    exact holds
  · intro position event isEvent holds
    rw [ptyHealthyAt, isEvent]
    cases event with
    | heartbeat payload now => exact holds
    | ptyHealth healthy => rfl
    | poll now =>
        by_cases warns : Warns timeoutMs
            ((consumer timeoutMs).stateAt events position) now
        · exact (congrArg (fun result => State.ptyHealthy result.1)
            (poll_of_warns warns)).trans holds
        · exact (congrArg (fun result => State.ptyHealthy result.1)
            (poll_of_not_warns warns)).trans holds

/-! ### Runs -/

omit [Zero Time] [Sub Time] [NatCast Time] [LinearOrder Time] in
theorem LastHeartbeat.unique {seen other : Nat} {timestamp otherTimestamp : Time}
    (last : LastHeartbeat events position seen timestamp)
    (otherLast : LastHeartbeat events position other otherTimestamp) :
    seen = other ∧ timestamp = otherTimestamp := by
  obtain ⟨payload, isHeartbeat⟩ := last.heartbeat
  obtain ⟨otherPayload, otherIsHeartbeat⟩ := otherLast.heartbeat
  have same : seen = other := by
    rcases Nat.lt_trichotomy seen other with isBefore | same | isAfter
    · exact absurd otherIsHeartbeat
        (last.latest other isBefore otherLast.before _ _)
    · exact same
    · exact absurd isHeartbeat
        (otherLast.latest seen isAfter last.before _ _)
  rw [same, otherIsHeartbeat] at isHeartbeat
  cases isHeartbeat
  exact ⟨same, rfl⟩

/-- The latch is open exactly where no warning has been issued since the
latest heartbeat. -/
theorem warned_eq_false_iff {seen : Nat}
    (latch : state.warned = true ↔ ∃ between, seen < between ∧
      between < position ∧ warningAt? timeoutMs events between ≠ none) :
    state.warned = false ↔ ∀ between, seen < between → between < position →
      warningAt? timeoutMs events between = none := by
  rw [← Bool.not_eq_true, latch]
  push Not
  rfl

/-- In every run under positive clock readings, a poll warns exactly when a
heartbeat is overdue while the PTY is healthy, and once for each heartbeat. -/
theorem warnsOnce
    (positive : ∀ (position : Nat) (payload : Payload) (now : Time),
      events[position]? = some (.heartbeat payload now) → 0 < now) :
    WarnsOnce timeoutMs events where
  warns := by
    intro position now lost isPoll
    rw [warningAt?_eq_some_iff isPoll, Warns, ptyHealthy_stateAt]
    have linked := linked_stateAt timeoutMs positive position
    constructor
    · rintro ⟨⟨seen, late, healthy, notWarned⟩, rfl⟩
      cases linked with
      | never unseen sentinel => exact absurd sentinel seen
      | since seen last nonzero latch =>
          exact ⟨seen, _, last, late, healthy,
            (warned_eq_false_iff latch).mp notWarned, rfl⟩
    · rintro ⟨seen, timestamp, last, late, healthy, quiet, rfl⟩
      cases linked with
      | never unseen sentinel =>
          obtain ⟨payload, isHeartbeat⟩ := last.heartbeat
          exact absurd isHeartbeat (unseen seen last.before _ _)
      | since seen' last' nonzero latch =>
          obtain ⟨rfl, rfl⟩ := last.unique last'
          exact ⟨⟨nonzero, late, healthy,
            (warned_eq_false_iff latch).mpr quiet⟩, rfl⟩
  onlyPolls := fun _ _ warning => isPoll_of_warning warning
  once := by
    intro first second inOrder firstWarns secondWarns
    obtain ⟨firstLost, firstWarning⟩ := Option.ne_none_iff_exists'.mp firstWarns
    obtain ⟨lost, warning⟩ := Option.ne_none_iff_exists'.mp secondWarns
    obtain ⟨firstNow, firstIsPoll⟩ := isPoll_of_warning firstWarning
    obtain ⟨now, isPoll⟩ := isPoll_of_warning warning
    obtain ⟨⟨nonzero, _, _, notWarned⟩, _⟩ :=
      (warningAt?_eq_some_iff isPoll).mp warning
    cases linked_stateAt timeoutMs positive second with
    | never unseen sentinel => exact absurd sentinel nonzero
    | since seen last _ latch =>
        obtain ⟨payload, isHeartbeat⟩ := last.heartbeat
        refine ⟨seen, payload, _, ?_, last.before, isHeartbeat⟩
        by_contra notBefore
        have isFirst : seen ≠ first := by
          rintro rfl
          rw [firstIsPoll] at isHeartbeat
          cases isHeartbeat
        exact firstWarns ((warned_eq_false_iff latch).mp notWarned first
          (by omega) inOrder)
  kept := by
    intro position now isPoll noWarning
    rw [Machine.stateAt_succ isPoll]
    by_cases warns : Warns timeoutMs
        ((consumer timeoutMs).stateAt events position) now
    · have warning := (warningAt?_eq_some_iff isPoll).mpr ⟨warns, rfl⟩
      rw [noWarning] at warning
      cases warning
    · exact congrArg Prod.fst (poll_of_not_warns warns)

end

/-- A heartbeat, a poll while the PTY is down, and two polls after it. -/
def recovered : List (Event Unit Int) :=
  [.heartbeat () 1000, .ptyHealth false, .poll 40000, .ptyHealth true,
    .poll 45000, .poll 50000]

theorem recovered_warnsOnce : WarnsOnce none recovered := by
  apply warnsOnce
  intro position payload now isHeartbeat
  have member := List.mem_of_getElem? isHeartbeat
  simp only [recovered, List.mem_cons, Event.heartbeat.injEq, reduceCtorEq,
    List.not_mem_nil, or_false] at member
  rw [member.2]
  decide

example : (List.range 6).map (warningAt? none recovered) =
    [none, none, none, none, some ⟨1000, 44000⟩, none] := by decide

end RtsNotebook.Messaging.HeartbeatConsumer
