import RtsNotebook.Library.Timers
import Mathlib.Data.List.Pairwise

/-!
# The throttle of the sidebar

`DocumentBackedSidebarMetadataSource` fires its change event through one timer:
the first signal starts it, and the signals that come before it fires add
nothing.  Every signal is followed by a firing within the delay, and two
firings of the timer lie at least the delay apart.
-/

namespace RtsNotebook.Sidebar.MetadataSource

open RtsNotebook.Library

/-- The variables of the source; a disposed source has neither subscriptions
nor listeners. -/
structure Source where
  timers : Timers Unit
  pendingTimer : Option Nat
  disposed : Bool

/-- A signal of the editor or of the applier, `fireNow`, some time that passes,
or `dispose`. -/
inductive Event where
  | signal
  | fireNow
  | elapse (milliseconds : Nat)
  | dispose

/-- A firing of the change event. -/
structure Firing where
  time : Nat
  byTimer : Bool

namespace Source

def initial : Source where
  timers := .initial
  pendingTimer := none
  disposed := false

/-- Stop the pending timer. -/
def clearPending (source : Source) : Source :=
  match source.pendingTimer with
  | none => source
  | some id =>
      { source with
        timers := source.timers.clear id
        pendingTimer := none }

def scheduleFire (throttleMs : Nat) (source : Source) : Source :=
  match source.pendingTimer with
  | some _ => source
  | none =>
      { source with
        timers := source.timers.start throttleMs ()
        pendingTimer := some source.timers.nextId }

/-- The callback of a timer. -/
def onTimer (source : Source) : Source :=
  { source with pendingTimer := none }

/-- Let some time pass: the timers fire that are due. -/
def elapse (source : Source) (milliseconds : Nat) : Source × List Firing :=
  let due := source.timers.expired milliseconds
  (due.foldl (fun source _ => source.onTimer)
    { source with timers := source.timers.elapse milliseconds },
    due.map fun timer => ⟨timer.due, true⟩)

def step (throttleMs : Nat) (source : Source) :
    Event → Source × List Firing
  | .signal =>
      if source.disposed then
        (source, [])
      else
        (source.scheduleFire throttleMs, [])
  | .fireNow =>
      (source.clearPending,
        if source.disposed then [] else [⟨source.timers.clock, false⟩])
  | .elapse milliseconds => source.elapse milliseconds
  | .dispose => ({ source.clearPending with disposed := true }, [])

end Source

/-- A source, the times of the signals that it has received, and its
firings. -/
structure Trace where
  source : Source
  signals : List Nat
  firings : List Firing

namespace Trace

def initial : Trace where
  source := .initial
  signals := []
  firings := []

def step (throttleMs : Nat) (trace : Trace) (event : Event) : Trace where
  source := (trace.source.step throttleMs event).1
  signals :=
    match event with
    | .signal =>
        if trace.source.disposed then
          trace.signals
        else
          trace.signals ++ [trace.source.timers.clock]
    | _ => trace.signals
  firings := trace.firings ++ (trace.source.step throttleMs event).2

def run (throttleMs : Nat) (events : List Event) : Trace :=
  events.foldl (step throttleMs) initial

end Trace

/-! ### One timer -/

/-- No timer is live, or only the pending one. -/
def OneTimer (source : Source) : Prop :=
  (source.timers.live = [] ∧ source.pendingTimer = none) ∨
    ∃ timer, source.timers.live = [timer] ∧
      source.pendingTimer = some timer.id ∧ source.disposed = false

/-- What a signal may rely on: a firing that has answered it in time, or a timer
that will. -/
def Answered (delay : Nat) (trace : Trace) (signal : Nat) : Prop :=
  (∃ firing ∈ trace.firings, signal ≤ firing.time ∧
      firing.time ≤ signal + delay) ∨
    ∃ timer ∈ trace.source.timers.live, signal ≤ timer.due ∧
      timer.due ≤ signal + delay

/-- The invariant of every run. -/
structure Throttled (delay : Nat) (trace : Trace) : Prop where
  oneTimer : OneTimer trace.source
  heard : ∀ signal ∈ trace.signals, signal ≤ trace.source.timers.clock
  past : ∀ firing ∈ trace.firings, firing.time ≤ trace.source.timers.clock
  soon : ∀ timer ∈ trace.source.timers.live,
    timer.due ≤ trace.source.timers.clock + delay ∧
      ∀ firing ∈ trace.firings, firing.byTimer = true →
        firing.time + delay ≤ timer.due
  spaced : trace.firings.Pairwise fun earlier later =>
    earlier.byTimer = true → later.byTimer = true →
      earlier.time + delay ≤ later.time
  answered : trace.source.disposed = false →
    ∀ signal ∈ trace.signals, Answered delay trace signal

section

variable {source : Source}

theorem clearPending_eq (oneTimer : OneTimer source) :
    source.clearPending.timers.live = [] ∧
      source.clearPending.timers.clock = source.timers.clock ∧
      source.clearPending.pendingTimer = none ∧
      source.clearPending.disposed = source.disposed := by
  rw [Source.clearPending]
  rcases oneTimer with ⟨noTimer, notPending⟩ | ⟨timer, only, pending, -⟩
  · rw [notPending]
    exact ⟨noTimer, rfl, notPending, rfl⟩
  · rw [pending]
    exact ⟨by simp [Timers.clear, only], rfl, rfl, rfl⟩

theorem foldl_onTimer (due : List (Timer Unit)) (source : Source) :
    due.foldl (fun source _ => source.onTimer) source =
      if due = [] then source else source.onTimer := by
  induction due generalizing source with
  | nil =>
      rfl
  | cons timer rest inductionHypothesis =>
      rw [List.foldl_cons, inductionHypothesis]
      split <;> rfl

/-- While time passes, either nothing happens or the one timer fires. -/
theorem elapse_cases (oneTimer : OneTimer source) (milliseconds : Nat) :
    (source.elapse milliseconds =
        ({ source with timers := source.timers.elapse milliseconds }, []) ∧
      (source.timers.elapse milliseconds).live = source.timers.live) ∨
    ∃ timer, source.timers.live = [timer] ∧
      timer.due ≤ source.timers.clock + milliseconds ∧
      source.elapse milliseconds =
        ({ source with
            timers := source.timers.elapse milliseconds
            pendingTimer := none },
          [⟨timer.due, true⟩]) ∧
      (source.timers.elapse milliseconds).live = [] := by
  rw [Source.elapse, foldl_onTimer]
  rcases oneTimer with ⟨noTimer, notPending⟩ | ⟨timer, only, pending, -⟩
  · left
    have nothing : source.timers.expired milliseconds = [] := by
      simp [Timers.expired, noTimer]
    rw [nothing]
    exact ⟨rfl, by simp [Timers.elapse, noTimer]⟩
  · by_cases fires : timer.due ≤ source.timers.clock + milliseconds
    · right
      have expired : source.timers.expired milliseconds = [timer] := by
        simp [Timers.expired, only, fires]
      rw [expired]
      exact ⟨timer, only, fires, rfl, by simp [Timers.elapse, only, fires]⟩
    · left
      have nothing : source.timers.expired milliseconds = [] := by
        simp [Timers.expired, only, fires]
      rw [nothing]
      refine ⟨rfl, ?_⟩
      have later := Nat.lt_of_not_le fires
      simp [Timers.elapse, only, later]

/-! ### One step -/

variable {throttleMs : Nat} {trace : Trace}

theorem Answered.of_firing {delay : Nat} {signal : Nat} {firing : Firing}
    {next : Trace} (member : firing ∈ next.firings)
    (after : signal ≤ firing.time) (inTime : firing.time ≤ signal + delay) :
    Answered delay next signal :=
  Or.inl ⟨firing, member, after, inTime⟩

theorem throttled_signal (throttled : Throttled (max throttleMs 1) trace)
    (active : trace.source.disposed = false) :
    Throttled (max throttleMs 1) (trace.step throttleMs .signal) := by
  obtain ⟨oneTimer, heard, past, soon, spaced, answered⟩ := throttled
  have stepped : trace.step throttleMs .signal =
      ⟨trace.source.scheduleFire throttleMs,
        trace.signals ++ [trace.source.timers.clock], trace.firings⟩ := by
    simp [Trace.step, Source.step, active]
  have hears : ∀ signal ∈ trace.signals ++ [trace.source.timers.clock],
      signal ≤ trace.source.timers.clock := by
    intro signal isSignal
    rcases List.mem_append.mp isSignal with earlier | now
    · exact heard signal earlier
    · rw [List.mem_singleton.mp now]
  rw [stepped]
  rcases oneTimer with ⟨noTimer, notPending⟩ | ⟨timer, only, pending, notDone⟩
  · have scheduled : trace.source.scheduleFire throttleMs =
        { trace.source with
          timers := trace.source.timers.start throttleMs ()
          pendingTimer := some trace.source.timers.nextId } := by
      rw [Source.scheduleFire, notPending]
    have live : (trace.source.timers.start throttleMs ()).live =
        [⟨trace.source.timers.nextId,
          trace.source.timers.clock + max throttleMs 1, ()⟩] := by
      simp [Timers.start, noTimer]
    rw [scheduled]
    refine ⟨Or.inr ⟨_, live, rfl, active⟩, hears, past, ?_, spaced, ?_⟩
    · intro timer member
      rw [live, List.mem_singleton] at member
      rw [member]
      refine ⟨Nat.le_refl _, fun firing isFiring _ => ?_⟩
      exact Nat.add_le_add_right (past firing isFiring) _
    · intro _ signal isSignal
      rcases List.mem_append.mp isSignal with earlier | now
      · rcases answered active signal earlier with fired | ⟨timer, member, -⟩
        · exact Or.inl fired
        · rw [noTimer] at member
          cases member
      · rw [List.mem_singleton.mp now]
        refine Or.inr ⟨_, live ▸ List.mem_singleton_self _, ?_, Nat.le_refl _⟩
        exact Nat.le_add_right _ _
  · have scheduled : trace.source.scheduleFire throttleMs = trace.source := by
      rw [Source.scheduleFire, pending]
    rw [scheduled]
    refine ⟨Or.inr ⟨timer, only, pending, notDone⟩, hears, past, soon, spaced,
      ?_⟩
    intro _ signal isSignal
    rcases List.mem_append.mp isSignal with earlier | now
    · exact answered active signal earlier
    · have isLive : timer ∈ trace.source.timers.live := by
        rw [only]
        exact List.mem_singleton_self timer
      have ahead := trace.source.timers.ahead timer isLive
      rw [List.mem_singleton.mp now]
      exact Or.inr ⟨timer, isLive, ahead.le, (soon timer isLive).1⟩

theorem throttled_clear (throttled : Throttled (max throttleMs 1) trace)
    {next : Trace} {added : List Firing}
    (live : next.source.timers.live = [])
    (clock : next.source.timers.clock = trace.source.timers.clock)
    (signals : next.signals = trace.signals)
    (pending : next.source.pendingTimer = none)
    (firings : next.firings = trace.firings ++ added)
    (now : ∀ firing ∈ added, firing.time = trace.source.timers.clock ∧
      firing.byTimer = false)
    (answered : next.source.disposed = false →
      ∀ signal ∈ next.signals, Answered (max throttleMs 1) next signal)
    (atMostOne : added.length ≤ 1) :
    Throttled (max throttleMs 1) next := by
  refine ⟨Or.inl ⟨live, pending⟩, ?_, ?_, ?_, ?_, answered⟩
  · rw [signals, clock]
    exact throttled.heard
  · rw [firings, clock]
    intro firing member
    rcases List.mem_append.mp member with earlier | isAdded
    · exact throttled.past firing earlier
    · exact (now firing isAdded).1.le
  · rw [live]
    intro timer member
    cases member
  · rw [firings, List.pairwise_append]
    refine ⟨throttled.spaced, ?_, ?_⟩
    · match added, atMostOne with
      | [], _ => exact List.Pairwise.nil
      | [firing], _ => exact List.pairwise_singleton _ firing
    · intro earlier _ later isLater _ byTimer
      rw [(now later isLater).2] at byTimer
      cases byTimer

theorem throttled_fireNow (throttled : Throttled (max throttleMs 1) trace) :
    Throttled (max throttleMs 1) (trace.step throttleMs .fireNow) := by
  obtain ⟨live, clock, pending, disposed⟩ := clearPending_eq throttled.oneTimer
  have signals : (trace.step throttleMs .fireNow).signals = trace.signals :=
    rfl
  apply throttled_clear throttled live clock signals pending rfl
  · intro firing isAdded
    rw [Source.step] at isAdded
    simp only at isAdded
    split at isAdded
    · cases isAdded
    · rw [List.mem_singleton.mp isAdded]
      exact ⟨rfl, rfl⟩
  · intro stillActive signal isSignal
    have active : trace.source.disposed = false := by
      rw [← disposed]
      exact stillActive
    have fires : ⟨trace.source.timers.clock, false⟩ ∈
        (trace.step throttleMs .fireNow).firings := by
      simp [Trace.step, Source.step, active]
    rcases throttled.answered active signal isSignal with
      ⟨firing, member, after, inTime⟩ | ⟨timer, isLive, after, inTime⟩
    · exact .of_firing (List.mem_append_left _ member) after inTime
    · have ahead := trace.source.timers.ahead timer isLive
      refine .of_firing fires (throttled.heard signal isSignal) ?_
      change trace.source.timers.clock ≤ _
      omega
  · rw [Source.step]
    simp only
    split <;> simp

theorem throttled_dispose (throttled : Throttled (max throttleMs 1) trace) :
    Throttled (max throttleMs 1) (trace.step throttleMs .dispose) := by
  obtain ⟨live, clock, pending, -⟩ := clearPending_eq throttled.oneTimer
  have signals : (trace.step throttleMs .dispose).signals = trace.signals :=
    rfl
  apply throttled_clear throttled live clock signals pending rfl
  · intro firing isAdded
    cases isAdded
  · intro stillActive
    cases stillActive
  · exact Nat.zero_le 1

theorem throttled_elapse (throttled : Throttled (max throttleMs 1) trace)
    (milliseconds : Nat) :
    Throttled (max throttleMs 1)
      (trace.step throttleMs (.elapse milliseconds)) := by
  obtain ⟨oneTimer, heard, past, soon, spaced, answered⟩ := throttled
  have hears : ∀ signal ∈ trace.signals,
      signal ≤ trace.source.timers.clock + milliseconds :=
    fun signal isSignal =>
      (heard signal isSignal).trans (Nat.le_add_right _ _)
  have elapsed : ∀ firing ∈ trace.firings,
      firing.time ≤ trace.source.timers.clock + milliseconds :=
    fun firing isFiring =>
      (past firing isFiring).trans (Nat.le_add_right _ _)
  rcases elapse_cases oneTimer milliseconds with
    ⟨stepped, live⟩ | ⟨timer, only, fires, stepped, live⟩
  · have next : trace.step throttleMs (.elapse milliseconds) =
        ⟨{ trace.source with
            timers := trace.source.timers.elapse milliseconds },
          trace.signals, trace.firings⟩ := by
      simp only [Trace.step, Source.step, stepped, List.append_nil]
    rw [next]
    refine ⟨?_, hears, elapsed, ?_, spaced, ?_⟩
    · rw [OneTimer, live]
      exact oneTimer
    · simp only [live]
      intro timer isLive
      obtain ⟨inTime, after⟩ := soon timer isLive
      refine ⟨inTime.trans ?_, after⟩
      exact Nat.add_le_add_right (Nat.le_add_right _ _) _
    · simp only [Answered, live]
      exact answered
  · have isLive : timer ∈ trace.source.timers.live := by
      rw [only]
      exact List.mem_singleton_self timer
    have next : trace.step throttleMs (.elapse milliseconds) =
        ⟨{ trace.source with
            timers := trace.source.timers.elapse milliseconds
            pendingTimer := none },
          trace.signals, trace.firings ++ [⟨timer.due, true⟩]⟩ := by
      simp only [Trace.step, Source.step, stepped]
    rw [next]
    refine ⟨Or.inl ⟨live, rfl⟩, hears, ?_, ?_, ?_, ?_⟩
    · intro firing isFiring
      rcases List.mem_append.mp isFiring with earlier | now
      · exact elapsed firing earlier
      · rw [List.mem_singleton.mp now]
        exact fires
    · simp only [live]
      intro timer isTimer
      cases isTimer
    · rw [List.pairwise_append]
      refine ⟨spaced, List.pairwise_singleton _ _, ?_⟩
      intro earlier isEarlier later isLater byTimer _
      rw [List.mem_singleton.mp isLater]
      exact (soon timer isLive).2 earlier isEarlier byTimer
    · intro active signal isSignal
      rcases answered active signal isSignal with
        ⟨firing, member, after, inTime⟩ | ⟨other, isOther, after, inTime⟩
      · exact .of_firing (List.mem_append_left _ member) after inTime
      · rw [only, List.mem_singleton] at isOther
        rw [isOther] at after inTime
        have fired : ⟨timer.due, true⟩ ∈
            trace.firings ++ [⟨timer.due, true⟩] :=
          List.mem_append_right _ (List.mem_singleton_self _)
        exact .of_firing fired after inTime

theorem throttled_step (throttled : Throttled (max throttleMs 1) trace)
    (event : Event) :
    Throttled (max throttleMs 1) (trace.step throttleMs event) := by
  cases event with
  | signal =>
      cases active : trace.source.disposed with
      | false =>
          exact throttled_signal throttled active
      | true =>
          have same : trace.step throttleMs .signal = trace := by
            simp [Trace.step, Source.step, active]
          rw [same]
          exact throttled
  | fireNow =>
      exact throttled_fireNow throttled
  | elapse milliseconds =>
      exact throttled_elapse throttled milliseconds
  | dispose =>
      exact throttled_dispose throttled

/-! ### Runs -/

theorem throttled_run (throttleMs : Nat) (events : List Event) :
    Throttled (max throttleMs 1) (Trace.run throttleMs events) := by
  have start : Throttled (max throttleMs 1) Trace.initial :=
    ⟨Or.inl ⟨rfl, rfl⟩, by simp [Trace.initial], by simp [Trace.initial],
      by simp [Trace.initial, Source.initial, Timers.initial],
      List.Pairwise.nil, by simp [Trace.initial]⟩
  exact List.foldlRecOn events (Trace.step throttleMs) start
    fun _ throttled event _ => throttled_step throttled event

/-- A disposed source fires nothing, whatever else reaches it. -/
theorem firings_of_disposed {trace : Trace}
    (oneTimer : OneTimer trace.source)
    (disposed : trace.source.disposed = true) (events : List Event) :
    (events.foldl (Trace.step throttleMs) trace).firings = trace.firings := by
  have noTimer : trace.source.timers.live = [] ∧
      trace.source.pendingTimer = none := by
    rcases oneTimer with nothing | ⟨timer, -, -, active⟩
    · exact nothing
    · rw [disposed] at active
      cases active
  induction events generalizing trace with
  | nil =>
      rfl
  | cons event rest inductionHypothesis =>
      have quiet : (trace.step throttleMs event).firings = trace.firings ∧
          (trace.step throttleMs event).source.disposed = true ∧
          (trace.step throttleMs event).source.timers.live = [] ∧
          (trace.step throttleMs event).source.pendingTimer = none := by
        cases event with
        | signal =>
            simp [Trace.step, Source.step, disposed, noTimer]
        | fireNow =>
            simp [Trace.step, Source.step, Source.clearPending, disposed,
              noTimer]
        | elapse milliseconds =>
            simp [Trace.step, Source.step, Source.elapse, Timers.expired,
              Timers.elapse, disposed, noTimer]
        | dispose =>
            simp [Trace.step, Source.step, Source.clearPending, noTimer]
      rw [List.foldl_cons,
        inductionHypothesis (Or.inl quiet.2.2) quiet.2.1 quiet.2.2, quiet.1]

/-- Until the source is disposed, every signal is followed within the delay by
a firing; the timer fires no more often than the delay allows; and after
`dispose` nothing fires. -/
theorem throttle_holds (throttleMs : Nat) (events : List Event) :
    let trace := Trace.run throttleMs events
    let delay := max throttleMs 1
    (trace.source.disposed = false →
      ∀ signal ∈ trace.signals,
        signal + delay ≤ trace.source.timers.clock →
          ∃ firing ∈ trace.firings, signal ≤ firing.time ∧
            firing.time ≤ signal + delay) ∧
    (trace.firings.Pairwise fun earlier later =>
      earlier.byTimer = true → later.byTimer = true →
        earlier.time + delay ≤ later.time) ∧
    (trace.source.disposed = true →
      ∀ more,
        (Trace.run throttleMs (events ++ more)).firings = trace.firings) := by
  have throttled := throttled_run throttleMs events
  refine ⟨fun active signal isSignal longAgo => ?_, throttled.spaced,
    fun disposed more => ?_⟩
  · rcases throttled.answered active signal isSignal with
      fired | ⟨timer, isLive, -, inTime⟩
    · exact fired
    · have ahead :=
        (Trace.run throttleMs events).source.timers.ahead timer isLive
      omega
  · rw [Trace.run, List.foldl_append]
    exact firings_of_disposed throttled.oneTimer disposed more

end

end RtsNotebook.Sidebar.MetadataSource
