import Mathlib.Data.List.Nodup
import Mathlib.Data.List.Sort

/-!
# One-shot timers on a clock

A clock with the timers that are still to fire.  A timer is started with a
delay, and fires once when the clock reaches its time, unless it is cleared
before.  That no two live timers share an id and that none is overdue are
fields.
-/

namespace RtsNotebook.Library

structure Timer (Action : Type*) where
  id : Nat
  due : Nat
  action : Action

/-- The clock, and the timers that have neither fired nor been cleared in the
order in which they were started. -/
structure Timers (Action : Type*) where
  clock : Nat
  nextId : Nat
  live : List (Timer Action)
  distinct : (live.map Timer.id).Nodup
  started : ∀ timer ∈ live, timer.id < nextId
  ahead : ∀ timer ∈ live, clock < timer.due

namespace Timers

variable {Action : Type*}

def initial : Timers Action where
  clock := 0
  nextId := 0
  live := []
  distinct := List.nodup_nil
  started := fun _ member => by cases member
  ahead := fun _ member => by cases member

/-- Start a timer, whose id is `nextId`; a delay is at least one. -/
def start (timers : Timers Action) (delay : Nat) (action : Action) :
    Timers Action where
  clock := timers.clock
  nextId := timers.nextId + 1
  live := timers.live ++
    [⟨timers.nextId, timers.clock + max delay 1, action⟩]
  distinct := by
    rw [List.map_append, List.nodup_append]
    refine ⟨timers.distinct, List.nodup_singleton _, ?_⟩
    intro id isLive fresh isFresh same
    obtain ⟨timer, member, rfl⟩ := List.mem_map.mp isLive
    have older := timers.started timer member
    rw [same, List.mem_singleton.mp isFresh] at older
    exact Nat.lt_irrefl _ older
  started := by
    intro timer member
    rcases List.mem_append.mp member with isLive | isFresh
    · have older := timers.started timer isLive
      omega
    · rw [List.mem_singleton.mp isFresh]
      exact Nat.lt_succ_self _
  ahead := by
    intro timer member
    rcases List.mem_append.mp member with isLive | isFresh
    · exact timers.ahead timer isLive
    · rw [List.mem_singleton.mp isFresh]
      dsimp only
      omega

/-- Clear the timer with an id, if it is live. -/
def clear (timers : Timers Action) (id : Nat) : Timers Action where
  clock := timers.clock
  nextId := timers.nextId
  live := timers.live.filter fun timer => timer.id ≠ id
  distinct := timers.distinct.sublist (List.filter_sublist.map Timer.id)
  started := fun timer member =>
    timers.started timer (List.mem_filter.mp member).1
  ahead := fun timer member =>
    timers.ahead timer (List.mem_filter.mp member).1

/-- The timers that fire within some time, in the order in which they fire. -/
def expired (timers : Timers Action) (elapsed : Nat) : List (Timer Action) :=
  (timers.live.filter fun timer => timer.due ≤ timers.clock + elapsed).mergeSort
    fun first second => first.due ≤ second.due

/-- Let some time pass. -/
def elapse (timers : Timers Action) (elapsed : Nat) : Timers Action where
  clock := timers.clock + elapsed
  nextId := timers.nextId
  live := timers.live.filter fun timer => timers.clock + elapsed < timer.due
  distinct := timers.distinct.sublist (List.filter_sublist.map Timer.id)
  started := fun timer member =>
    timers.started timer (List.mem_filter.mp member).1
  ahead := fun timer member => by
    simpa using (List.mem_filter.mp member).2

section

variable {timers : Timers Action} {timer other : Timer Action}

theorem mem_start {delay : Nat} {action : Action} :
    timer ∈ (timers.start delay action).live ↔ timer ∈ timers.live ∨
      timer = ⟨timers.nextId, timers.clock + max delay 1, action⟩ := by
  rw [start, List.mem_append, List.mem_singleton]

theorem mem_clear {id : Nat} :
    timer ∈ (timers.clear id).live ↔ timer ∈ timers.live ∧ timer.id ≠ id := by
  simp [clear]

theorem mem_elapse {elapsed : Nat} :
    timer ∈ (timers.elapse elapsed).live ↔
      timer ∈ timers.live ∧ timers.clock + elapsed < timer.due := by
  simp [elapse]

theorem mem_expired {elapsed : Nat} :
    timer ∈ timers.expired elapsed ↔
      timer ∈ timers.live ∧ timer.due ≤ timers.clock + elapsed := by
  simp [expired]

/-- A live timer is determined by its id. -/
theorem eq_of_id (member : timer ∈ timers.live) (isOther : other ∈ timers.live)
    (same : timer.id = other.id) : timer = other :=
  List.inj_on_of_nodup_map timers.distinct member isOther same

theorem nodup_expired (timers : Timers Action) (elapsed : Nat) :
    ((timers.expired elapsed).map Timer.id).Nodup := by
  have sorted := List.mergeSort_perm
    (timers.live.filter fun timer => timer.due ≤ timers.clock + elapsed)
    fun first second => first.due ≤ second.due
  rw [expired, (sorted.map Timer.id).nodup_iff]
  exact timers.distinct.sublist (List.filter_sublist.map Timer.id)

/-- Of the timers of one kind at most one fires, where only one is live. -/
theorem filter_expired_eq_singleton {elapsed : Nat}
    {holds : Timer Action → Bool} (isLive : timer ∈ timers.live)
    (isDue : timer.due ≤ timers.clock + elapsed) (isKind : holds timer = true)
    (only : ∀ other ∈ timers.live, holds other = true → other = timer) :
    (timers.expired elapsed).filter holds = [timer] := by
  have distinct : ((timers.expired elapsed).filter holds).Nodup :=
    ((timers.nodup_expired elapsed).of_map _).filter _
  apply List.perm_singleton.mp
  rw [List.perm_ext_iff_of_nodup distinct (List.nodup_singleton timer)]
  intro other
  rw [List.mem_filter, mem_expired, List.mem_singleton]
  constructor
  · rintro ⟨⟨otherLive, -⟩, otherKind⟩
    exact only other otherLive otherKind
  · rintro rfl
    exact ⟨⟨isLive, isDue⟩, isKind⟩

theorem filter_expired_eq_nil {elapsed : Nat} {holds : Timer Action → Bool}
    (noneDue : ∀ timer ∈ timers.live,
      timer.due ≤ timers.clock + elapsed → holds timer = false) :
    (timers.expired elapsed).filter holds = [] := by
  rw [List.filter_eq_nil_iff]
  intro timer isExpired
  obtain ⟨isLive, isDue⟩ := mem_expired.mp isExpired
  rw [noneDue timer isLive isDue]
  exact Bool.false_ne_true

/-! ### Clearing several timers -/

def clearAll (timers : Timers Action) (ids : List Nat) : Timers Action :=
  ids.foldl clear timers

@[simp]
theorem clock_clearAll (timers : Timers Action) (ids : List Nat) :
    (timers.clearAll ids).clock = timers.clock := by
  induction ids generalizing timers with
  | nil => rfl
  | cons id ids inductionHypothesis =>
      exact inductionHypothesis (timers.clear id)

theorem mem_clearAll {ids : List Nat} :
    timer ∈ (timers.clearAll ids).live ↔
      timer ∈ timers.live ∧ timer.id ∉ ids := by
  induction ids generalizing timers with
  | nil => simp [clearAll]
  | cons id ids inductionHypothesis =>
      have tail := @inductionHypothesis (timers.clear id)
      rw [mem_clear] at tail
      rw [clearAll, List.foldl_cons, ← clearAll, tail, List.mem_cons, not_or,
        and_assoc]

end

end Timers

end RtsNotebook.Library
