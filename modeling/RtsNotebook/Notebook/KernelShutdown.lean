import RtsNotebook.Notebook.KernelLifecycle

/-!
# The shutdown of the kernel

What holds of the shutdown in every run of the client, and with it of the
handshake: the signals that a shutdown sends and when it comes to its end.
-/

namespace RtsNotebook.Notebook.KernelLifecycle

open RtsNotebook.Library

namespace Client

/-! ### The shutdown -/

/-- The delay of a timer. -/
def delayOf (config : Config) : Alarm → Nat
  | .readyTimeout => max config.readyTimeoutMs 1
  | .grace => max config.shutdownGraceMs 1
  | .doubleGrace => max (config.shutdownGraceMs * 2) 1

/-- When the signals of a timer were sent. -/
def killTimes (cause : Alarm) (client : Client) : List Nat :=
  (client.kills.filter fun kill => kill.cause = cause).map Kill.time

/-- No timer of the shutdown is live. -/
def Silent (cause : Alarm) (client : Client) : Prop :=
  ∀ timer ∈ client.timers.live, timer.action ≠ cause

/-- The one timer of a shutdown, and that it has not fired. -/
structure Awaiting (config : Config) (cause : Alarm) (since : Nat)
    (client : Client) (timer : Timer Alarm) : Prop where
  isLive : timer ∈ client.timers.live
  isCause : timer.action = cause
  isDue : timer.due = since + delayOf config cause
  isCleared : timer.id ∈ client.graceTimers
  only : ∀ other ∈ client.timers.live, other.action = cause → other = timer
  unsent : client.killTimes cause = []

/-- The signal of a shutdown has been sent. -/
structure Sent (config : Config) (cause : Alarm) (since : Nat)
    (client : Client) : Prop where
  silent : client.Silent cause
  inTime : since + delayOf config cause ≤ client.timers.clock
  sent : client.killTimes cause = [since + delayOf config cause]

/-- What every event keeps of one signal of the shutdown. -/
def Escalates (config : Config) (cause : Alarm) (client : Client) : Prop :=
  match client.shutdown with
  | .notCalled => client.Silent cause ∧ client.killTimes cause = []
  | .waiting since =>
      since ≤ client.timers.clock ∧
        ((∃ timer, Awaiting config cause since client timer) ∨
          Sent config cause since client)
  | .settled since finish =>
      since ≤ finish ∧ finish ≤ client.timers.clock ∧ client.Silent cause ∧
        client.killTimes cause =
          if since + delayOf config cause ≤ finish then
            [since + delayOf config cause]
          else []

/-- What every event keeps of the shutdown. -/
structure Closing (config : Config) (client : Client) : Prop where
  handshake : Handshake config client
  called : client.disposed = false ↔ client.shutdown = .notCalled
  asked : client.requests = if client.shutdown = .notCalled then 0 else 1
  spawned : ∀ since, client.shutdown = .waiting since → client.process ≠ none
  escalates : ∀ cause, cause ≠ .readyTimeout → Escalates config cause client

section

variable {config : Config} {client : Client} {cause : Alarm}

/-- An event that leaves the shutdown alone. -/
theorem Escalates.congr {changed : Client}
    (escalates : Escalates config cause client)
    (shutdown : changed.shutdown = client.shutdown)
    (clock : changed.timers.clock = client.timers.clock)
    (live : ∀ timer, timer.action = cause →
      (timer ∈ changed.timers.live ↔ timer ∈ client.timers.live))
    (graceTimers : changed.graceTimers = client.graceTimers)
    (kills : changed.kills = client.kills) :
    Escalates config cause changed := by
  have times : changed.killTimes cause = client.killTimes cause := by
    rw [killTimes, killTimes, kills]
  have silent : client.Silent cause → changed.Silent cause :=
    fun silent timer isLive isCause =>
      silent timer ((live timer isCause).mp isLive) isCause
  rw [Escalates] at escalates ⊢
  rw [shutdown]
  cases called : client.shutdown with
  | notCalled =>
      rw [called] at escalates
      exact ⟨silent escalates.1, times.trans escalates.2⟩
  | waiting since =>
      rw [called] at escalates
      simp only at escalates ⊢
      rw [clock]
      refine ⟨escalates.1, escalates.2.imp ?_ ?_⟩
      · rintro ⟨timer, awaiting⟩
        exact ⟨timer, (live timer awaiting.isCause).mpr awaiting.isLive,
          awaiting.isCause, awaiting.isDue,
          graceTimers ▸ awaiting.isCleared,
          fun other isLive isCause => awaiting.only other
            ((live other isCause).mp isLive) isCause,
          times.trans awaiting.unsent⟩
      · intro sent
        exact ⟨silent sent.silent, clock ▸ sent.inTime, times.trans sent.sent⟩
  | settled since finish =>
      rw [called] at escalates
      simp only at escalates ⊢
      rw [clock, times]
      exact ⟨escalates.1, escalates.2.1, silent escalates.2.2.1,
        escalates.2.2.2⟩

theorem Handshake.readyTimer_ne (handshake : Handshake config client)
    (notHandshake : cause ≠ .readyTimeout) {timer : Timer Alarm}
    (isLive : timer ∈ client.timers.live) (isCause : timer.action = cause) :
    client.readyTimer ≠ some timer.id := by
  intro isTimer
  obtain ⟨-, -, other, otherLive, sameId, isHandshake, -⟩ :=
    handshake.timed timer.id isTimer
  have same := Timers.eq_of_id otherLive isLive sameId
  rw [same, isCause] at isHandshake
  exact notHandshake isHandshake

/-- Stopping the ready timer leaves the timers of the shutdown alone. -/
theorem Handshake.live_cancel (handshake : Handshake config client)
    (notHandshake : cause ≠ .readyTimeout) (timer : Timer Alarm)
    (isCause : timer.action = cause) :
    timer ∈ client.cancelReadyTimeout.timers.live ↔
      timer ∈ client.timers.live := by
  rw [mem_cancelReadyTimeout, and_iff_left_iff_imp]
  exact fun isLive => handshake.readyTimer_ne notHandshake isLive isCause

theorem killTimes_addKills (client : Client) (timers : List (Timer Alarm)) :
    (client.addKills (timers.map killOf)).killTimes cause =
      client.killTimes cause ++
        (timers.filter fun timer => timer.action = cause).map Timer.due := by
  rw [killTimes, killTimes, addKills, List.filter_append, List.map_append,
    List.filter_map, List.map_map]
  rfl

/-- What the passing of time does to one signal of the shutdown. -/
structure Elapsed (cause : Alarm) (client : Client) (milliseconds : Nat)
    (next : Client) : Prop where
  shutdown : next.shutdown = client.shutdown
  graceTimers : next.graceTimers = client.graceTimers
  clock : next.timers.clock = client.timers.clock + milliseconds
  live : ∀ timer, timer.action = cause → (timer ∈ next.timers.live ↔
    timer ∈ client.timers.live ∧
      client.timers.clock + milliseconds < timer.due)
  times : next.killTimes cause = client.killTimes cause ++
    ((client.timers.expired milliseconds).filter fun timer =>
      timer.action = cause).map Timer.due

theorem elapsed (handshake : Handshake config client)
    (notHandshake : cause ≠ .readyTimeout) (milliseconds : Nat) :
    Elapsed cause client milliseconds (client.elapse milliseconds) := by
  by_cases unspawned : client.process = none
  · have nothing : (client.timers.expired milliseconds).filter
        (fun timer => timer.action = cause) = [] := by
      apply Timers.filter_expired_eq_nil
      intro timer isLive
      rw [(handshake.noProcess unspawned).1] at isLive
      cases isLive
    rw [elapse_of_unspawned handshake unspawned]
    refine ⟨rfl, rfl, rfl, fun timer _ => Timers.mem_elapse, ?_⟩
    rw [nothing, List.map_nil, List.append_nil]
    rfl
  · rw [elapse_of_spawned unspawned]
    split
    · refine ⟨rfl, rfl, clock_cancelReadyTimeout _, fun timer isCause => ?_,
        killTimes_addKills _ _⟩
      have kept := @mem_cancelReadyTimeout (client.moved milliseconds) timer
      rw [moved, Timers.mem_elapse, and_iff_left_of_imp] at kept
      · exact kept
      · exact fun isLive =>
          handshake.readyTimer_ne notHandshake isLive.1 isCause
    · exact ⟨rfl, rfl, rfl, fun timer _ => Timers.mem_elapse,
        killTimes_addKills _ _⟩

/-- Time that passes without a signal. -/
theorem Elapsed.silent {milliseconds : Nat} {next : Client}
    (elapsed : Elapsed cause client milliseconds next)
    (silent : client.Silent cause) :
    next.Silent cause ∧ next.killTimes cause = client.killTimes cause := by
  have nothing : (client.timers.expired milliseconds).filter
      (fun timer => timer.action = cause) = [] :=
    Timers.filter_expired_eq_nil fun timer isLive _ =>
      decide_eq_false (silent timer isLive)
  refine ⟨fun timer isLive isCause => ?_, ?_⟩
  · exact silent timer ((elapsed.live timer isCause).mp isLive).1 isCause
  · rw [elapsed.times, nothing, List.map_nil, List.append_nil]

/-- The timer of a shutdown goes on, or fires once. -/
theorem Awaiting.elapsed {since milliseconds : Nat} {next : Client}
    {timer : Timer Alarm} (awaiting : Awaiting config cause since client timer)
    (elapsed : Elapsed cause client milliseconds next) :
    Awaiting config cause since next timer ∨ Sent config cause since next := by
  by_cases isDue : timer.due ≤ client.timers.clock + milliseconds
  · right
    have fired : (client.timers.expired milliseconds).filter
        (fun timer => timer.action = cause) = [timer] :=
      Timers.filter_expired_eq_singleton awaiting.isLive isDue
        (decide_eq_true awaiting.isCause) fun other isLive isCause =>
          awaiting.only other isLive (of_decide_eq_true isCause)
    refine ⟨fun other isLive isCause => ?_, ?_, ?_⟩
    · obtain ⟨isLive, later⟩ := (elapsed.live other isCause).mp isLive
      rw [awaiting.only other isLive isCause] at later
      omega
    · rw [elapsed.clock, ← awaiting.isDue]
      exact isDue
    · rw [elapsed.times, fired, awaiting.unsent, ← awaiting.isDue]
      rfl
  · left
    have nothing : (client.timers.expired milliseconds).filter
        (fun timer => timer.action = cause) = [] := by
      apply Timers.filter_expired_eq_nil
      intro other isLive otherDue
      apply decide_eq_false
      intro isCause
      rw [awaiting.only other isLive isCause] at otherDue
      exact isDue otherDue
    exact
      { isLive := (elapsed.live timer awaiting.isCause).mpr
          ⟨awaiting.isLive, by omega⟩
        isCause := awaiting.isCause
        isDue := awaiting.isDue
        isCleared := elapsed.graceTimers ▸ awaiting.isCleared
        only := fun other isLive isCause => awaiting.only other
          ((elapsed.live other isCause).mp isLive).1 isCause
        unsent := by
          rw [elapsed.times, nothing, awaiting.unsent]
          rfl }

theorem Escalates.elapsed {milliseconds : Nat} {next : Client}
    (escalates : Escalates config cause client)
    (elapsed : Elapsed cause client milliseconds next) :
    Escalates config cause next := by
  rw [Escalates] at escalates ⊢
  rw [elapsed.shutdown]
  cases called : client.shutdown with
  | notCalled =>
      rw [called] at escalates
      obtain ⟨silent, times⟩ := elapsed.silent escalates.1
      exact ⟨silent, times.trans escalates.2⟩
  | waiting since =>
      rw [called] at escalates
      simp only at escalates ⊢
      have clock := elapsed.clock
      refine ⟨by omega, ?_⟩
      rcases escalates.2 with ⟨timer, awaiting⟩ | sent
      · exact (awaiting.elapsed elapsed).imp_left fun later => ⟨timer, later⟩
      · obtain ⟨silent, times⟩ := elapsed.silent sent.silent
        have inTime := sent.inTime
        exact Or.inr ⟨silent, by omega, times.trans sent.sent⟩
  | settled since finish =>
      rw [called] at escalates
      simp only at escalates ⊢
      have clock := elapsed.clock
      obtain ⟨silent, times⟩ := elapsed.silent escalates.2.2.1
      exact ⟨escalates.1, by omega, silent, times.trans escalates.2.2.2⟩

/-- The timers of a shutdown are those that it has just started. -/
theorem awaiting_awaitExit (handshake : Handshake config client)
    (notHandshake : cause ≠ .readyTimeout)
    (silent : client.Silent cause) (unsent : client.killTimes cause = []) :
    ∃ timer, Awaiting config cause client.timers.clock
      (client.awaitExit config) timer := by
  have notOld : ∀ timer ∈ client.cancelReadyTimeout.timers.live,
      timer.action ≠ cause := fun timer isOld isCause =>
    silent timer
      ((handshake.live_cancel notHandshake timer isCause).mp isOld) isCause
  cases cause with
  | readyTimeout =>
      exact absurd rfl notHandshake
  | grace =>
      refine ⟨_, mem_awaitExit.mpr (Or.inr (Or.inl rfl)), rfl, rfl,
        List.mem_cons_self, fun other isLive isCause => ?_, unsent⟩
      rcases mem_awaitExit.mp isLive with isOld | isGrace | rfl
      · exact absurd isCause (notOld other isOld)
      · exact isGrace
      · cases isCause
  | doubleGrace =>
      refine ⟨_, mem_awaitExit.mpr (Or.inr (Or.inr rfl)), rfl, rfl,
        List.mem_cons_of_mem _ List.mem_cons_self,
        fun other isLive isCause => ?_, unsent⟩
      rcases mem_awaitExit.mp isLive with isOld | rfl | isKill
      · exact absurd isCause (notOld other isOld)
      · cases isCause
      · exact isKill

theorem escalates_awaitExit (handshake : Handshake config client)
    (notHandshake : cause ≠ .readyTimeout)
    (notCalled : client.shutdown = .notCalled)
    (escalates : Escalates config cause client) :
    Escalates config cause (client.awaitExit config) := by
  rw [Escalates, notCalled] at escalates
  refine ⟨?_, Or.inl
    (awaiting_awaitExit handshake notHandshake escalates.1 escalates.2)⟩
  exact (clock_cancelReadyTimeout client).ge

/-- Once the exit promise is resolved, the timers that have not fired are
cleared. -/
theorem Escalates.finishShutdown {since : Nat}
    (escalates : Escalates config cause client)
    (waiting : client.shutdown = .waiting since) :
    Escalates config cause (client.finishShutdown since) := by
  have cleared : ∀ timer ∈ (client.finishShutdown since).timers.live,
      timer ∈ client.timers.live ∧ timer.id ∉ client.graceTimers :=
    fun timer isLive =>
      Timers.mem_clearAll.mp (mem_cancelReadyTimeout.mp isLive).1
  have clock : (client.finishShutdown since).timers.clock =
      client.timers.clock :=
    (clock_cancelReadyTimeout _).trans (Timers.clock_clearAll _ _)
  rw [Escalates, waiting] at escalates
  obtain ⟨inOrder, awaits | sent⟩ := escalates
  · obtain ⟨timer, awaiting⟩ := awaits
    have later := client.timers.ahead timer awaiting.isLive
    rw [awaiting.isDue] at later
    refine ⟨inOrder, clock.ge, fun other isLive isCause => ?_, ?_⟩
    · obtain ⟨isLive, notCleared⟩ := cleared other isLive
      rw [awaiting.only other isLive isCause] at notCleared
      exact notCleared awaiting.isCleared
    · rw [if_neg (by omega)]
      exact awaiting.unsent
  · refine ⟨inOrder, clock.ge, fun other isLive isCause => ?_, ?_⟩
    · exact sent.silent other (cleared other isLive).1 isCause
    · rw [if_pos sent.inTime]
      exact sent.sent

theorem closing_initial : Closing config initial where
  handshake := handshake_initial
  called := ⟨fun _ => rfl, fun _ => rfl⟩
  asked := rfl
  spawned := fun _ isWaiting => nomatch isWaiting
  escalates := fun _ _ => ⟨fun _ isLive => (nomatch isLive), rfl⟩

/-- An event that leaves the shutdown alone. -/
theorem Closing.congr (closing : Closing config client) {changed : Client}
    (handshake : Handshake config changed)
    (disposed : changed.disposed = client.disposed)
    (shutdown : changed.shutdown = client.shutdown)
    (process : client.process ≠ none → changed.process ≠ none)
    (clock : changed.timers.clock = client.timers.clock)
    (live : ∀ cause, cause ≠ .readyTimeout → ∀ timer : Timer Alarm,
      timer.action = cause →
        (timer ∈ changed.timers.live ↔ timer ∈ client.timers.live))
    (graceTimers : changed.graceTimers = client.graceTimers)
    (kills : changed.kills = client.kills)
    (requests : changed.requests = client.requests) :
    Closing config changed where
  handshake := handshake
  called := by
    rw [disposed, shutdown]
    exact closing.called
  asked := by
    rw [requests, shutdown]
    exact closing.asked
  spawned := fun since isWaiting =>
    process (closing.spawned since (shutdown ▸ isWaiting))
  escalates := fun cause notHandshake =>
    (closing.escalates cause notHandshake).congr shutdown clock
      (live cause notHandshake) graceTimers kills

/-- A change that stops the ready timer, and otherwise leaves the timers and
the shutdown alone. -/
theorem Closing.cancelled (closing : Closing config client) {changed : Client}
    (handshake : Handshake config changed)
    (timers : changed.timers = client.cancelReadyTimeout.timers)
    (disposed : changed.disposed = client.disposed)
    (shutdown : changed.shutdown = client.shutdown)
    (process : client.process ≠ none → changed.process ≠ none)
    (graceTimers : changed.graceTimers = client.graceTimers)
    (kills : changed.kills = client.kills)
    (requests : changed.requests = client.requests) :
    Closing config changed := by
  refine closing.congr handshake disposed shutdown process ?_ ?_ graceTimers
    kills requests
  · rw [timers, clock_cancelReadyTimeout]
  · intro cause notHandshake timer isCause
    rw [timers]
    exact closing.handshake.live_cancel notHandshake timer isCause

theorem Closing.finishShutdown (closing : Closing config client) {since : Nat}
    (waiting : client.shutdown = .waiting since)
    (handshake : Handshake config (client.finishShutdown since)) :
    Closing config (client.finishShutdown since) where
  handshake := handshake
  called := by
    have called := closing.called
    rw [waiting] at called
    constructor
    · intro notDisposed
      cases called.mp notDisposed
    · intro notCalled
      cases notCalled
  asked := by
    have asked := closing.asked
    rw [waiting] at asked
    exact asked
  spawned := fun _ isWaiting => nomatch isWaiting
  escalates := fun cause notHandshake =>
    (closing.escalates cause notHandshake).finishShutdown waiting

theorem Closing.onExit (closing : Closing config client)
    (alive : client.process = some .alive)
    (handshake : Handshake config client.onExit) :
    Closing config client.onExit := by
  have closed : Closing config client.onPtyExit :=
    closing.cancelled (closing.handshake.onPtyExit alive) rfl rfl rfl
      (fun _ => Option.some_ne_none _) rfl rfl rfl
  rw [Client.onExit] at handshake ⊢
  split at handshake
  · next since waiting =>
      exact closed.finishShutdown waiting handshake
  · exact closed

theorem Closing.requestShutdown (closing : Closing config client)
    (handshake : Handshake config (client.requestShutdown config)) :
    Closing config (client.requestShutdown config) := by
  rw [requestShutdown_eq] at handshake ⊢
  split at handshake
  · next isDisposed =>
      rw [if_pos isDisposed]
      exact closing
  · next notDisposed =>
      rw [if_neg notDisposed]
      have notCalled := closing.called.mp (Bool.eq_false_iff.mpr notDisposed)
      have asked : client.requests + 1 = 1 := by
        rw [closing.asked, if_pos notCalled]
      have escalates := fun cause notHandshake =>
        escalates_awaitExit closing.handshake notHandshake notCalled
          (closing.escalates cause notHandshake)
      split at handshake
      · next unspawned =>
          exact
            { handshake := handshake
              called := ⟨fun notDisposed => (nomatch notDisposed),
                fun notCalled => (nomatch notCalled)⟩
              asked := asked
              spawned := fun _ isWaiting => nomatch isWaiting
              escalates := fun cause notHandshake =>
                (escalates cause notHandshake).finishShutdown rfl }
      · next process spawned =>
          exact
            { handshake := handshake
              called := ⟨fun notDisposed => (nomatch notDisposed),
                fun notCalled => (nomatch notCalled)⟩
              asked := asked
              spawned := fun _ _ unspawned => by
                rw [show client.process = none from unspawned] at spawned
                cases spawned
              escalates := escalates }

theorem closing_step {event : Event} {next : Client}
    (closing : Closing config client)
    (stepped : client.step config event = some next) :
    Closing config next := by
  have handshake := handshake_step closing.handshake stepped
  have sameLive : ∀ cause, cause ≠ .readyTimeout → ∀ timer : Timer Alarm,
      timer.action = cause →
        (timer ∈ client.timers.live ↔ timer ∈ client.timers.live) :=
    fun _ _ _ _ => Iff.rfl
  cases event with
  | start =>
      obtain rfl := Option.some.inj stepped
      rw [Client.start] at handshake ⊢
      split at handshake
      · exact closing
      · exact closing.congr handshake rfl rfl id rfl sameLive rfl rfl rfl
  | bindFailed =>
      rw [step, Option.ite_none_right_eq_some] at stepped
      obtain rfl := Option.some.inj stepped.2
      exact closing.cancelled handshake rfl rfl rfl id rfl rfl rfl
  | bound spawns =>
      rw [step, Option.ite_none_right_eq_some] at stepped
      obtain ⟨isBinding, stepped⟩ := stepped
      obtain rfl := Option.some.inj stepped
      cases spawns with
      | true =>
          refine closing.congr handshake rfl rfl
            (fun _ => Option.some_ne_none _) rfl ?_ rfl rfl rfl
          intro cause notHandshake timer isCause
          refine Timers.mem_start.trans (or_iff_left ?_)
          rintro rfl
          exact notHandshake isCause.symm
      | false =>
          exact closing.cancelled handshake rfl rfl rfl id rfl rfl rfl
  | connection =>
      rw [step, Option.ite_none_right_eq_some] at stepped
      obtain rfl := Option.some.inj stepped.2
      exact closing.congr handshake rfl rfl id rfl sameLive rfl rfl rfl
  | readyRecord =>
      rw [step, Option.ite_none_right_eq_some] at stepped
      obtain rfl := Option.some.inj stepped.2
      by_cases pending : client.ready = some .pending
      · rw [if_pos pending] at handshake ⊢
        exact closing.cancelled handshake rfl rfl rfl id rfl rfl rfl
      · rw [if_neg pending]
        exact closing
  | socketEnd =>
      rw [step, Option.ite_none_right_eq_some] at stepped
      obtain rfl := Option.some.inj stepped.2
      by_cases pending : client.ready = some .pending
      · rw [if_pos pending] at handshake ⊢
        exact closing.cancelled handshake rfl rfl rfl id rfl rfl rfl
      · rw [if_neg pending]
        exact closing
  | processExit =>
      rw [step, Option.ite_none_right_eq_some] at stepped
      obtain ⟨alive, stepped⟩ := stepped
      obtain rfl := Option.some.inj stepped
      exact closing.onExit alive handshake
  | elapse milliseconds =>
      obtain rfl := Option.some.inj stepped
      obtain ⟨disposed, process, shutdown, requests⟩ :=
        elapse_frame closing.handshake milliseconds
      exact
        { handshake := handshake
          called := by
            rw [disposed, shutdown]
            exact closing.called
          asked := by
            rw [requests, shutdown]
            exact closing.asked
          spawned := fun since isWaiting => by
            rw [process]
            exact closing.spawned since (shutdown ▸ isWaiting)
          escalates := fun cause notHandshake =>
            (closing.escalates cause notHandshake).elapsed
              (elapsed closing.handshake notHandshake milliseconds) }
  | shutdown =>
      obtain rfl := Option.some.inj stepped
      exact closing.requestShutdown handshake
  | dispose =>
      obtain rfl := Option.some.inj stepped
      exact closing.cancelled handshake rfl rfl rfl id rfl rfl rfl

/-! ### Runs -/

theorem closing_run {events : List Event}
    (run : (system config).exec initial events = some client) :
    Closing config client :=
  System.keeps_exec (P := Closing config)
    (fun _ _ _ before (_ : True) stepped => closing_step before stepped)
    closing_initial (fun _ _ => trivial) run

/-- What no event takes back: a settled promise, an exit, and the end of a
shutdown. -/
structure Final (client next : Client) : Prop where
  ready : ∀ promise, promise ≠ .pending → client.ready = some promise →
    next.ready = some promise
  spawned : ∀ time, client.spawnedAt = some time →
    next.spawnedAt = some time
  exited : client.process = some .exited → next.process = some .exited
  settled : ∀ since finish, client.shutdown = .settled since finish →
    next.shutdown = .settled since finish

theorem Final.refl (client : Client) : Final client client :=
  ⟨fun _ _ => id, fun _ => id, id, fun _ _ => id⟩

theorem Final.trans {next last : Client} (first : Final client next)
    (second : Final next last) : Final client last :=
  ⟨fun promise settled isReady =>
      second.ready promise settled (first.ready promise settled isReady),
    fun time spawned => second.spawned time (first.spawned time spawned),
    fun exited => second.exited (first.exited exited),
    fun since finish settled =>
      second.settled since finish (first.settled since finish settled)⟩

theorem ready_failReady (client : Client) {promise : ReadyPromise}
    (failure : ReadyFailure)
    (settled : promise ≠ .pending) (isReady : client.ready = some promise) :
    (client.failReady failure).ready = some promise := by
  have notPending : client.ready ≠ some .pending := by
    rw [isReady]
    exact fun same => settled (Option.some.inj same)
  exact (if_neg notPending).trans isReady

theorem final_failReady (failure : ReadyFailure) :
    Final client (client.failReady failure) :=
  ⟨fun _ => ready_failReady client failure, fun _ => id, id, fun _ _ => id⟩

theorem final_elapse (closing : Closing config client) (milliseconds : Nat) :
    Final client (client.elapse milliseconds) := by
  by_cases unspawned : client.process = none
  · rw [elapse_of_unspawned closing.handshake unspawned]
    exact ⟨fun _ _ => id, fun _ => id, id, fun _ _ => id⟩
  · rw [elapse_of_spawned unspawned]
    split
    · exact ⟨fun _ settled isReady =>
          ready_failReady (client.moved milliseconds) .timedOut settled isReady,
        fun _ => id, id, fun _ _ => id⟩
    · exact ⟨fun _ _ => id, fun _ => id, id, fun _ _ => id⟩

theorem final_onExit (client : Client) : Final client client.onExit := by
  have closed : Final client client.onPtyExit :=
    ⟨fun _ settled isReady =>
        ready_failReady { client with process := some .exited } .exitedBefore
          settled isReady,
      fun _ => id, fun _ => rfl, fun _ _ => id⟩
  rw [Client.onExit]
  split
  · next since waiting =>
      exact ⟨closed.ready, closed.spawned, closed.exited,
        fun _ _ settled => by cases waiting.symm.trans settled⟩
  · exact closed

theorem final_step {event : Event} {next : Client}
    (closing : Closing config client)
    (stepped : client.step config event = some next) :
    Final client next := by
  have same : ∀ changed : Client, changed.ready = client.ready →
      changed.spawnedAt = client.spawnedAt →
      changed.process = client.process →
      changed.shutdown = client.shutdown → Final client changed :=
    fun changed ready spawnedAt process shutdown =>
      ⟨fun _ _ => ready.trans, fun _ => spawnedAt.trans, process.trans,
        fun _ _ => shutdown.trans⟩
  have notSettled : ∀ {promise : ReadyPromise}, promise ≠ .pending →
      client.ready = some promise → client.ready = some .pending → False :=
    fun settled isReady pending =>
      settled (Option.some.inj (isReady.symm.trans pending))
  cases event with
  | start =>
      obtain rfl := Option.some.inj stepped
      rw [Client.start]
      split
      · exact Final.refl client
      · next unstarted =>
          exact ⟨fun _ _ started => (by cases unstarted.symm.trans started),
            fun _ => id, id, fun _ _ => id⟩
  | bindFailed =>
      rw [step, Option.ite_none_right_eq_some] at stepped
      obtain rfl := Option.some.inj stepped.2
      have bound : Final client { client with binding := false } :=
        same _ rfl rfl rfl rfl
      exact bound.trans (final_failReady .bindFailed)
  | bound spawns =>
      rw [step, Option.ite_none_right_eq_some] at stepped
      obtain ⟨isBinding, stepped⟩ := stepped
      obtain rfl := Option.some.inj stepped
      obtain ⟨pending, unspawned⟩ := closing.handshake.binding isBinding
      have notSpawned := (closing.handshake.noProcess unspawned).2
      cases spawns with
      | true =>
          exact ⟨fun _ settled isReady =>
              (notSettled settled isReady pending).elim,
            fun _ spawned => (by cases notSpawned.symm.trans spawned),
            fun exited => (by cases unspawned.symm.trans exited),
            fun _ _ => id⟩
      | false =>
          have bound : Final client
              { client with binding := false, listening := true } :=
            same _ rfl rfl rfl rfl
          exact bound.trans (final_failReady .spawnFailed)
  | connection =>
      rw [step, Option.ite_none_right_eq_some] at stepped
      obtain rfl := Option.some.inj stepped.2
      exact same _ rfl rfl rfl rfl
  | readyRecord =>
      rw [step, Option.ite_none_right_eq_some] at stepped
      obtain rfl := Option.some.inj stepped.2
      split
      · next pending =>
          exact ⟨fun _ settled isReady =>
              (notSettled settled isReady pending).elim,
            fun _ => id, id, fun _ _ => id⟩
      · exact Final.refl client
  | socketEnd =>
      rw [step, Option.ite_none_right_eq_some] at stepped
      obtain rfl := Option.some.inj stepped.2
      split
      · exact final_failReady .socketClosed
      · exact Final.refl client
  | processExit =>
      rw [step, Option.ite_none_right_eq_some] at stepped
      obtain rfl := Option.some.inj stepped.2
      exact final_onExit client
  | elapse milliseconds =>
      obtain rfl := Option.some.inj stepped
      exact final_elapse closing milliseconds
  | shutdown =>
      obtain rfl := Option.some.inj stepped
      rw [requestShutdown_eq]
      split
      · exact Final.refl client
      · next notDisposed =>
          have notCalled :=
            closing.called.mp (Bool.eq_false_iff.mpr notDisposed)
          have first : ∀ since finish,
              client.shutdown ≠ .settled since finish := by
            rw [notCalled]
            exact fun _ _ settled => by cases settled
          split
          · exact ⟨fun _ _ => id, fun _ => id, id,
              fun since finish settled => absurd settled (first since finish)⟩
          · exact ⟨fun _ _ => id, fun _ => id, id,
              fun since finish settled => absurd settled (first since finish)⟩
  | dispose =>
      obtain rfl := Option.some.inj stepped
      exact same _ rfl rfl rfl rfl

theorem final_run {events : List Event} {next : Client}
    (closing : Closing config client)
    (run : (system config).exec client events = some next) :
    Final client next := by
  have kept : Closing config next ∧ Final client next :=
    System.keeps_exec (P := fun state => Closing config state ∧
        Final client state)
      (fun _ _ _ before (_ : True) stepped =>
        ⟨closing_step before.1 stepped,
          before.2.trans (final_step before.1 stepped)⟩)
      ⟨closing, Final.refl client⟩ (fun _ _ => trivial) run
  exact kept.2

/-- The handshake in every run.  A kernel is spawned at most once, the ready
promise is settled at most once, and `isReady` says that it was resolved.  A
promise that is still pending when the timeout has passed since the spawn is
one of a client that was shut down or disposed.  The ready timer kills only a
kernel whose handshake it has given up. -/
theorem handshake_holds (config : Config) {before after : List Event}
    {client next : Client}
    (run : (system config).exec initial before = some client)
    (rest : (system config).exec client after = some next) :
    (∀ time, client.spawnedAt = some time → next.spawnedAt = some time) ∧
    (∀ promise, promise ≠ .pending → client.ready = some promise →
      next.ready = some promise) ∧
    (client.isReady = true ↔ client.ready = some .resolved) ∧
    (∀ time, client.spawnedAt = some time →
      time + max config.readyTimeoutMs 1 ≤ client.timers.clock →
        client.ready = some .pending →
          client.disposed = true ∨ client.tornDown = true) ∧
    (∀ kill ∈ client.kills, kill.cause = .readyTimeout →
      client.ready = some (.rejected .timedOut)) := by
  have closing := closing_run run
  have handshake := closing.handshake
  have final := final_run closing rest
  refine ⟨final.spawned, final.ready, handshake.answered, ?_,
    handshake.killed⟩
  intro time spawned overdue pending
  by_contra running
  rw [not_or, Bool.not_eq_true, Bool.not_eq_true] at running
  have isProcess : client.process ≠ none := fun unspawned =>
    nomatch (handshake.noProcess unspawned).2.symm.trans spawned
  obtain ⟨id, isTimer⟩ := Option.ne_none_iff_exists'.mp
    (handshake.guarded pending isProcess running.1 running.2)
  obtain ⟨-, -, timer, isLive, -, -, spawned', isSpawned, due⟩ :=
    handshake.timed id isTimer
  have sameSpawn := Option.some.inj (spawned.symm.trans isSpawned)
  have ahead := client.timers.ahead timer isLive
  omega

/-- The windows without settings. -/
def defaults : Config where
  readyTimeoutMs := 30000
  shutdownGraceMs := 5000

/-- The client after some events. -/
def after (events : List Event) : Client :=
  ((system defaults).exec initial events).getD initial

theorem exec_after {before rest : List Event}
    (accepted :
      ((system defaults).exec initial (before ++ rest)).isSome = true) :
    (system defaults).exec initial before = some (after before) ∧
      (system defaults).exec (after before) rest =
        some (after (before ++ rest)) := by
  obtain ⟨last, run⟩ := Option.isSome_iff_exists.mp accepted
  have split := run
  rw [System.exec_append, Option.bind_eq_some_iff] at split
  obtain ⟨between, first, second⟩ := split
  have isBetween : after before = between := by
    rw [after, first, Option.getD_some]
  have isLast : after (before ++ rest) = last := by
    rw [after, run, Option.getD_some]
  rw [isBetween, isLast]
  exact ⟨first, second⟩

/-- A kernel that reports ready. -/
def becomesReady : List Event :=
  [.start, .bound true, .connection, .readyRecord]

theorem exit_keepsReady :
    (after (becomesReady ++ [.processExit])).ready = some .resolved := by
  obtain ⟨run, rest⟩ := @exec_after becomesReady [.processExit] rfl
  exact (handshake_holds defaults run rest).2.1 .resolved (by decide) rfl

/-- When the signals of a timer are sent that runs from a shutdown on until it
is over. -/
def signalTimes (config : Config) (cause : Alarm) (clock : Nat) :
    Shutdown → List Nat
  | .notCalled => []
  | .waiting since =>
      if since + delayOf config cause ≤ clock then
        [since + delayOf config cause]
      else []
  | .settled since finish =>
      if since + delayOf config cause ≤ finish then
        [since + delayOf config cause]
      else []

/-- While a shutdown waits, only the exit of the process changes anything for
it. -/
theorem waiting_step (closing : Closing config client) {since : Nat}
    (waiting : client.shutdown = .waiting since) {event : Event}
    {next : Client} (stepped : client.step config event = some next)
    (notExit : event ≠ .processExit) :
    next.shutdown = .waiting since ∧ next.process = client.process := by
  have spawned := closing.spawned since waiting
  cases event with
  | start =>
      obtain rfl := Option.some.inj stepped
      rw [Client.start]
      split <;> exact ⟨waiting, rfl⟩
  | bindFailed =>
      rw [step, Option.ite_none_right_eq_some] at stepped
      obtain rfl := Option.some.inj stepped.2
      exact ⟨waiting, rfl⟩
  | bound spawns =>
      rw [step, Option.ite_none_right_eq_some] at stepped
      exact absurd (closing.handshake.binding stepped.1).2 spawned
  | connection =>
      rw [step, Option.ite_none_right_eq_some] at stepped
      obtain rfl := Option.some.inj stepped.2
      exact ⟨waiting, rfl⟩
  | readyRecord =>
      rw [step, Option.ite_none_right_eq_some] at stepped
      obtain rfl := Option.some.inj stepped.2
      split <;> exact ⟨waiting, rfl⟩
  | socketEnd =>
      rw [step, Option.ite_none_right_eq_some] at stepped
      obtain rfl := Option.some.inj stepped.2
      split <;> exact ⟨waiting, rfl⟩
  | processExit =>
      exact absurd rfl notExit
  | elapse milliseconds =>
      obtain rfl := Option.some.inj stepped
      obtain ⟨-, process, shutdown, -⟩ :=
        elapse_frame closing.handshake milliseconds
      exact ⟨shutdown.trans waiting, process⟩
  | shutdown =>
      obtain rfl := Option.some.inj stepped
      rw [requestShutdown_eq, if_pos]
      · exact ⟨waiting, rfl⟩
      · by_contra notDisposed
        have notCalled := closing.called.mp (Bool.eq_false_iff.mpr notDisposed)
        rw [waiting] at notCalled
        cases notCalled
  | dispose =>
      obtain rfl := Option.some.inj stepped
      exact ⟨waiting, rfl⟩

theorem settled_onExit {since : Nat}
    (waiting : client.shutdown = .waiting since) :
    ∃ finish, client.onExit.shutdown = .settled since finish := by
  rw [Client.onExit, waiting]
  exact ⟨_, rfl⟩

theorem waiting_run (closing : Closing config client) {since : Nat}
    (waiting : client.shutdown = .waiting since) {events : List Event}
    {next : Client} (run : (system config).exec client events = some next) :
    (∃ begun finish, next.shutdown = .settled begun finish) ↔
      client.process = some .alive ∧ .processExit ∈ events := by
  induction events generalizing client with
  | nil =>
      obtain rfl := Option.some.inj run
      rw [waiting]
      simp
  | cons event rest inductionHypothesis =>
      rw [System.exec_cons, Option.bind_eq_some_iff] at run
      obtain ⟨between, stepped, run⟩ := run
      have keeps := closing_step closing stepped
      by_cases isExit : event = .processExit
      · subst isExit
        rw [show (system config).step = step config from rfl, step,
          Option.ite_none_right_eq_some] at stepped
        obtain rfl := Option.some.inj stepped.2
        obtain ⟨finish, settled⟩ := settled_onExit waiting
        have later := (final_run keeps run).settled since finish settled
        exact iff_of_true ⟨since, finish, later⟩
          ⟨stepped.1, List.mem_cons_self⟩
      · obtain ⟨stillWaiting, process⟩ :=
          waiting_step closing waiting stepped isExit
        rw [inductionHypothesis keeps stillWaiting run, process,
          List.mem_cons, or_iff_right (Ne.symm isExit)]

/-- A call of `shutdown` comes to its end exactly where nothing was spawned, or
where the process was alive and exits after the call.  A process that has
exited before keeps it waiting for good. -/
theorem shutdown_settles_iff (config : Config) {before after : List Event}
    {client next : Client}
    (run : (system config).exec initial before = some client)
    (first : client.shutdown = .notCalled)
    (rest : (system config).exec client (.shutdown :: after) = some next) :
    (∃ since finish, next.shutdown = .settled since finish) ↔
      client.process = none ∨
        (client.process = some .alive ∧ .processExit ∈ after) := by
  have closing := closing_run run
  rw [System.exec_cons, Option.bind_eq_some_iff] at rest
  obtain ⟨between, stepped, rest⟩ := rest
  obtain rfl : client.requestShutdown config = between :=
    Option.some.inj stepped
  have keeps : Closing config (client.requestShutdown config) :=
    closing.requestShutdown closing.handshake.requestShutdown
  rw [requestShutdown_eq,
    if_neg (Bool.eq_false_iff.mp (closing.called.mpr first))] at rest keeps
  cases spawned : client.process with
  | none =>
      rw [spawned] at rest keeps
      have settled : ((client.awaitExit config).finishShutdown
          client.timers.clock).shutdown = .settled client.timers.clock
            (client.awaitExit config).timers.clock :=
        rfl
      have later := (final_run keeps rest).settled _ _ settled
      exact iff_of_true ⟨_, _, later⟩ (Or.inl rfl)
  | some process =>
      rw [spawned] at rest keeps
      have waiting : (client.awaitExit config).shutdown =
          .waiting client.timers.clock :=
        rfl
      have settles := waiting_run keeps waiting rest
      have sameProcess : (client.awaitExit config).process = some process :=
        spawned
      rw [sameProcess] at settles
      rw [or_iff_right (Option.some_ne_none process)]
      exact settles

theorem earlierExit_neverSettles :
    ¬ ∃ since finish,
      (after (becomesReady ++ [.processExit] ++
        [.shutdown, .dispose])).shutdown = .settled since finish := by
  obtain ⟨run, rest⟩ :=
    @exec_after (becomesReady ++ [.processExit]) [.shutdown, .dispose] rfl
  rw [shutdown_settles_iff defaults run rfl rest]
  rintro (unspawned | ⟨-, exits⟩)
  · cases unspawned
  · cases exits with
    | tail _ exits => cases exits

end

end Client

end RtsNotebook.Notebook.KernelLifecycle
