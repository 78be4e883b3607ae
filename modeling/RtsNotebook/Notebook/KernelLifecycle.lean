import RtsNotebook.Library.Runs
import RtsNotebook.Library.Timers

/-!
# The life of the kernel process

`PtyKernelClient.start`, the ready handshake and `shutdown`: the client listens
on its socket, spawns the kernel, waits for the record `kernel.ready` with a
timeout, and at the end asks the kernel to shut down, with SIGTERM after the
grace window and SIGKILL after twice that.  What the frames on the socket say
is left to the modules of the data plane.

The times of the spawn, of the signals and of the shutdown are history.
-/

namespace RtsNotebook.Notebook.KernelLifecycle

open RtsNotebook.Library

/-- The parts of `PtyKernelConfig` that set a time. -/
structure Config where
  readyTimeoutMs : Nat
  shutdownGraceMs : Nat

/-- Why the ready promise was rejected. -/
inductive ReadyFailure where
  | bindFailed
  | spawnFailed
  | timedOut
  | exitedBefore
  | socketClosed
  deriving DecidableEq

/-- The ready promise; `readyResolve` and `readyReject` are set as long as it
is pending. -/
inductive ReadyPromise where
  | pending
  | resolved
  | rejected (failure : ReadyFailure)
  deriving DecidableEq

/-- The timers of the client. -/
inductive Alarm where
  | readyTimeout
  | grace
  | doubleGrace
  deriving DecidableEq

/-- A signal to the process, with what sent it: SIGTERM at the ready timeout and
after the grace window, SIGKILL after twice that. -/
structure Kill where
  time : Nat
  cause : Alarm

/-- The process behind `ptyProcess`, which stays set after the exit. -/
inductive Process where
  | alive
  | exited
  deriving DecidableEq

/-- The call of `shutdown` that got past `disposed`. -/
inductive Shutdown where
  | notCalled
  | waiting (since : Nat)
  | settled (since finish : Nat)
  deriving DecidableEq

structure Client where
  timers : Timers Alarm
  ready : Option ReadyPromise
  isReady : Bool
  readyTimer : Option Nat
  binding : Bool
  listening : Bool
  socket : Bool
  process : Option Process
  spawnedAt : Option Nat
  disposed : Bool
  tornDown : Bool
  shutdown : Shutdown
  graceTimers : List Nat
  kills : List Kill
  requests : Nat

/-- A call of `start`, the end of `server.listen` and of the spawn after it, a
connection, the record `kernel.ready`, the end of the socket, the exit of the
process, some time, and the calls of `shutdown` and `dispose`. -/
inductive Event where
  | start
  | bindFailed
  | bound (spawns : Bool)
  | connection
  | readyRecord
  | socketEnd
  | processExit
  | elapse (milliseconds : Nat)
  | shutdown
  | dispose

namespace Client

def initial : Client where
  timers := .initial
  ready := none
  isReady := false
  readyTimer := none
  binding := false
  listening := false
  socket := false
  process := none
  spawnedAt := none
  disposed := false
  tornDown := false
  shutdown := .notCalled
  graceTimers := []
  kills := []
  requests := 0

def cancelReadyTimeout (client : Client) : Client :=
  { client with
    timers :=
      match client.readyTimer with
      | none => client.timers
      | some id => client.timers.clear id
    readyTimer := none }

def completeReady (client : Client) : Client :=
  let cancelled := client.cancelReadyTimeout
  { cancelled with
    isReady := true
    ready :=
      if client.ready = some .pending then some .resolved else client.ready }

def failReady (client : Client) (failure : ReadyFailure) : Client :=
  let cancelled := client.cancelReadyTimeout
  { cancelled with
    ready :=
      if client.ready = some .pending then some (.rejected failure)
      else client.ready }

def armReadyTimeout (config : Config) (client : Client) : Client :=
  { client with
    timers := client.timers.start config.readyTimeoutMs .readyTimeout
    readyTimer := some client.timers.nextId }

def dispose (client : Client) : Client :=
  { client.cancelReadyTimeout with
    socket := false
    listening := false
    tornDown := true }

/-- `start` up to `listenSocket`; a later call returns the promise there is. -/
def start (client : Client) : Client :=
  match client.ready with
  | some _ => client
  | none => { client with ready := some .pending, binding := true }

/-- The rest of `start`. -/
def spawnKernel (config : Config) (client : Client) (spawns : Bool) : Client :=
  if spawns then
    { client with
      process := some .alive
      spawnedAt := some client.timers.clock }.armReadyTimeout config
  else
    client.failReady .spawnFailed

def addKills (client : Client) (kills : List Kill) : Client :=
  { client with kills := client.kills ++ kills }

/-- `this.ptyProcess?.kill(...)` of a timer. -/
def kill (client : Client) (time : Nat) (cause : Alarm) : Client :=
  match client.process with
  | none => client
  | some _ => client.addKills [⟨time, cause⟩]

/-- The callback of a timer. -/
def fire (client : Client) (timer : Timer Alarm) : Client :=
  match timer.action with
  | .readyTimeout =>
      (client.failReady .timedOut).kill timer.due .readyTimeout
  | cause => client.kill timer.due cause

def elapse (client : Client) (milliseconds : Nat) : Client :=
  (client.timers.expired milliseconds).foldl fire
    { client with timers := client.timers.elapse milliseconds }

/-- The end of `shutdown`, once the exit promise is resolved. -/
def finishShutdown (client : Client) (since : Nat) : Client :=
  { client with
    timers := client.timers.clearAll client.graceTimers
    graceTimers := []
    shutdown := .settled since client.timers.clock }.dispose

/-- `shutdown` up to the exit promise, which is resolved at once where nothing
was spawned. -/
def requestShutdown (config : Config) (client : Client) : Client :=
  if client.disposed then
    client
  else
    let cancelled := client.cancelReadyTimeout
    let termed := cancelled.timers.start config.shutdownGraceMs .grace
    let killed := termed.start (config.shutdownGraceMs * 2) .doubleGrace
    let waiting :=
      { cancelled with
        disposed := true
        requests := client.requests + 1
        timers := killed
        graceTimers := [cancelled.timers.nextId, termed.nextId]
        shutdown := .waiting client.timers.clock }
    match client.process with
    | none => waiting.finishShutdown client.timers.clock
    | some _ => waiting

/-- `onPtyExit`, where the process has exited. -/
def onPtyExit (client : Client) : Client :=
  ({ client with process := some .exited }.failReady .exitedBefore).dispose

/-- `onPtyExit`, then the listener of a shutdown that waits for the exit. -/
def onExit (client : Client) : Client :=
  match client.shutdown with
  | .waiting since => client.onPtyExit.finishShutdown since
  | _ => client.onPtyExit

/-- One event; an event that cannot happen is refused. -/
def step (config : Config) (client : Client) : Event → Option Client
  | .start => some client.start
  | .bindFailed =>
      if client.binding then
        some ({ client with binding := false }.failReady .bindFailed)
      else
        none
  | .bound spawns =>
      if client.binding then
        some ({ client with
          binding := false
          listening := true }.spawnKernel config spawns)
      else
        none
  | .connection =>
      if client.listening then
        some { client with socket := true }
      else
        none
  | .readyRecord =>
      if client.socket then
        some (if client.ready = some .pending then client.completeReady
          else client)
      else
        none
  | .socketEnd =>
      if client.socket then
        some (if client.ready = some .pending then
            client.failReady .socketClosed
          else client)
      else
        none
  | .processExit =>
      if client.process = some .alive then
        some client.onExit
      else
        none
  | .elapse milliseconds => some (client.elapse milliseconds)
  | .shutdown => some (client.requestShutdown config)
  | .dispose => some client.dispose

/-! ### The ready timer -/

section

variable {config : Config} {client : Client}

theorem clock_cancelReadyTimeout (client : Client) :
    client.cancelReadyTimeout.timers.clock = client.timers.clock := by
  rw [cancelReadyTimeout]
  cases client.readyTimer <;> rfl

theorem mem_cancelReadyTimeout {timer : Timer Alarm} :
    timer ∈ client.cancelReadyTimeout.timers.live ↔
      timer ∈ client.timers.live ∧ client.readyTimer ≠ some timer.id := by
  rw [cancelReadyTimeout]
  cases client.readyTimer with
  | none =>
      simp
  | some id =>
      rw [Timers.mem_clear, Ne, Ne, Option.some_inj, eq_comm]

/-- A rejection changes nothing the second time. -/
theorem failReady_failReady (client : Client) (failure : ReadyFailure) :
    (client.failReady failure).failReady failure = client.failReady failure := by
  simp only [failReady, cancelReadyTimeout]
  split_ifs with pending settled
  · cases settled
  · rfl
  · rfl

theorem failReady_addKills (client : Client) (failure : ReadyFailure)
    (kills : List Kill) :
    (client.addKills kills).failReady failure =
      (client.failReady failure).addKills kills :=
  rfl

theorem addKills_addKills (client : Client) (first second : List Kill) :
    (client.addKills first).addKills second =
      client.addKills (first ++ second) := by
  simp only [addKills, List.append_assoc]

/-- The signal of a timer. -/
def killOf (timer : Timer Alarm) : Kill :=
  ⟨timer.due, timer.action⟩

theorem fire_eq (spawned : client.process ≠ none) (timer : Timer Alarm) :
    client.fire timer =
      (if timer.action = .readyTimeout then client.failReady .timedOut
        else client).addKills [killOf timer] := by
  obtain ⟨process, isProcess⟩ := Option.ne_none_iff_exists'.mp spawned
  have rejected : (client.failReady .timedOut).process = some process :=
    isProcess
  rw [fire, killOf]
  cases timer.action with
  | readyTimeout =>
      rw [if_pos rfl, kill, rejected]
  | grace =>
      show client.kill timer.due .grace = _
      rw [if_neg (by decide), kill, isProcess]
  | doubleGrace =>
      show client.kill timer.due .doubleGrace = _
      rw [if_neg (by decide), kill, isProcess]

/-- The timers that fire send their signals, and the ready timeout rejects the
promise. -/
theorem foldl_fire (timers : List (Timer Alarm)) (client : Client)
    (spawned : client.process ≠ none) :
    timers.foldl fire client =
      (if ∃ timer ∈ timers, timer.action = .readyTimeout then
          client.failReady .timedOut
        else client).addKills (timers.map killOf) := by
  induction timers generalizing client with
  | nil =>
      simp [addKills]
  | cons timer rest inductionHypothesis =>
      rw [List.foldl_cons, fire_eq spawned]
      by_cases handshake : timer.action = .readyTimeout
      · have rejected : ((client.failReady .timedOut).addKills
            [killOf timer]).process ≠ none := spawned
        rw [if_pos handshake, inductionHypothesis _ rejected,
          failReady_addKills, failReady_failReady, ite_self, addKills_addKills,
          if_pos ⟨timer, List.mem_cons_self, handshake⟩]
        rfl
      · have signalled : (client.addKills [killOf timer]).process ≠ none :=
          spawned
        rw [if_neg handshake, inductionHypothesis _ signalled,
          failReady_addKills]
        simp only [List.exists_mem_cons_iff, handshake, false_or]
        split <;> exact addKills_addKills _ _ _

end

/-- The client as a system of events. -/
def system (config : Config) : System Client Event where
  initial := initial
  step := step config

/-! ### The handshake -/

/-- What every event keeps of the handshake: the ready timer runs from the spawn
as long as the promise is pending, unless the client is shut down or disposed,
and only its own timeout kills the kernel for it. -/
structure Handshake (config : Config) (client : Client) : Prop where
  noProcess : client.process = none →
    client.timers.live = [] ∧ client.spawnedAt = none
  unstarted : client.ready = none → client.process = none
  binding : client.binding = true →
    client.ready = some .pending ∧ client.process = none
  listens : client.listening = true ∨ client.socket = true →
    client.ready ≠ none ∧ client.binding = false
  answered : client.isReady = true ↔ client.ready = some .resolved
  armed : ∀ timer ∈ client.timers.live, timer.action = .readyTimeout →
    client.readyTimer = some timer.id
  timed : ∀ id, client.readyTimer = some id →
    client.ready = some .pending ∧ client.process ≠ none ∧
      ∃ timer ∈ client.timers.live, timer.id = id ∧
        timer.action = .readyTimeout ∧
        ∃ spawned, client.spawnedAt = some spawned ∧
          timer.due = spawned + max config.readyTimeoutMs 1
  guarded : client.ready = some .pending → client.process ≠ none →
    client.disposed = false → client.tornDown = false →
      client.readyTimer ≠ none
  killed : ∀ kill ∈ client.kills, kill.cause = .readyTimeout →
    client.ready = some (.rejected .timedOut)

section

variable {config : Config} {client : Client}

theorem handshake_initial : Handshake config initial where
  noProcess := fun _ => ⟨rfl, rfl⟩
  unstarted := fun _ => rfl
  binding := fun isBinding => by cases isBinding
  listens := by simp [initial]
  answered := by simp [initial]
  armed := fun timer isLive => by cases isLive
  timed := fun id isTimer => by cases isTimer
  guarded := fun pending => by cases pending
  killed := fun kill isKill => by cases isKill

theorem Handshake.readyTimer_eq_none (handshake : Handshake config client)
    (unspawned : client.process = none) : client.readyTimer = none := by
  cases timer : client.readyTimer with
  | none =>
      rfl
  | some id =>
      exact absurd unspawned (handshake.timed id timer).2.1

theorem Handshake.noAlarm (handshake : Handshake config client)
    {timer : Timer Alarm}
    (isLive : timer ∈ client.cancelReadyTimeout.timers.live) :
    timer.action ≠ .readyTimeout := by
  intro isHandshake
  rw [mem_cancelReadyTimeout] at isLive
  exact isLive.2 (handshake.armed timer isLive.1 isHandshake)

theorem Handshake.noProcess_cancel (handshake : Handshake config client)
    (unspawned : client.process = none) :
    client.cancelReadyTimeout.timers.live = [] := by
  rw [List.eq_nil_iff_forall_not_mem]
  intro timer isLive
  rw [mem_cancelReadyTimeout, (handshake.noProcess unspawned).1] at isLive
  cases isLive.1

/-- The timer is stopped where the promise is settled, or where the client is
shut down or disposed. -/
theorem Handshake.cancel (handshake : Handshake config client)
    (changed : Client)
    (timers : changed.timers.live = client.cancelReadyTimeout.timers.live)
    (readyTimer : changed.readyTimer = none)
    (process : changed.process = client.process)
    (spawnedAt : changed.spawnedAt = client.spawnedAt)
    (binding : changed.binding = client.binding)
    (isReady : changed.isReady = client.isReady)
    (ready : changed.ready = client.ready)
    (kills : changed.kills = client.kills)
    (listens : changed.listening = true ∨ changed.socket = true →
      client.listening = true ∨ client.socket = true)
    (closed : changed.disposed = true ∨ changed.tornDown = true) :
    Handshake config changed where
  noProcess := fun unspawned => by
    rw [process] at unspawned
    rw [timers, spawnedAt]
    exact ⟨handshake.noProcess_cancel unspawned,
      (handshake.noProcess unspawned).2⟩
  unstarted := by
    rw [ready, process]
    exact handshake.unstarted
  binding := by
    rw [binding, ready, process]
    exact handshake.binding
  listens := fun listening => by
    rw [ready, binding]
    exact handshake.listens (listens listening)
  answered := by
    rw [isReady, ready]
    exact handshake.answered
  armed := fun timer isLive isHandshake => by
    rw [timers] at isLive
    exact absurd isHandshake (handshake.noAlarm isLive)
  timed := fun id isTimer => by
    rw [readyTimer] at isTimer
    cases isTimer
  guarded := fun _ _ notDisposed notTornDown => by
    rw [notDisposed, notTornDown] at closed
    cases closed with
    | inl isDisposed => cases isDisposed
    | inr isTornDown => cases isTornDown
  killed := by
    rw [kills, ready]
    exact handshake.killed

theorem Handshake.dispose (handshake : Handshake config client) :
    Handshake config client.dispose :=
  handshake.cancel client.dispose rfl rfl rfl rfl rfl rfl rfl rfl
    (by simp [Client.dispose]) (Or.inr rfl)

/-- The promise is settled, if it was pending. -/
theorem Handshake.settle (handshake : Handshake config client)
    (bound : client.binding = false) {changed : Client} {promise : ReadyPromise}
    (settles : promise ≠ .pending)
    (timers : changed.timers = client.cancelReadyTimeout.timers)
    (readyTimer : changed.readyTimer = none)
    (process : changed.process = client.process)
    (spawnedAt : changed.spawnedAt = client.spawnedAt)
    (binding : changed.binding = client.binding)
    (listening : changed.listening = client.listening)
    (socket : changed.socket = client.socket)
    (ready : changed.ready =
      if client.ready = some .pending then some promise else client.ready)
    (isReady : changed.isReady = true ↔ changed.ready = some .resolved)
    (kills : ∀ kill ∈ changed.kills, kill.cause = .readyTimeout →
      kill ∈ client.kills ∨ changed.ready = some (.rejected .timedOut)) :
    Handshake config changed where
  noProcess := fun unspawned => by
    rw [process] at unspawned
    rw [timers, spawnedAt]
    exact ⟨handshake.noProcess_cancel unspawned,
      (handshake.noProcess unspawned).2⟩
  unstarted := fun unstarted => by
    rw [process]
    apply handshake.unstarted
    rw [ready] at unstarted
    split at unstarted
    · cases unstarted
    · exact unstarted
  binding := fun isBinding => by
    rw [binding, bound] at isBinding
    cases isBinding
  listens := fun isListening => by
    rw [listening, socket] at isListening
    refine ⟨?_, binding.trans bound⟩
    rw [ready]
    split
    · exact Option.some_ne_none _
    · exact (handshake.listens isListening).1
  answered := isReady
  armed := fun timer isLive isHandshake => by
    rw [timers] at isLive
    exact absurd isHandshake (handshake.noAlarm isLive)
  timed := fun id isTimer => by
    rw [readyTimer] at isTimer
    cases isTimer
  guarded := fun pending _ _ _ => by
    rw [ready] at pending
    split at pending
    · exact absurd (Option.some.inj pending) settles
    · next notPending => exact absurd pending notPending
  killed := fun kill isKill isHandshake => by
    rcases kills kill isKill isHandshake with before | now
    · have timedOut := handshake.killed kill before isHandshake
      rw [ready, timedOut, if_neg (by simp)]
    · exact now

theorem Handshake.failReady (handshake : Handshake config client)
    (bound : client.binding = false) (failure : ReadyFailure) :
    Handshake config (client.failReady failure) := by
  have settles : ReadyPromise.rejected failure ≠ .pending := by
    simp
  refine handshake.settle bound settles rfl rfl rfl rfl rfl rfl rfl rfl ?_
    fun kill isKill _ => Or.inl isKill
  rw [Client.failReady]
  show client.isReady = true ↔ _
  rw [handshake.answered]
  split_ifs with pending
  · rw [pending]
    simp
  · exact Iff.rfl

theorem Handshake.completeReady (handshake : Handshake config client)
    (bound : client.binding = false)
    (pending : client.ready = some .pending) :
    Handshake config client.completeReady := by
  have settles : ReadyPromise.resolved ≠ .pending := by
    simp
  have resolved : client.completeReady.ready = some .resolved :=
    if_pos pending
  refine handshake.settle bound settles rfl rfl rfl rfl rfl rfl rfl rfl
    ⟨fun _ => resolved, fun _ => rfl⟩ fun kill isKill _ => Or.inl isKill

/-- The client when the clock has moved on and the callbacks are still to
run. -/
def moved (client : Client) (milliseconds : Nat) : Client :=
  { client with timers := client.timers.elapse milliseconds }

theorem elapse_of_unspawned (handshake : Handshake config client)
    (unspawned : client.process = none) (milliseconds : Nat) :
    client.elapse milliseconds = client.moved milliseconds := by
  have nothing : client.timers.expired milliseconds = [] := by
    rw [List.eq_nil_iff_forall_not_mem]
    intro timer isExpired
    rw [Timers.mem_expired, (handshake.noProcess unspawned).1] at isExpired
    cases isExpired.1
  rw [elapse, nothing]
  rfl

theorem elapse_of_spawned (spawned : client.process ≠ none)
    (milliseconds : Nat) :
    client.elapse milliseconds =
      (if ∃ timer ∈ client.timers.expired milliseconds,
            timer.action = .readyTimeout then
          (client.moved milliseconds).failReady .timedOut
        else client.moved milliseconds).addKills
        ((client.timers.expired milliseconds).map killOf) :=
  foldl_fire _ (client.moved milliseconds) spawned

theorem elapse_frame (handshake : Handshake config client)
    (milliseconds : Nat) :
    (client.elapse milliseconds).disposed = client.disposed ∧
      (client.elapse milliseconds).process = client.process ∧
      (client.elapse milliseconds).shutdown = client.shutdown ∧
      (client.elapse milliseconds).requests = client.requests := by
  by_cases unspawned : client.process = none
  · rw [elapse_of_unspawned handshake unspawned]
    exact ⟨rfl, rfl, rfl, rfl⟩
  · rw [elapse_of_spawned unspawned]
    split <;> exact ⟨rfl, rfl, rfl, rfl⟩

theorem Handshake.timedOut (handshake : Handshake config client)
    {milliseconds : Nat} {timer : Timer Alarm}
    (isExpired : timer ∈ client.timers.expired milliseconds)
    (isHandshake : timer.action = .readyTimeout) :
    Handshake config
      (((client.moved milliseconds).failReady .timedOut).addKills
        ((client.timers.expired milliseconds).map killOf)) := by
  obtain ⟨isLive, -⟩ := Timers.mem_expired.mp isExpired
  have armed := handshake.armed timer isLive isHandshake
  obtain ⟨pending, spawned, -⟩ := handshake.timed timer.id armed
  have rejected : ((client.moved milliseconds).failReady .timedOut).ready =
      some (.rejected .timedOut) :=
    if_pos pending
  exact
    { noProcess := fun unspawned => absurd unspawned spawned
      unstarted := fun unstarted => nomatch rejected.symm.trans unstarted
      binding := fun isBinding =>
        absurd (handshake.binding isBinding).2 spawned
      listens := fun isListening =>
        ⟨fun unstarted => (nomatch rejected.symm.trans unstarted),
          (handshake.listens isListening).2⟩
      answered := by
        show client.isReady = true ↔
          ((client.moved milliseconds).failReady .timedOut).ready = _
        rw [handshake.answered, rejected, pending]
        simp
      armed := fun other isLive isOther => by
        have isMoved := mem_cancelReadyTimeout.mp isLive
        exact absurd
          (handshake.armed other (Timers.mem_elapse.mp isMoved.1).1 isOther)
          isMoved.2
      timed := fun id isTimer => nomatch isTimer
      guarded := fun pending => nomatch rejected.symm.trans pending
      killed := fun _ _ _ => rejected }

theorem Handshake.elapse (handshake : Handshake config client)
    (milliseconds : Nat) :
    Handshake config (client.elapse milliseconds) := by
  by_cases unspawned : client.process = none
  · rw [elapse_of_unspawned handshake unspawned]
    have readyTimer := handshake.readyTimer_eq_none unspawned
    obtain ⟨noTimer, notSpawned⟩ := handshake.noProcess unspawned
    have noneLive : (client.timers.elapse milliseconds).live = [] := by
      rw [List.eq_nil_iff_forall_not_mem]
      intro timer isLive
      rw [Timers.mem_elapse, noTimer] at isLive
      cases isLive.1
    exact
      { noProcess := fun _ => ⟨noneLive, notSpawned⟩
        unstarted := handshake.unstarted
        binding := handshake.binding
        listens := handshake.listens
        answered := handshake.answered
        armed := fun timer isLive => by
          rw [moved, noneLive] at isLive
          cases isLive
        timed := fun id isTimer => nomatch readyTimer.symm.trans isTimer
        guarded := fun _ spawned => absurd unspawned spawned
        killed := handshake.killed }
  · rw [elapse_of_spawned unspawned]
    split
    · next timedOut =>
        obtain ⟨timer, isExpired, isHandshake⟩ := timedOut
        exact handshake.timedOut isExpired isHandshake
    · next noneTimedOut =>
        exact
          { noProcess := fun unspawned' => absurd unspawned' unspawned
            unstarted := handshake.unstarted
            binding := handshake.binding
            listens := handshake.listens
            answered := handshake.answered
            armed := fun timer isLive =>
              handshake.armed timer (Timers.mem_elapse.mp isLive).1
            timed := fun id isTimer => by
              obtain ⟨pending, spawned, timer, isLive, isId, isHandshake,
                due⟩ := handshake.timed id isTimer
              have later : client.timers.clock + milliseconds < timer.due := by
                by_contra overdue
                exact noneTimedOut ⟨timer,
                  Timers.mem_expired.mpr ⟨isLive, by omega⟩, isHandshake⟩
              exact ⟨pending, spawned, timer,
                Timers.mem_elapse.mpr ⟨isLive, later⟩, isId, isHandshake, due⟩
            guarded := handshake.guarded
            killed := fun kill isKill isHandshake => by
              rcases List.mem_append.mp isKill with before | now
              · exact handshake.killed kill before isHandshake
              · obtain ⟨timer, isExpired, rfl⟩ := List.mem_map.mp now
                exact absurd ⟨timer, isExpired, isHandshake⟩ noneTimedOut }

/-- The spawn arms the ready timer. -/
theorem Handshake.spawn (handshake : Handshake config client)
    (isBinding : client.binding = true) :
    Handshake config
      (armReadyTimeout config
        { client with
          binding := false
          listening := true
          process := some .alive
          spawnedAt := some client.timers.clock }) := by
  obtain ⟨pending, unspawned⟩ := handshake.binding isBinding
  obtain ⟨noTimer, -⟩ := handshake.noProcess unspawned
  exact
    { noProcess := fun unspawned => nomatch unspawned
      unstarted := fun unstarted => nomatch pending.symm.trans unstarted
      binding := fun isBinding => nomatch isBinding
      listens := fun _ =>
        ⟨fun unstarted => (nomatch pending.symm.trans unstarted), rfl⟩
      answered := handshake.answered
      armed := fun timer isLive _ => by
        have isFresh := Timers.mem_start.mp isLive
        rw [noTimer] at isFresh
        rcases isFresh with isOld | rfl
        · cases isOld
        · rfl
      timed := fun id isTimer => by
        obtain rfl := Option.some.inj isTimer
        exact ⟨pending, by simp [armReadyTimeout], _,
          Timers.mem_start.mpr (Or.inr rfl), rfl, rfl, _, rfl, rfl⟩
      guarded := fun _ _ _ _ noTimer => nomatch noTimer
      killed := handshake.killed }

/-- What `requestShutdown` has done when it comes to wait for the exit. -/
def awaitExit (config : Config) (client : Client) : Client :=
  let cancelled := client.cancelReadyTimeout
  let termed := cancelled.timers.start config.shutdownGraceMs .grace
  { cancelled with
    disposed := true
    requests := client.requests + 1
    timers := termed.start (config.shutdownGraceMs * 2) .doubleGrace
    graceTimers := [cancelled.timers.nextId, termed.nextId]
    shutdown := .waiting client.timers.clock }

theorem requestShutdown_eq (config : Config) (client : Client) :
    client.requestShutdown config =
      if client.disposed then client
      else
        match client.process with
        | none => (client.awaitExit config).finishShutdown client.timers.clock
        | some _ => client.awaitExit config :=
  rfl

theorem mem_awaitExit {timer : Timer Alarm} :
    timer ∈ (client.awaitExit config).timers.live ↔
      timer ∈ client.cancelReadyTimeout.timers.live ∨
        timer = ⟨client.cancelReadyTimeout.timers.nextId,
          client.timers.clock + max config.shutdownGraceMs 1, .grace⟩ ∨
        timer = ⟨client.cancelReadyTimeout.timers.nextId + 1,
          client.timers.clock + max (config.shutdownGraceMs * 2) 1,
          .doubleGrace⟩ := by
  rw [awaitExit, Timers.mem_start, Timers.mem_start,
    ← clock_cancelReadyTimeout client, or_assoc]
  rfl

theorem Handshake.awaitExit (handshake : Handshake config client) :
    client.process ≠ none → Handshake config (client.awaitExit config) :=
  fun spawned =>
    { noProcess := fun unspawned => absurd unspawned spawned
      unstarted := handshake.unstarted
      binding := handshake.binding
      listens := handshake.listens
      answered := handshake.answered
      armed := fun timer isLive isHandshake => by
        rcases mem_awaitExit.mp isLive with isOld | rfl | rfl
        · exact absurd isHandshake (handshake.noAlarm isOld)
        · cases isHandshake
        · cases isHandshake
      timed := fun id isTimer => nomatch isTimer
      guarded := fun _ _ notDisposed => nomatch notDisposed
      killed := handshake.killed }

theorem Handshake.requestShutdown (handshake : Handshake config client) :
    Handshake config (client.requestShutdown config) := by
  rw [requestShutdown_eq]
  split
  · exact handshake
  · split
    · next unspawned =>
        refine handshake.cancel _ ?_ rfl rfl rfl rfl rfl rfl rfl
          (by simp [Client.finishShutdown, Client.dispose]) (Or.inr rfl)
        have nothing := handshake.noProcess_cancel unspawned
        rw [nothing, List.eq_nil_iff_forall_not_mem]
        intro timer isLive
        have isCleared : timer ∈ ((client.awaitExit config).timers.clearAll
            (client.awaitExit config).graceTimers).live := isLive
        obtain ⟨isLive, notGrace⟩ := Timers.mem_clearAll.mp isCleared
        rcases mem_awaitExit.mp isLive with isOld | rfl | rfl
        · rw [nothing] at isOld
          cases isOld
        · exact notGrace List.mem_cons_self
        · exact notGrace (List.mem_cons_of_mem _ List.mem_cons_self)
    · next spawned =>
        apply handshake.awaitExit
        rw [spawned]
        exact Option.some_ne_none _

theorem Handshake.finishShutdown (handshake : Handshake config client)
    (spawned : client.process ≠ none) (since : Nat) :
    Handshake config (client.finishShutdown since) :=
  { noProcess := fun unspawned => absurd unspawned spawned
    unstarted := handshake.unstarted
    binding := handshake.binding
    listens := by simp [Client.finishShutdown, Client.dispose]
    answered := handshake.answered
    armed := fun timer isLive isHandshake => by
      obtain ⟨isLive, notTimer⟩ := mem_cancelReadyTimeout.mp isLive
      exact absurd (handshake.armed timer
        (Timers.mem_clearAll.mp isLive).1 isHandshake) notTimer
    timed := fun id isTimer => nomatch isTimer
    guarded := fun _ _ _ notTornDown => nomatch notTornDown
    killed := handshake.killed }

theorem Handshake.onPtyExit (handshake : Handshake config client)
    (alive : client.process = some .alive) :
    Handshake config client.onPtyExit := by
  have bound : client.binding = false := by
    cases isBinding : client.binding with
    | false =>
        rfl
    | true =>
        have unspawned := (handshake.binding isBinding).2
        rw [alive] at unspawned
        cases unspawned
  have spawned : client.process ≠ none := by
    rw [alive]
    exact Option.some_ne_none _
  have exited : Handshake config { client with process := some .exited } :=
    { noProcess := fun unspawned => nomatch unspawned
      unstarted := fun unstarted =>
        absurd (handshake.unstarted unstarted) spawned
      binding := fun isBinding => nomatch bound.symm.trans isBinding
      listens := handshake.listens
      answered := handshake.answered
      armed := handshake.armed
      timed := fun id isTimer => by
        obtain ⟨pending, -, timer⟩ := handshake.timed id isTimer
        exact ⟨pending, by simp, timer⟩
      guarded := fun pending _ => handshake.guarded pending spawned
      killed := handshake.killed }
  exact (exited.failReady bound .exitedBefore).dispose

theorem process_onPtyExit (client : Client) :
    client.onPtyExit.process = some .exited :=
  rfl

theorem Handshake.onExit (handshake : Handshake config client)
    (alive : client.process = some .alive) :
    Handshake config client.onExit := by
  have closed := handshake.onPtyExit alive
  rw [Client.onExit]
  split
  · apply closed.finishShutdown
    rw [process_onPtyExit]
    exact Option.some_ne_none _
  · exact closed

theorem handshake_step {event : Event} {next : Client}
    (handshake : Handshake config client)
    (stepped : client.step config event = some next) :
    Handshake config next := by
  have unbound : client.binding = true → ∀ listening, Handshake config
      { client with binding := false, listening := listening } :=
    fun isBinding _ =>
      have started : client.ready ≠ none := by
        rw [(handshake.binding isBinding).1]
        exact Option.some_ne_none _
      { handshake with
        binding := fun unbound => nomatch unbound
        listens := fun _ => ⟨started, rfl⟩ }
  cases event with
  | start =>
      obtain rfl := Option.some.inj stepped
      rw [Client.start]
      split
      · exact handshake
      · next unstarted =>
          have unspawned := handshake.unstarted unstarted
          exact
            { noProcess := handshake.noProcess
              unstarted := fun started => nomatch started
              binding := fun _ => ⟨rfl, unspawned⟩
              listens := fun isListening =>
                absurd unstarted (handshake.listens isListening).1
              answered := by
                show client.isReady = true ↔ _
                rw [handshake.answered, unstarted]
                simp
              armed := handshake.armed
              timed := fun id isTimer =>
                absurd unspawned (handshake.timed id isTimer).2.1
              guarded := fun _ spawned => absurd unspawned spawned
              killed := fun kill isKill isHandshake => nomatch
                unstarted.symm.trans (handshake.killed kill isKill isHandshake) }
  | bindFailed =>
      rw [step, Option.ite_none_right_eq_some] at stepped
      obtain rfl := Option.some.inj stepped.2
      exact (unbound stepped.1 client.listening).failReady rfl .bindFailed
  | bound spawns =>
      rw [step, Option.ite_none_right_eq_some] at stepped
      obtain ⟨isBinding, stepped⟩ := stepped
      obtain rfl := Option.some.inj stepped
      rw [spawnKernel]
      split
      · exact handshake.spawn isBinding
      · exact (unbound isBinding true).failReady rfl .spawnFailed
  | connection =>
      rw [step, Option.ite_none_right_eq_some] at stepped
      obtain ⟨isListening, stepped⟩ := stepped
      obtain rfl := Option.some.inj stepped
      exact { handshake with
        listens := fun _ => handshake.listens (Or.inl isListening) }
  | readyRecord =>
      rw [step, Option.ite_none_right_eq_some] at stepped
      obtain ⟨isConnected, stepped⟩ := stepped
      obtain rfl := Option.some.inj stepped
      split
      · next pending =>
          exact handshake.completeReady
            (handshake.listens (Or.inr isConnected)).2 pending
      · exact handshake
  | socketEnd =>
      rw [step, Option.ite_none_right_eq_some] at stepped
      obtain ⟨isConnected, stepped⟩ := stepped
      obtain rfl := Option.some.inj stepped
      split
      · exact handshake.failReady
          (handshake.listens (Or.inr isConnected)).2 .socketClosed
      · exact handshake
  | processExit =>
      rw [step, Option.ite_none_right_eq_some] at stepped
      obtain ⟨alive, stepped⟩ := stepped
      obtain rfl := Option.some.inj stepped
      exact handshake.onExit alive
  | elapse milliseconds =>
      obtain rfl := Option.some.inj stepped
      exact handshake.elapse milliseconds
  | shutdown =>
      obtain rfl := Option.some.inj stepped
      exact handshake.requestShutdown
  | dispose =>
      obtain rfl := Option.some.inj stepped
      exact handshake.dispose

end

end Client

end RtsNotebook.Notebook.KernelLifecycle
