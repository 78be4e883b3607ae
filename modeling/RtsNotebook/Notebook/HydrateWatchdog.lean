import RtsNotebook.Library.Machines
import RtsNotebook.Library.OrderedMap
import RtsNotebook.Library.Timers
import RtsNotebook.Notebook.SecretScan

/-!
# The hydrate watchdog

The `MetadataLoader` of a running extension, which has a router: every hydrate
that it ships starts a timer, and a confirmation from the kernel clears all of
them.
-/

namespace RtsNotebook.Notebook.MetadataLoader

open RtsNotebook.Js RtsNotebook.Library

/-- `HYDRATE_CONFIRMATION_TIMEOUT_MS` -/
def HYDRATE_CONFIRMATION_TIMEOUT_MS : Nat := 10000

/-- The warning that the kernel failed to hydrate a notebook. -/
structure TimeoutWarning where
  key : JsString
  message : JsString

def timeoutWarning (key : JsString) : TimeoutWarning where
  key := key
  message :=
    js "LLMNB: kernel failed to hydrate \"" ++ key ++ js "\" within " ++
      natDigits (HYDRATE_CONFIRMATION_TIMEOUT_MS / 1000) ++ js "s. " ++
      js "Agents from config.recoverable.agents[] may not have respawned. " ++
      js "Restart kernel to retry."

/-- A timer's action is the key of its notebook. -/
structure State where
  timers : Timers JsString
  pending : OrderedMap JsString Nat
  /-- The metadata observer of the loader is with the router. -/
  registered : Bool

inductive Event where
  | shipHydrate (nb : NotebookDocument)
  | notebookMetadata (payload : Json)
  | elapse (elapsed : Nat)
  | dispose

def initial : State where
  timers := .initial
  pending := .empty
  registered := true

/-- The end of `shipHydrate`, which starts the watchdog of a notebook. -/
def startWatchdog (state : State) (key : JsString) : State :=
  let timers :=
    match state.pending.get key with
    | some previous => state.timers.clear previous
    | none => state.timers
  { state with
    timers := timers.start HYDRATE_CONFIRMATION_TIMEOUT_MS key
    pending := state.pending.set key timers.nextId }

/-- A snapshot payload with trigger `hydrate_complete`. -/
def isConfirmation (payload : Json) : Bool :=
  (payload.member? (js "mode")).bind Json.asString? = some (js "snapshot") ∧
    (payload.member? (js "trigger")).bind Json.asString? =
      some (js "hydrate_complete")

/-- Clear every pending timer. -/
def clearPending (state : State) : State :=
  { state with
    timers := state.timers.clearAll state.pending.values
    pending := .empty }

/-- `handleConfirmation` -/
def handleConfirmation (state : State) (payload : Json) : State :=
  if isConfirmation payload then clearPending state else state

/-- The state after an event, and the timeout warnings that it shows. -/
def step (state : State) : Event → State × List TimeoutWarning
  | .shipHydrate nb =>
      match shipHydrate nb with
      | some (.ship _) => (startWatchdog state nb.uri, [])
      | _ => (state, [])
  | .notebookMetadata payload =>
      if state.registered then (handleConfirmation state payload, [])
      else (state, [])
  | .elapse elapsed =>
      let keys := (state.timers.expired elapsed).map Timer.action
      ({ state with
          timers := state.timers.elapse elapsed
          pending := keys.foldl OrderedMap.delete state.pending },
        keys.map timeoutWarning)
  | .dispose => ({ clearPending state with registered := false }, [])

/-! ### What a run shows -/

def watchdog : Machine State Event (List TimeoutWarning) where
  initial := initial
  step := step

/-- The warnings that the event at a position shows. -/
def warningsAt (events : List Event) (position : Nat) : List TimeoutWarning :=
  (watchdog.outputAt? events position).getD []

def Event.duration : Event → Nat
  | elapse elapsed => elapsed
  | _ => 0

/-- The time before the event at a position. -/
def clockAt (events : List Event) : Nat → Nat
  | 0 => 0
  | position + 1 =>
      clockAt events position + (events[position]?.map Event.duration).getD 0

/-- The event ships the hydrate of a notebook. -/
def Ships (event : Event) (key : JsString) : Prop :=
  ∃ nb envelope, event = .shipHydrate nb ∧ nb.uri = key ∧
    shipHydrate nb = some (.ship envelope)

def Confirms (event : Event) : Prop :=
  ∃ payload, event = .notebookMetadata payload ∧ isConfirmation payload = true

/-- A confirmation that the loader receives, since it has not been disposed. -/
def ConfirmedAt (events : List Event) (position : Nat) : Prop :=
  (∃ event ∈ events[position]?, Confirms event) ∧
    ∀ earlier < position, .dispose ∉ events[earlier]?

/-- A later shipment of the notebook, a confirmation or the disposal. -/
def SettledAt (events : List Event) (key : JsString) (position : Nat) : Prop :=
  (∃ event ∈ events[position]?, Ships event key) ∨
    ConfirmedAt events position ∨ .dispose ∈ events[position]?

/-- The shipment of a notebook is neither settled nor out of time before the
event at a later position. -/
structure Awaits (events : List Event) (key : JsString)
    (shipped position : Nat) : Prop where
  ships : ∃ event ∈ events[shipped]?, Ships event key
  before : shipped < position
  unsettled : ∀ between, shipped < between → between < position →
    ¬ SettledAt events key between
  ahead : clockAt events position <
    clockAt events shipped + HYDRATE_CONFIRMATION_TIMEOUT_MS

/-- The time of the shipment runs out in the event. -/
structure TimesOut (events : List Event) (key : JsString)
    (shipped position : Nat) : Prop extends
    Awaits events key shipped position where
  within : clockAt events shipped + HYDRATE_CONFIRMATION_TIMEOUT_MS ≤
    clockAt events (position + 1)

/-- A notebook is warned about exactly when a shipment of it times out, once
for each shipment. -/
structure WarnsExactly (events : List Event) : Prop where
  warned : ∀ position key, timeoutWarning key ∈ warningsAt events position ↔
    ∃ shipped, TimesOut events key shipped position
  distinct : ∀ position,
    ((warningsAt events position).map TimeoutWarning.key).Nodup
  once : ∀ key shipped position other, TimesOut events key shipped position →
    TimesOut events key shipped other → position = other

section

variable {state : State} {event : Event} {key : JsString} {due : Nat}

/-! ### The timers and the map of them -/

/-- The map holds the live timers, each under the key of its notebook. -/
structure Tied (state : State) : Prop where
  stored : ∀ timer ∈ state.timers.live,
    state.pending.get timer.action = some timer.id
  alive : ∀ key id, state.pending.get key = some id →
    ∃ timer ∈ state.timers.live, timer.id = id ∧ timer.action = key

/-- A notebook's timer is live. -/
def IsArmed (state : State) (key : JsString) (due : Nat) : Prop :=
  ∃ timer ∈ state.timers.live, timer.action = key ∧ timer.due = due

theorem Tied.eq_of_action (tied : Tied state) {timer other : Timer JsString}
    (isLive : timer ∈ state.timers.live)
    (otherIsLive : other ∈ state.timers.live)
    (same : timer.action = other.action) : timer = other := by
  apply Timers.eq_of_id isLive otherIsLive
  have stored := tied.stored timer isLive
  rw [same, tied.stored other otherIsLive] at stored
  exact (Option.some.inj stored).symm

theorem tied_initial : Tied initial where
  stored := fun _ member => by cases member
  alive := fun _ _ found => by cases found

theorem mem_startWatchdog (tied : Tied state) {timer : Timer JsString} :
    timer ∈ (startWatchdog state key).timers.live ↔
      timer ∈ state.timers.live ∧ timer.action ≠ key ∨
        timer = ⟨state.timers.nextId,
          state.timers.clock + HYDRATE_CONFIRMATION_TIMEOUT_MS, key⟩ := by
  rw [startWatchdog]
  cases found : state.pending.get key with
  | none =>
      have isOther : timer ∈ state.timers.live → timer.action ≠ key := by
        intro isLive isKey
        have stored := tied.stored timer isLive
        rw [isKey, found] at stored
        cases stored
      simp only [Timers.mem_start]
      rw [and_iff_left_of_imp isOther]
      rfl
  | some previous =>
      have isOther (isLive : timer ∈ state.timers.live) :
          timer.id ≠ previous ↔ timer.action ≠ key := by
        apply not_congr
        constructor
        · intro isPrevious
          obtain ⟨owner, ownerIsLive, ownerId, ownerKey⟩ :=
            tied.alive key previous found
          rw [Timers.eq_of_id isLive ownerIsLive
            (isPrevious.trans ownerId.symm), ownerKey]
        · intro isKey
          have stored := tied.stored timer isLive
          rw [isKey, found] at stored
          exact (Option.some.inj stored).symm
      simp only [Timers.mem_start, Timers.mem_clear]
      rw [and_congr_right isOther]
      rfl

theorem tied_startWatchdog (tied : Tied state) :
    Tied (startWatchdog state key) := by
  have stores (other : JsString) : (startWatchdog state key).pending.get other =
      if other = key then some state.timers.nextId
      else state.pending.get other := by
    rw [startWatchdog]
    cases state.pending.get key with
    | none => exact OrderedMap.get_set _ _ _ _
    | some previous => exact OrderedMap.get_set _ _ _ _
  constructor
  · intro timer member
    rw [stores]
    rcases (mem_startWatchdog tied).mp member with ⟨isLive, isOther⟩ | rfl
    · rw [if_neg isOther, tied.stored timer isLive]
    · rw [if_pos rfl]
  · intro other id found
    rw [stores] at found
    split at found
    · rename_i isKey
      exact ⟨_, (mem_startWatchdog tied).mpr (Or.inr rfl),
        Option.some.inj found, isKey.symm⟩
    · rename_i isOther
      obtain ⟨timer, isLive, isId, isAction⟩ := tied.alive other id found
      refine ⟨timer, (mem_startWatchdog tied).mpr (Or.inl ⟨isLive, ?_⟩), isId,
        isAction⟩
      rw [isAction]
      exact isOther

/-- A confirmation and the disposal leave no timer. -/
theorem live_clearPending (tied : Tied state) :
    (clearPending state).timers.live = [] := by
  rw [List.eq_nil_iff_forall_not_mem]
  intro timer member
  obtain ⟨isLive, notStored⟩ := Timers.mem_clearAll.mp member
  have stored := (OrderedMap.mem_entries_iff _ _ _).mpr
    (tied.stored timer isLive)
  exact notStored (List.mem_map.mpr ⟨_, stored, rfl⟩)

theorem tied_of_empty (noTimer : state.timers.live = [])
    (noEntry : state.pending = .empty) : Tied state where
  stored := fun timer member => by
    rw [noTimer] at member
    cases member
  alive := fun key id found => by
    rw [noEntry] at found
    cases found

theorem tied_elapse (tied : Tied state) (elapsed : Nat) :
    Tied (step state (.elapse elapsed)).1 := by
  constructor
  · intro timer member
    obtain ⟨isLive, isAhead⟩ := Timers.mem_elapse.mp member
    apply OrderedMap.get_foldl_delete_eq_some_iff.mpr
    refine ⟨fun isExpired => ?_, tied.stored timer isLive⟩
    obtain ⟨other, otherExpired, same⟩ := List.mem_map.mp isExpired
    obtain ⟨otherIsLive, isDue⟩ := Timers.mem_expired.mp otherExpired
    rw [tied.eq_of_action otherIsLive isLive same] at isDue
    omega
  · intro other id found
    obtain ⟨notExpired, found⟩ :=
      OrderedMap.get_foldl_delete_eq_some_iff.mp found
    obtain ⟨timer, isLive, isId, isAction⟩ := tied.alive other id found
    refine ⟨timer, Timers.mem_elapse.mpr ⟨isLive, ?_⟩, isId, isAction⟩
    by_contra notAhead
    exact notExpired (List.mem_map.mpr ⟨timer, Timers.mem_expired.mpr
      ⟨isLive, by omega⟩, isAction⟩)

/-- Every event keeps the timers and the map together. -/
theorem tied_step (tied : Tied state) (event : Event) :
    Tied (step state event).1 := by
  have cleared : Tied (clearPending state) :=
    tied_of_empty (live_clearPending tied) rfl
  cases event with
  | shipHydrate nb =>
      rw [step]
      split
      · exact tied_startWatchdog tied
      · exact tied
  | notebookMetadata payload =>
      rw [step]
      split
      · rw [handleConfirmation]
        split
        · exact cleared
        · exact tied
      · exact tied
  | elapse elapsed => exact tied_elapse tied elapsed
  | dispose => exact ⟨cleared.stored, cleared.alive⟩

/-! ### One step -/

theorem ships_shipHydrate_iff {nb : NotebookDocument} :
    Ships (.shipHydrate nb) key ↔
      nb.uri = key ∧ ∃ envelope, shipHydrate nb = some (.ship envelope) := by
  simp only [Ships, Event.shipHydrate.injEq]
  constructor
  · rintro ⟨_, envelope, rfl, isKey, shipped⟩
    exact ⟨isKey, envelope, shipped⟩
  · rintro ⟨isKey, envelope, shipped⟩
    exact ⟨nb, envelope, rfl, isKey, shipped⟩

theorem confirms_notebookMetadata_iff {payload : Json} :
    Confirms (.notebookMetadata payload) ↔ isConfirmation payload = true := by
  simp [Confirms]

theorem duration_of_ships (ships : Ships event key) : event.duration = 0 := by
  obtain ⟨nb, envelope, rfl, _⟩ := ships
  rfl

theorem clock_step (state : State) (event : Event) :
    (step state event).1.timers.clock =
      state.timers.clock + event.duration := by
  cases event with
  | shipHydrate nb =>
      rw [step]
      split
      · rw [startWatchdog]
        cases state.pending.get nb.uri with
        | none => rfl
        | some previous => rfl
      · rfl
  | notebookMetadata payload =>
      rw [step]
      split
      · rw [handleConfirmation]
        split
        · exact Timers.clock_clearAll _ _
        · rfl
      · rfl
  | elapse elapsed => rfl
  | dispose => exact Timers.clock_clearAll _ _

theorem registered_step (state : State) (event : Event) :
    (step state event).1.registered = true ↔
      state.registered = true ∧ event ≠ .dispose := by
  cases event with
  | shipHydrate nb =>
      rw [step]
      split
      · simp [startWatchdog]
      · simp
  | notebookMetadata payload =>
      rw [step]
      split
      · rw [handleConfirmation]
        split
        · simp [clearPending]
        · simp
      · simp
  | elapse elapsed => simp [step]
  | dispose => simp [step]

/-- The event settles a shipment that came before it. -/
def Settles (state : State) (event : Event) (key : JsString) : Prop :=
  Ships event key ∨ Confirms event ∧ state.registered = true ∨
    event = .dispose

theorem IsArmed.clock_lt (armed : IsArmed state key due) :
    state.timers.clock < due := by
  obtain ⟨timer, isLive, _, rfl⟩ := armed
  exact state.timers.ahead timer isLive

theorem not_isArmed_clearPending (tied : Tied state) :
    ¬ IsArmed (clearPending state) key due := by
  rintro ⟨timer, isLive, _⟩
  rw [live_clearPending tied] at isLive
  cases isLive

/-- A shipment replaces the timer of its notebook. -/
theorem isArmed_startWatchdog (tied : Tied state) {shipped : JsString} :
    IsArmed (startWatchdog state shipped) key due ↔
      shipped = key ∧
          due = state.timers.clock + HYDRATE_CONFIRMATION_TIMEOUT_MS ∨
        IsArmed state key due ∧ shipped ≠ key := by
  constructor
  · rintro ⟨timer, member, rfl, rfl⟩
    rcases (mem_startWatchdog tied).mp member with ⟨isLive, isOther⟩ | rfl
    · exact Or.inr ⟨⟨timer, isLive, rfl, rfl⟩, Ne.symm isOther⟩
    · exact Or.inl ⟨rfl, rfl⟩
  · rintro (⟨rfl, rfl⟩ | ⟨⟨timer, isLive, rfl, rfl⟩, isOther⟩)
    · exact ⟨_, (mem_startWatchdog tied).mpr (Or.inr rfl), rfl, rfl⟩
    · exact ⟨timer, (mem_startWatchdog tied).mpr
        (Or.inl ⟨isLive, Ne.symm isOther⟩), rfl, rfl⟩

/-- A confirmation clears every timer, and another payload none. -/
theorem isArmed_notebookMetadata (tied : Tied state)
    {payload : Json} :
    IsArmed (step state (.notebookMetadata payload)).1 key due ↔
      IsArmed state key due ∧
        ¬ (isConfirmation payload = true ∧ state.registered = true) := by
  rw [step]
  by_cases settles : isConfirmation payload = true ∧ state.registered = true
  · rw [if_pos settles.2, handleConfirmation, if_pos settles.1]
    simp [not_isArmed_clearPending tied, settles]
  · have unchanged : (if state.registered then
          (handleConfirmation state payload, []) else (state, [])) =
        ((state, []) : State × List TimeoutWarning) := by
      split
      · rename_i registered
        rw [handleConfirmation, if_neg fun confirms =>
          settles ⟨confirms, registered⟩]
      · rfl
    rw [unchanged]
    exact (and_iff_left settles).symm

theorem isArmed_elapse {elapsed : Nat} :
    IsArmed (step state (.elapse elapsed)).1 key due ↔
      IsArmed state key due ∧ state.timers.clock + elapsed < due := by
  constructor
  · rintro ⟨timer, member, rfl, rfl⟩
    obtain ⟨isLive, isLater⟩ := Timers.mem_elapse.mp member
    exact ⟨⟨timer, isLive, rfl, rfl⟩, isLater⟩
  · rintro ⟨⟨timer, isLive, rfl, rfl⟩, isLater⟩
    exact ⟨timer, Timers.mem_elapse.mpr ⟨isLive, isLater⟩, rfl, rfl⟩

/-- A timer that is live after an event is the one that the event started, or
was live before it and neither settled nor due. -/
theorem isArmed_step (tied : Tied state) :
    IsArmed (step state event).1 key due ↔
      Ships event key ∧
          due = state.timers.clock + HYDRATE_CONFIRMATION_TIMEOUT_MS ∨
        IsArmed state key due ∧ ¬ Settles state event key ∧
          state.timers.clock + event.duration < due := by
  cases event with
  | shipHydrate nb =>
      have notConfirms : ¬ Confirms (.shipHydrate nb) := by simp [Confirms]
      simp only [Settles, notConfirms, ships_shipHydrate_iff, false_and,
        reduceCtorEq, or_false, Event.duration, Nat.add_zero]
      rw [step]
      split
      · rename_i envelope shipped
        simp only [shipped, Option.some.injEq, HydrateDecision.ship.injEq,
          exists_eq', and_true]
        rw [isArmed_startWatchdog tied]
        constructor
        · rintro (started | ⟨armed, isOther⟩)
          · exact Or.inl started
          · exact Or.inr ⟨armed, isOther, armed.clock_lt⟩
        · rintro (started | ⟨armed, isOther, _⟩)
          · exact Or.inl started
          · exact Or.inr ⟨armed, isOther⟩
      · rename_i notShipped
        have never : ¬ ∃ envelope, shipHydrate nb =
            some (.ship envelope) := fun ⟨envelope, shipped⟩ =>
          notShipped envelope shipped
        simp only [never, and_false, false_and, false_or, not_false_eq_true,
          true_and]
        exact (and_iff_left_of_imp IsArmed.clock_lt).symm
  | notebookMetadata payload =>
      have notShips : ¬ Ships (.notebookMetadata payload) key := by
        simp [Ships]
      simp only [Settles, notShips, confirms_notebookMetadata_iff, false_and,
        reduceCtorEq, or_false, false_or, Event.duration, Nat.add_zero]
      rw [isArmed_notebookMetadata tied]
      constructor
      · rintro ⟨armed, unsettled⟩
        exact ⟨armed, unsettled, armed.clock_lt⟩
      · rintro ⟨armed, unsettled, _⟩
        exact ⟨armed, unsettled⟩
  | elapse elapsed =>
      have notShips : ¬ Ships (.elapse elapsed) key := by simp [Ships]
      have notConfirms : ¬ Confirms (.elapse elapsed) := by simp [Confirms]
      simp only [Settles, notShips, notConfirms, false_and, reduceCtorEq,
        or_false, false_or, not_false_eq_true, true_and, Event.duration]
      exact isArmed_elapse
  | dispose =>
      have notShips : ¬ Ships .dispose key := by simp [Ships]
      simp only [Settles, notShips, false_and, or_true, not_true_eq_false,
        and_false, or_false, iff_false]
      exact not_isArmed_clearPending tied

/-- The warnings of an event are for the timers that are due in it. -/
theorem warns_step : timeoutWarning key ∈ (step state event).2 ↔
    ∃ due, IsArmed state key due ∧
      due ≤ state.timers.clock + event.duration := by
  have notYet (noTime : event.duration = 0) : ¬ ∃ due,
      IsArmed state key due ∧ due ≤ state.timers.clock + event.duration := by
    rintro ⟨due, ⟨timer, isLive, _, rfl⟩, isDue⟩
    have isAhead := state.timers.ahead timer isLive
    omega
  cases event with
  | shipHydrate nb =>
      rw [step]
      split
      · exact iff_of_false List.not_mem_nil (notYet rfl)
      · exact iff_of_false List.not_mem_nil (notYet rfl)
  | notebookMetadata payload =>
      rw [step]
      split
      · exact iff_of_false List.not_mem_nil (notYet rfl)
      · exact iff_of_false List.not_mem_nil (notYet rfl)
  | elapse elapsed =>
      rw [step, List.mem_map]
      constructor
      · rintro ⟨action, isExpired, same⟩
        obtain ⟨timer, member, rfl⟩ := List.mem_map.mp isExpired
        obtain ⟨isLive, isDue⟩ := Timers.mem_expired.mp member
        exact ⟨timer.due, ⟨timer, isLive,
          congrArg TimeoutWarning.key same, rfl⟩, isDue⟩
      · rintro ⟨due, ⟨timer, isLive, rfl, rfl⟩, isDue⟩
        exact ⟨timer.action, List.mem_map.mpr
          ⟨timer, Timers.mem_expired.mpr ⟨isLive, isDue⟩, rfl⟩, rfl⟩
  | dispose => exact iff_of_false List.not_mem_nil (notYet rfl)

theorem nodup_warnings (tied : Tied state) (event : Event) :
    ((step state event).2.map TimeoutWarning.key).Nodup := by
  cases event with
  | shipHydrate nb =>
      rw [step]
      split
      · exact List.nodup_nil
      · exact List.nodup_nil
  | notebookMetadata payload =>
      rw [step]
      split
      · exact List.nodup_nil
      · exact List.nodup_nil
  | elapse elapsed =>
      have keys : ((step state (.elapse elapsed)).2.map TimeoutWarning.key) =
          (state.timers.expired elapsed).map Timer.action := by
        rw [step, List.map_map, List.map_map]
        rfl
      rw [keys]
      apply List.Nodup.map_on
      · intro timer member other isOther same
        exact tied.eq_of_action (Timers.mem_expired.mp member).1
          (Timers.mem_expired.mp isOther).1 same
      · exact (state.timers.nodup_expired elapsed).of_map _
  | dispose => exact List.nodup_nil

end

/-! ### Runs -/

section

variable {events : List Event} {event : Event} {key : JsString}
  {shipped position due : Nat}

theorem clockAt_succ (isEvent : events[position]? = some event) :
    clockAt events (position + 1) =
      clockAt events position + event.duration := by
  rw [clockAt, isEvent]
  rfl

theorem clockAt_succ_of_none (isEnd : events[position]? = none) :
    clockAt events (position + 1) = clockAt events position := by
  rw [clockAt, isEnd]
  rfl

theorem clockAt_le {first second : Nat} (inOrder : first ≤ second) :
    clockAt events first ≤ clockAt events second := by
  induction second, inOrder using Nat.le_induction with
  | base => exact Nat.le_refl _
  | succ second _ inductionHypothesis =>
      rw [clockAt]
      omega

theorem tied_stateAt (events : List Event) (position : Nat) :
    Tied (watchdog.stateAt events position) :=
  watchdog.stateAt_invariant events Tied tied_initial
    (fun _ event tied => tied_step tied event) position

theorem clock_stateAt (events : List Event) (position : Nat) :
    (watchdog.stateAt events position).timers.clock =
      clockAt events position := by
  apply watchdog.stateAt_induction events fun position state =>
    state.timers.clock = clockAt events position
  · rfl
  · intro position state isEnd holds
    rw [clockAt_succ_of_none isEnd, holds]
  · intro position event isEvent holds
    rw [clockAt_succ isEvent, ← holds]
    exact clock_step _ event

/-- The loader observes the router up to its disposal. -/
theorem registered_stateAt (events : List Event) (position : Nat) :
    (watchdog.stateAt events position).registered = true ↔
      ∀ earlier < position, .dispose ∉ events[earlier]? := by
  apply watchdog.stateAt_induction events fun position state =>
    state.registered = true ↔ ∀ earlier < position, .dispose ∉ events[earlier]?
  · simp [watchdog, initial]
  · intro position state isEnd holds
    simp only [Nat.forall_lt_succ_right, holds, isEnd, Option.mem_def,
      reduceCtorEq, not_false_eq_true, and_true]
  · intro position event isEvent holds
    refine (registered_step _ event).trans ?_
    rw [holds, Nat.forall_lt_succ_right, isEvent, Option.mem_some_iff]

theorem settledAt_iff (isEvent : events[position]? = some event) :
    SettledAt events key position ↔
      Settles (watchdog.stateAt events position) event key := by
  simp only [SettledAt, ConfirmedAt, Settles, isEvent, registered_stateAt,
    Option.mem_def, Option.some.injEq, exists_eq_left']

theorem not_settledAt (isEnd : events[position]? = none) :
    ¬ SettledAt events key position := by
  simp [SettledAt, ConfirmedAt, isEnd]

/-- A shipment that is still awaited after an event is the event itself, or was
awaited before it. -/
theorem awaits_succ : Awaits events key shipped (position + 1) ↔
    shipped = position ∧ (∃ event ∈ events[position]?, Ships event key) ∨
      Awaits events key shipped position ∧ ¬ SettledAt events key position ∧
        clockAt events (position + 1) <
          clockAt events shipped + HYDRATE_CONFIRMATION_TIMEOUT_MS := by
  have later : clockAt events position ≤ clockAt events (position + 1) :=
    clockAt_le (Nat.le_succ _)
  constructor
  · rintro ⟨ships, before, unsettled, ahead⟩
    by_cases isLast : shipped = position
    · exact Or.inl ⟨isLast, isLast ▸ ships⟩
    · refine Or.inr ⟨⟨ships, by omega, ?_, by omega⟩,
        unsettled position (by omega) (by omega), ahead⟩
      intro between isAfter isBefore
      exact unsettled between isAfter (by omega)
  · rintro (⟨rfl, event, isEvent, ships⟩ |
      ⟨⟨ships, before, unsettled, _⟩, notSettled, ahead⟩)
    · refine ⟨⟨event, isEvent, ships⟩, Nat.lt_succ_self _, ?_, ?_⟩
      · intro between isAfter isBefore
        omega
      · rw [clockAt_succ isEvent, duration_of_ships ships]
        exact Nat.lt_add_of_pos_right (by decide)
    · refine ⟨ships, by omega, ?_, ahead⟩
      intro between isAfter isBefore
      by_cases isLast : between = position
      · rw [isLast]
        exact notSettled
      · exact unsettled between isAfter (by omega)

/-- The live timers of a notebook are for the shipments that are awaited. -/
theorem isArmed_stateAt : IsArmed (watchdog.stateAt events position) key due ↔
    ∃ shipped, Awaits events key shipped position ∧
      due = clockAt events shipped + HYDRATE_CONFIRMATION_TIMEOUT_MS := by
  induction position with
  | zero =>
      constructor
      · rintro ⟨timer, isLive, _⟩
        cases isLive
      · rintro ⟨shipped, awaits, _⟩
        exact absurd awaits.before (Nat.not_lt_zero _)
  | succ position inductionHypothesis =>
      simp only [awaits_succ]
      cases isEvent : events[position]? with
      | none =>
          rw [Machine.stateAt_succ_of_none isEvent, inductionHypothesis,
            clockAt_succ_of_none isEvent]
          simp only [not_settledAt isEvent, not_false_eq_true, true_and,
            Option.mem_def, reduceCtorEq, false_and, exists_false, and_false,
            false_or]
          constructor
          · rintro ⟨shipped, awaits, rfl⟩
            exact ⟨shipped, ⟨awaits, awaits.ahead⟩, rfl⟩
          · rintro ⟨shipped, ⟨awaits, _⟩, rfl⟩
            exact ⟨shipped, awaits, rfl⟩
      | some event =>
          have stepped := @isArmed_step _ event key due
            (tied_stateAt events position)
          rw [Machine.stateAt_succ isEvent, settledAt_iff isEvent,
            clockAt_succ isEvent]
          rw [inductionHypothesis, clock_stateAt] at stepped
          refine stepped.trans ?_
          simp only [Option.mem_def, Option.some.injEq, exists_eq_left']
          constructor
          · rintro (⟨ships, rfl⟩ | ⟨⟨shipped, awaits, rfl⟩, notSettled, ahead⟩)
            · exact ⟨position, Or.inl ⟨rfl, ships⟩, rfl⟩
            · exact ⟨shipped, Or.inr ⟨awaits, notSettled, ahead⟩, rfl⟩
          · rintro ⟨shipped, ⟨rfl, ships⟩ | ⟨awaits, notSettled, ahead⟩, rfl⟩
            · exact Or.inl ⟨ships, rfl⟩
            · exact Or.inr ⟨⟨shipped, awaits, rfl⟩, notSettled, ahead⟩

/-- In every run, a notebook is warned about exactly when its latest shipment
has not been confirmed in time. -/
theorem warnsExactly (events : List Event) : WarnsExactly events where
  warned := by
    intro position key
    rw [warningsAt]
    cases isEvent : events[position]? with
    | none =>
        rw [Machine.outputAt?_eq_none isEvent]
        refine iff_of_false List.not_mem_nil ?_
        rintro ⟨shipped, timesOut⟩
        have within := timesOut.within
        rw [clockAt_succ_of_none isEvent] at within
        have ahead := timesOut.ahead
        omega
    | some event =>
        have warns := @warns_step (watchdog.stateAt events position) event key
        rw [clock_stateAt, ← clockAt_succ isEvent] at warns
        rw [Machine.outputAt?_eq isEvent]
        refine warns.trans ?_
        simp only [isArmed_stateAt]
        constructor
        · rintro ⟨due, ⟨shipped, awaits, rfl⟩, within⟩
          exact ⟨shipped, awaits, within⟩
        · rintro ⟨shipped, awaits, within⟩
          exact ⟨_, ⟨shipped, awaits, rfl⟩, within⟩
  distinct := by
    intro position
    rw [warningsAt]
    cases isEvent : events[position]? with
    | none =>
        rw [Machine.outputAt?_eq_none isEvent]
        exact List.nodup_nil
    | some event =>
        rw [Machine.outputAt?_eq isEvent]
        exact nodup_warnings (tied_stateAt events position) event
  once := by
    intro key shipped position other timesOut otherTimesOut
    have ahead := timesOut.ahead
    have otherAhead := otherTimesOut.ahead
    have within := timesOut.within
    have otherWithin := otherTimesOut.within
    rcases Nat.lt_trichotomy position other with isBefore | same | isAfter
    · have inOrder := @clockAt_le events (position + 1) other isBefore
      omega
    · exact same
    · have inOrder := @clockAt_le events (other + 1) position isAfter
      omega

end

end RtsNotebook.Notebook.MetadataLoader
