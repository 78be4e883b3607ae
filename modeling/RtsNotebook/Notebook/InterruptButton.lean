import RtsNotebook.Library.Runs
import RtsNotebook.Notebook.CellBadge

/-!
# The optimistic override of the interrupt button

A click on the interrupt button files a transient status for the agent in
`LocalOverrideStore`, where `computeInterruptButton` looks before it asks the
agent registry.  An observer that `activate` registers right after the registry
clears the override of every agent for which a snapshot carries a status.

A payload that is routed reaches the registry and then this observer.  So the
override of an agent is decided by the last event that says something about
it: a click on the agent, or a snapshot with a status for it.
-/

namespace RtsNotebook.Notebook.InterruptButton

open RtsNotebook.Library RtsNotebook.Js RtsNotebook.Messaging
open RtsNotebook.Notebook.MetadataApplier RtsNotebook.Notebook.CellBadge

/-- `TRANSIENT_INTERRUPTING_STATUS` -/
def TRANSIENT_INTERRUPTING_STATUS : JsString := js "interrupting"

/-- The overrides, and how often the store has announced a change. -/
structure LocalOverrideStore where
  byId : OrderedMap JsString JsString
  changes : Nat

namespace LocalOverrideStore

def initial : LocalOverrideStore where
  byId := .empty
  changes := 0

def get (overrides : LocalOverrideStore) (agentId : JsString) :
    Option JsString :=
  overrides.byId.get agentId

def set (overrides : LocalOverrideStore) (agentId status : JsString) :
    LocalOverrideStore :=
  if overrides.byId.get agentId = some status then
    overrides
  else
    { byId := overrides.byId.set agentId status
      changes := overrides.changes + 1 }

def clear (overrides : LocalOverrideStore) (agentId : JsString) :
    LocalOverrideStore :=
  if overrides.byId.has agentId then
    { byId := overrides.byId.delete agentId
      changes := overrides.changes + 1 }
  else
    overrides

theorem get_set (overrides : LocalOverrideStore)
    (agentId status other : JsString) :
    (overrides.set agentId status).get other =
      if other = agentId then some status else overrides.get other := by
  unfold set
  split
  case isTrue present =>
    split
    case isTrue same =>
      rw [same, get, present]
    case isFalse different =>
      rfl
  case isFalse absent =>
    exact OrderedMap.get_set overrides.byId agentId other status

theorem get_clear (overrides : LocalOverrideStore)
    (agentId other : JsString) :
    (overrides.clear agentId).get other =
      if other = agentId then none else overrides.get other := by
  unfold clear
  split
  case isTrue present =>
    exact OrderedMap.get_delete overrides.byId agentId other
  case isFalse absent =>
    split
    case isTrue same =>
      rw [same]
      exact (OrderedMap.has_eq_false _ _).mp (Bool.eq_false_iff.mpr absent)
    case isFalse different =>
      rfl

end LocalOverrideStore

/-! ### The observer that clears overrides -/

/-- The status that the entry of an agent carries. -/
def statusOf? (raw : Json) : Option JsString :=
  let src := (objectMember? raw (js "session")).getD raw
  (src.member? (js "runtime_status")).bind Json.asString?

/-- One round of the observer's loop over the entries of the agents map. -/
def clearReported (overrides : LocalOverrideStore)
    (entry : JsString × Json) : LocalOverrideStore :=
  let (id, raw) := entry
  if !isObject raw then
    overrides
  else if (statusOf? raw).isSome then
    overrides.clear id
  else
    overrides

/-- The `onNotebookMetadata` of the observer. -/
def LocalOverrideStore.onNotebookMetadata {Version : Type*}
    (overrides : LocalOverrideStore)
    (payload : NotebookMetadataPayload Version) : LocalOverrideStore :=
  match (snapshotOf? payload).bind agentsOf? with
  | none => overrides
  | some agents =>
      (objectEntries agents).entries.foldl clearReported overrides

/-- The string `runtime_status` that a payload carries for an agent. -/
def reportedStatus? {Version : Type*}
    (payload : NotebookMetadataPayload Version) (agentId : JsString) :
    Option JsString :=
  (((snapshotOf? payload).bind agentsOf?).bind fun agents =>
    objectAt? agents agentId).bind statusOf?

theorem clearReported_own (overrides : LocalOverrideStore) (id : JsString)
    (raw : Json) :
    (clearReported overrides (id, raw)).get id =
      if isObject raw && (statusOf? raw).isSome then none
      else overrides.get id := by
  unfold clearReported
  simp only
  cases isObject raw with
  | false =>
      rfl
  | true =>
      cases (statusOf? raw).isSome with
      | false =>
          rfl
      | true =>
          exact (overrides.get_clear id id).trans (if_pos rfl)

theorem clearReported_frame (overrides : LocalOverrideStore) (id : JsString)
    (raw : Json) (other : JsString) (different : other ≠ id) :
    (clearReported overrides (id, raw)).get other = overrides.get other := by
  unfold clearReported
  simp only
  split
  · rfl
  · split
    · exact (overrides.get_clear id other).trans (if_neg different)
    · rfl

/-- The observer clears exactly the overrides of the agents that the payload
carries a status for. -/
theorem LocalOverrideStore.get_onNotebookMetadata {Version : Type*}
    (overrides : LocalOverrideStore)
    (payload : NotebookMetadataPayload Version) (agentId : JsString) :
    (overrides.onNotebookMetadata payload).get agentId =
      if (reportedStatus? payload agentId).isSome then none
      else overrides.get agentId := by
  unfold onNotebookMetadata reportedStatus?
  cases (snapshotOf? payload).bind agentsOf? with
  | none =>
      rfl
  | some agents =>
      have looped :=
        (objectEntries agents).read_foldl LocalOverrideStore.get
          (fun _ raw before =>
            if isObject raw && (statusOf? raw).isSome then none else before)
          clearReported_own clearReported_frame overrides agentId
      rw [Option.bind_some, objectAt?, looped]
      cases (objectEntries agents).get agentId with
      | none =>
          rfl
      | some raw =>
          rw [Option.elim_some, Option.filter_some]
          cases isObject raw <;> rfl

/-! ### Clicks and payloads -/

/-- `buildInterruptEnvelope` -/
def buildInterruptEnvelope (agentId cellId : JsString) : Json :=
  .object
    [(js "type", .string (js "operator.action")),
      (js "payload", .object
        [(js "action_type", .string (js "agent_interrupt")),
          (js "agent_id", .string agentId),
          (js "parameters", .object
            [(js "agent_id", .string agentId),
              (js "cell_id", .string cellId)]),
          (js "originating_cell_id", .string cellId)])]

/-- What the registry and the overrides hold, and the envelopes that have been
enqueued. -/
structure Session where
  registry : AgentRegistryImpl
  overrides : LocalOverrideStore
  outbound : List Json

/-- A click runs the command with its arguments, `none` for no arguments. -/
inductive Event (Version : Type*) where
  | click (args : Option Json)
  | metadata (payload : NotebookMetadataPayload Version)

/-- The agent that the arguments of the command name, past its guard. -/
def clickedAgent? (args : Option Json) : Option JsString :=
  (((args.filter Json.truthy).bind fun args =>
    args.member? (js "agent_id")).bind Json.asString?).filter
      fun agentId => agentId ≠ []

/-- The string `cell_id` of the arguments, else the empty string. -/
def clickedCell (args : Option Json) : JsString :=
  ((args.bind fun args => args.member? (js "cell_id")).bind
    Json.asString?).getD []

namespace Session

def initial : Session where
  registry := .initial
  overrides := .initial
  outbound := []

/-- `postAgentInterrupt` -/
def postAgentInterrupt (session : Session) (agentId cellId : JsString) :
    Session :=
  { session with
    overrides := session.overrides.set agentId TRANSIENT_INTERRUPTING_STATUS
    outbound :=
      session.outbound ++ [buildInterruptEnvelope agentId cellId] }

variable {Version : Type*}

def step (session : Session) : Event Version → Session
  | .click args =>
      match clickedAgent? args with
      | none => session
      | some agentId => session.postAgentInterrupt agentId (clickedCell args)
  | .metadata payload =>
      { session with
        registry := session.registry.onNotebookMetadata payload
        overrides := session.overrides.onNotebookMetadata payload }

/-- The session after some events. -/
def run (events : List (Event Version)) : Session :=
  events.foldl step .initial

/-- What the status bar shows for a cell. -/
def button (session : Session) (cell : InterruptCell) :
    Option InterruptButton :=
  computeInterruptButton cell session.registry session.overrides.get

/-- The registry holds an interruptible status for the agent. -/
def Interruptible (session : Session) (agentId : JsString) : Prop :=
  ∃ status ∈ INTERRUPTIBLE_STATUSES,
    (session.registry.get agentId).bind AgentSessionState.runtimeStatus =
      some status

end Session

namespace Event

variable {Version : Type*}

/-- The event is a click on the agent. -/
def Clicks (agentId : JsString) : Event Version → Prop
  | .click args => clickedAgent? args = some agentId
  | .metadata _ => False

/-- The event is a snapshot with a status for the agent. -/
def Reports (agentId : JsString) : Event Version → Prop
  | .click _ => False
  | .metadata payload => (reportedStatus? payload agentId).isSome = true

/-- The override that an event leaves for an agent, where it says anything
about it. -/
def override? (agentId : JsString) : Event Version → Option (Option JsString)
  | .click args =>
      if clickedAgent? args = some agentId then
        some (some TRANSIENT_INTERRUPTING_STATUS)
      else
        none
  | .metadata payload =>
      if (reportedStatus? payload agentId).isSome then some none else none

theorem override?_of_clicks {agentId : JsString} {event : Event Version}
    (clicks : event.Clicks agentId) :
    event.override? agentId = some (some TRANSIENT_INTERRUPTING_STATUS) := by
  cases event with
  | click args =>
      exact if_pos clicks
  | metadata payload =>
      exact clicks.elim

theorem override?_of_reports {agentId : JsString} {event : Event Version}
    (reports : event.Reports agentId) :
    event.override? agentId = some none := by
  cases event with
  | click args =>
      exact reports.elim
  | metadata payload =>
      exact if_pos reports

/-- A snapshot without a status for the agent leaves no override but that of
a click. -/
theorem override?_of_not_reports {agentId : JsString} {event : Event Version}
    (silent : ¬ event.Reports agentId) {left : Option JsString}
    (leaves : event.override? agentId = some left) :
    left = some TRANSIENT_INTERRUPTING_STATUS := by
  cases event with
  | click args =>
      rw [override?] at leaves
      split at leaves
      · exact (Option.some.inj leaves).symm
      · cases leaves
  | metadata payload =>
      rw [override?, if_neg (by exact silent)] at leaves
      cases leaves

theorem override?_of_not_clicks {agentId : JsString} {event : Event Version}
    (unclicked : ¬ event.Clicks agentId) {left : Option JsString}
    (leaves : event.override? agentId = some left) : left = none := by
  cases event with
  | click args =>
      rw [override?, if_neg (by exact unclicked)] at leaves
      cases leaves
  | metadata payload =>
      rw [override?] at leaves
      split at leaves
      · exact (Option.some.inj leaves).symm
      · cases leaves

theorem agentId_ne_nil_of_clicks {agentId : JsString} {event : Event Version}
    (clicks : event.Clicks agentId) : agentId ≠ [] := by
  cases event with
  | click args =>
      have filtered := (Option.filter_eq_some_iff.mp clicks).2
      simpa using filtered
  | metadata payload =>
      exact clicks.elim

end Event

/-! ### The override after a run -/

section

variable {Version : Type*}

theorem get_overrides_step (session : Session) (event : Event Version)
    (agentId : JsString) :
    (session.step event).overrides.get agentId =
      (event.override? agentId).getD (session.overrides.get agentId) := by
  cases event with
  | click args =>
      rw [Session.step, Event.override?]
      cases clicked : clickedAgent? args with
      | none =>
          rfl
      | some other =>
          refine (session.overrides.get_set other _ agentId).trans ?_
          simp only [Option.some.injEq]
          by_cases same : agentId = other
          · rw [if_pos same, if_pos same.symm, Option.getD_some]
          · rw [if_neg same, if_neg (Ne.symm same), Option.getD_none]
  | metadata payload =>
      refine (session.overrides.get_onNotebookMetadata payload agentId).trans ?_
      rw [Event.override?]
      split <;> rfl

/-- The last event that says something about an agent decides its override. -/
theorem get_overrides_run (events : List (Event Version))
    (agentId : JsString) :
    (Session.run events).overrides.get agentId =
      (events.filterMap (Event.override? agentId)).getLast?.getD none := by
  have decided :=
    view_foldl_last
      (fun session : Session => session.overrides.get agentId) id
      (fun session (event : Event Version)
          (ignored : event.override? agentId = none) => by
        rw [get_overrides_step, ignored, Option.getD_none])
      (fun session event left leaves => by
        rw [get_overrides_step, leaves, Option.getD_some, id])
      .initial events
  rw [Option.map_id] at decided
  exact decided

/-- An event whose override no later event changes decides the override. -/
theorem get_overrides_of_last (earlier : List (Event Version))
    {later : List (Event Version)}
    {event : Event Version} {agentId : JsString} {left : Option JsString}
    (leaves : event.override? agentId = some left)
    (kept : ∀ other ∈ later, ∀ changed,
      other.override? agentId = some changed → changed = left) :
    (Session.run (earlier ++ event :: later)).overrides.get agentId =
      left := by
  rw [get_overrides_run, List.filterMap_append,
    List.filterMap_cons_some leaves, List.getLast?_append_cons,
    List.getLast?_cons, Option.getD_some]
  cases last : (later.filterMap (Event.override? agentId)).getLast? with
  | none =>
      rfl
  | some changed =>
      obtain ⟨other, isLater, changes⟩ :=
        List.mem_filterMap.mp (List.mem_of_getLast? last)
      exact kept other isLater changed changes

end

/-! ### The button after a run -/

/-- For a cell that is bound to an agent the override of the agent comes
before the status in the registry. -/
theorem button_isSome_iff {cell : InterruptCell} {agentId : JsString}
    (applicable : cell.applicable = true)
    (bound : cell.agentId = some agentId) (named : agentId ≠ [])
    (session : Session) :
    (session.button cell).isSome = true ↔
      ∃ status ∈ INTERRUPTIBLE_STATUSES,
        (session.overrides.get agentId).or
            ((session.registry.get agentId).bind
              AgentSessionState.runtimeStatus) = some status := by
  rw [Session.button, computeInterruptButton, applicable, bound]
  simp only [Bool.not_true, Bool.false_eq_true, if_false, if_neg named]
  cases (session.overrides.get agentId).or
      ((session.registry.get agentId).bind
        AgentSessionState.runtimeStatus) with
  | none =>
      simp
  | some status =>
      by_cases member : status ∈ INTERRUPTIBLE_STATUSES
      · simp [member]
      · simp [member]

/-- What the button of a cell that is bound to an agent does over a run: it is
hidden from a click on the agent until a snapshot carries a status for it,
follows the registry from there until the next click, and no other snapshot
brings it back. -/
structure FollowsStatus {Version : Type*} (events : List (Event Version))
    (agentId : JsString) (cell : InterruptCell) : Prop where
  hidden : ∀ earlier click later,
    events = earlier ++ click :: later → click.Clicks agentId →
      (∀ event ∈ later, ¬ event.Reports agentId) →
        (Session.run events).button cell = none
  shown : ∀ earlier click between report later,
    events = earlier ++ click :: (between ++ report :: later) →
      click.Clicks agentId → report.Reports agentId →
        (∀ event ∈ later, ¬ event.Clicks agentId) →
          (((Session.run events).button cell).isSome = true ↔
            (Session.run events).Interruptible agentId)
  silent : ∀ payload : NotebookMetadataPayload Version,
    reportedStatus? payload agentId = none →
      (Session.run events).button cell = none →
        (Session.run (events ++ [.metadata payload])).button cell = none

section

variable {Version : Type*} {cell : InterruptCell} {agentId : JsString}

theorem button_hidden (applicable : cell.applicable = true)
    (bound : cell.agentId = some agentId)
    {earlier later : List (Event Version)} {click : Event Version}
    (clicks : click.Clicks agentId)
    (noReport : ∀ event ∈ later, ¬ event.Reports agentId) :
    (Session.run (earlier ++ click :: later)).button cell = none := by
  have override :=
    get_overrides_of_last earlier
      (Event.override?_of_clicks clicks)
      fun event isLater left =>
        Event.override?_of_not_reports (noReport event isLater)
  by_contra visible
  obtain ⟨status, interruptible, effective⟩ :=
    (button_isSome_iff applicable bound
      (Event.agentId_ne_nil_of_clicks clicks) _).mp
      (Option.isSome_iff_ne_none.mpr visible)
  rw [override, Option.some_or] at effective
  cases effective
  exact absurd interruptible (by decide)

theorem button_shown_iff (applicable : cell.applicable = true)
    (bound : cell.agentId = some agentId) (named : agentId ≠ [])
    {earlier later : List (Event Version)} {report : Event Version}
    (reports : report.Reports agentId)
    (noClick : ∀ event ∈ later, ¬ event.Clicks agentId) :
    ((Session.run (earlier ++ report :: later)).button cell).isSome = true ↔
      (Session.run (earlier ++ report :: later)).Interruptible agentId := by
  have override :=
    get_overrides_of_last earlier
      (Event.override?_of_reports reports)
      fun event isLater left =>
        Event.override?_of_not_clicks (noClick event isLater)
  rw [button_isSome_iff applicable bound named, override, Option.none_or,
    Session.Interruptible]

/-- A payload that carries no status for an agent leaves its status in the
registry as it was, or leaves none. -/
theorem runtimeStatus_of_silent (registry : AgentRegistryImpl)
    {payload : NotebookMetadataPayload Version}
    (silent : reportedStatus? payload agentId = none) {status : JsString}
    (after :
      ((registry.onNotebookMetadata payload).get agentId).bind
        AgentSessionState.runtimeStatus = some status) :
    (registry.get agentId).bind AgentSessionState.runtimeStatus =
      some status := by
  rw [AgentRegistryImpl.get_onNotebookMetadata] at after
  rw [reportedStatus?] at silent
  cases entry :
      ((snapshotOf? payload).bind agentsOf?).bind fun agents =>
        objectAt? agents agentId with
  | none =>
      rw [entry] at after
      exact after
  | some raw =>
      rw [entry, Option.bind_some] at silent
      rw [entry] at after
      have carried : statusOf? raw = some status := after
      rw [silent] at carried
      cases carried

theorem button_silent (applicable : cell.applicable = true)
    (bound : cell.agentId = some agentId) {session : Session}
    {payload : NotebookMetadataPayload Version}
    (silent : reportedStatus? payload agentId = none)
    (invisible : session.button cell = none) :
    (session.step (.metadata payload)).button cell = none := by
  by_cases named : agentId = []
  · rw [Session.button, computeInterruptButton, applicable, bound]
    simp [named]
  by_contra visible
  obtain ⟨status, interruptible, effective⟩ :=
    (button_isSome_iff applicable bound named _).mp
      (Option.isSome_iff_ne_none.mpr visible)
  have override :
      (session.step (.metadata payload)).overrides.get agentId =
        session.overrides.get agentId := by
    rw [get_overrides_step, Event.override?, silent]
    rfl
  have before :
      (session.overrides.get agentId).or
          ((session.registry.get agentId).bind
            AgentSessionState.runtimeStatus) = some status := by
    rw [override] at effective
    cases held : session.overrides.get agentId with
    | some left =>
        rw [held] at effective
        exact effective
    | none =>
        rw [held, Option.none_or] at effective
        exact runtimeStatus_of_silent session.registry silent effective
  have shown :=
    (button_isSome_iff applicable bound named session).mpr
      ⟨status, interruptible, before⟩
  rw [invisible] at shown
  cases shown

end

/-- Over every run the button of a cell follows the clicks on its agent and
the statuses that snapshots carry for it. -/
theorem run_followsStatus {Version : Type*} (events : List (Event Version))
    {agentId : JsString} {cell : InterruptCell}
    (applicable : cell.applicable = true)
    (bound : cell.agentId = some agentId) :
    FollowsStatus events agentId cell where
  hidden := by
    rintro earlier click later rfl clicks noReport
    exact button_hidden applicable bound clicks noReport
  shown := by
    rintro earlier click between report later rfl clicks reports noClick
    have named := Event.agentId_ne_nil_of_clicks clicks
    have regrouped :
        earlier ++ click :: (between ++ report :: later) =
          (earlier ++ click :: between) ++ report :: later := by
      simp only [List.append_assoc, List.cons_append]
    rw [regrouped]
    exact button_shown_iff applicable bound named reports noClick
  silent := by
    intro payload silent invisible
    rw [Session.run, List.foldl_append]
    exact button_silent applicable bound silent invisible

theorem oneClick_followsStatus :
    FollowsStatus
      [.metadata (agentsPayload oneAgent),
        .click (some (.object [(js "agent_id", .string (js "a"))])),
        .metadata (agentsPayload (.object [])),
        .metadata (agentsPayload oneAgent)]
      (js "a") ⟨js "cell", true, some (js "a")⟩ :=
  run_followsStatus _ rfl rfl

end RtsNotebook.Notebook.InterruptButton
