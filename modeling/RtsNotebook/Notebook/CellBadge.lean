import RtsNotebook.Notebook.Snapshots

/-!
# Agent sessions

`AgentRegistryImpl`: the provider and the runtime status of every agent that a
snapshot has listed, and the interrupt button, which is shown by the status.
A snapshot adds and replaces rows and removes none.
-/

namespace RtsNotebook.Notebook.CellBadge

open RtsNotebook.Library RtsNotebook.Js RtsNotebook.Messaging
open RtsNotebook.Notebook.MetadataApplier

/-- `AgentSessionState` -/
structure AgentSessionState where
  agentId : JsString
  provider : Option JsString
  runtimeStatus : Option JsString
  deriving DecidableEq, Repr

/-- `snapshot.zone.agents ?? snapshot.agents`, where it is an object. -/
def agentsOf? (snapshot : Json) : Option Json :=
  let inZone := (objectMember? snapshot (js "zone")).bind fun zone =>
    zone.member? (js "agents")
  let agents :=
    match inZone with
    | none => snapshot.member? (js "agents")
    | some .null => snapshot.member? (js "agents")
    | some agents => some agents
  agents.filter isObject

/-- The row of an agent: its fields stand in `session`, or in the entry itself
where there is no such object. -/
def sessionOf (id : JsString) (raw : Json) : AgentSessionState :=
  let src := (objectMember? raw (js "session")).getD raw
  { agentId := id
    provider := (src.member? (js "provider")).bind Json.asString?
    runtimeStatus := (src.member? (js "runtime_status")).bind Json.asString? }

/-- Neither field has changed. -/
def sameSession (prev next : AgentSessionState) : Bool :=
  prev.provider == next.provider && prev.runtimeStatus == next.runtimeStatus

/-- The loop over the entries of the agents map. -/
def absorbAll (byId : OrderedMap JsString AgentSessionState)
    (agents : Json) : TrackedMap JsString AgentSessionState :=
  (objectEntries agents).entries.foldl (absorb sessionOf sameSession)
    (.start byId)

/-- Every row is filed under the agent's own id. -/
def Named (byId : OrderedMap JsString AgentSessionState) : Prop :=
  ∀ id row, byId.get id = some row → row.agentId = id

/-! ### The loop, one agent at a time -/

/-- A row that is filed under its own id and has not changed is the new row. -/
theorem eq_sessionOf {id : JsString} {raw : Json} {prev : AgentSessionState}
    (named : prev.agentId = id)
    (same : sameSession prev (sessionOf id raw) = true) :
    prev = sessionOf id raw := by
  obtain ⟨agentId, provider, runtimeStatus⟩ := prev
  rw [sameSession, Bool.and_eq_true, beq_iff_eq, beq_iff_eq] at same
  cases named
  obtain ⟨sameProvider, sameStatus⟩ := same
  cases sameProvider
  cases sameStatus
  rfl

theorem absorbed_of_named {id : JsString} {raw : Json}
    {before : Option AgentSessionState}
    (named : ∀ prev, before = some prev → prev.agentId = id) :
    absorbed sessionOf sameSession id raw before =
      if isObject raw = true then some (sessionOf id raw) else before := by
  unfold absorbed
  cases isObject raw with
  | false =>
      rfl
  | true =>
      rw [if_neg (by simp), if_pos rfl]
      split
      · rename_i unchanged
        obtain ⟨prev, found, same⟩ := (Option.any_eq_true _ before).mp unchanged
        rw [found, eq_sessionOf (named prev found) same]
      · rfl

/-- After the loop an agent has the row of its entry, and the row it had
before where it has no entry that is an object. -/
theorem get_absorbAll {byId : OrderedMap JsString AgentSessionState}
    (named : Named byId) (agents : Json) (id : JsString) :
    (absorbAll byId agents).get id =
      (objectAt? agents id).elim (byId.get id)
        fun raw => some (sessionOf id raw) := by
  rw [absorbAll, get_foldl_absorb, objectAt?]
  cases (objectEntries agents).get id with
  | none =>
      rfl
  | some raw =>
      rw [Option.elim_some, absorbed_of_named (named id),
        Option.filter_some]
      split <;> rfl

theorem named_absorbAll {byId : OrderedMap JsString AgentSessionState}
    (named : Named byId) (agents : Json) :
    Named (absorbAll byId agents).map := by
  intro id row found
  have after := get_absorbAll named agents id
  rw [TrackedMap.get, found] at after
  cases entry : objectAt? agents id with
  | none =>
      rw [entry] at after
      exact named id row after.symm
  | some raw =>
      rw [entry] at after
      cases after
      rfl

/-! ### The registry -/

/-- The registry, and how often it has announced a change. -/
structure AgentRegistryImpl where
  byId : OrderedMap JsString AgentSessionState
  changes : Nat
  named : Named byId

namespace AgentRegistryImpl

def initial : AgentRegistryImpl where
  byId := .empty
  changes := 0
  named := fun _ _ found => by cases found

def get (registry : AgentRegistryImpl) (agentId : JsString) :
    Option AgentSessionState :=
  registry.byId.get agentId

/-- `onNotebookMetadata` -/
def onNotebookMetadata {Version : Type*} (registry : AgentRegistryImpl)
    (payload : NotebookMetadataPayload Version) : AgentRegistryImpl :=
  match (snapshotOf? payload).bind agentsOf? with
  | none => registry
  | some agents =>
      let after := absorbAll registry.byId agents
      { byId := after.map
        changes := registry.changes + if after.changed then 1 else 0
        named := named_absorbAll registry.named agents }

/-- The registry after a stream of payloads. -/
def observe {Version : Type*} (registry : AgentRegistryImpl)
    (payloads : List (NotebookMetadataPayload Version)) :
    AgentRegistryImpl :=
  payloads.foldl onNotebookMetadata registry

theorem get_onNotebookMetadata {Version : Type*}
    (registry : AgentRegistryImpl)
    (payload : NotebookMetadataPayload Version) (id : JsString) :
    (registry.onNotebookMetadata payload).get id =
      (((snapshotOf? payload).bind agentsOf?).bind fun agents =>
          objectAt? agents id).elim
        (registry.get id) fun raw => some (sessionOf id raw) := by
  unfold onNotebookMetadata
  cases (snapshotOf? payload).bind agentsOf? with
  | none =>
      rfl
  | some agents =>
      exact get_absorbAll registry.named agents id

end AgentRegistryImpl

/-! ### The interrupt button -/

/-- What `badgeIsApplicable` and `resolveAgentIdForInterrupt` find out about a
cell. -/
structure InterruptCell where
  uri : JsString
  applicable : Bool
  agentId : Option JsString

structure InterruptButton where
  agentId : JsString
  text : JsString
  command : JsString
  cellId : JsString
  deriving DecidableEq, Repr

/-- `INTERRUPT_BUTTON_TEXT` -/
def INTERRUPT_BUTTON_TEXT : JsString := js "■ interrupt"

/-- `INTERRUPT_COMMAND_ID` -/
def INTERRUPT_COMMAND_ID : JsString := js "llmnb.interruptCell"

/-- `INTERRUPTIBLE_STATUSES` -/
def INTERRUPTIBLE_STATUSES : List JsString :=
  [js "active", js "alive", js "spawning"]

/-- `computeInterruptButton`; an override takes the place of the status in the
registry. -/
def computeInterruptButton (cell : InterruptCell)
    (registry : AgentRegistryImpl)
    (overrides : JsString → Option JsString) : Option InterruptButton :=
  if !cell.applicable then
    none
  else
    match cell.agentId with
    | none => none
    | some agentId =>
        if agentId = [] then
          none
        else
          let effective := (overrides agentId).or
            ((registry.get agentId).bind AgentSessionState.runtimeStatus)
          if effective.any fun status => status ∈ INTERRUPTIBLE_STATUSES then
            some
              { agentId := agentId
                text := INTERRUPT_BUTTON_TEXT
                command := INTERRUPT_COMMAND_ID
                cellId := cell.uri }
          else
            none

/-- An agent without a status has no button, unless an override says that it
is active. -/
theorem computeInterruptButton_eq_none {cell : InterruptCell}
    {registry : AgentRegistryImpl} {overrides : JsString → Option JsString}
    {agentId : JsString} (bound : cell.agentId = some agentId)
    (noOverride : overrides agentId = none)
    (noRow : registry.get agentId = none) :
    computeInterruptButton cell registry overrides = none := by
  unfold computeInterruptButton
  simp [bound, noOverride, noRow]

/-! ### The last agents map -/

/-- The registry shows the rows of the agents map and no others, and no button
for an agent that the map does not hold. -/
structure ShowsAgents (registry : AgentRegistryImpl) (agents : Json) :
    Prop where
  rows : ∀ id, registry.get id = (objectAt? agents id).map (sessionOf id)
  buttons : ∀ (cell : InterruptCell)
    (overrides : JsString → Option JsString) (agentId : JsString),
    cell.agentId = some agentId → overrides agentId = none →
      (objectEntries agents).get agentId = none →
        computeInterruptButton cell registry overrides = none

/-- Every agent that has a row is still in the agents map, as an object. -/
def StillListed (registry : AgentRegistryImpl) (agents : Json) : Prop :=
  ∀ id row, registry.get id = some row →
    ∃ raw, objectAt? agents id = some raw

/-- A stream of payloads that ends with an agents map leaves exactly its rows
where the map still lists every agent that had one. -/
theorem showsAgents_iff_stillListed {Version : Type*}
    (earlier : List (NotebookMetadataPayload Version))
    {last : NotebookMetadataPayload Version} {agents : Json}
    (carries : (snapshotOf? last).bind agentsOf? = some agents) :
    ShowsAgents (AgentRegistryImpl.initial.observe (earlier ++ [last]))
        agents ↔
      StillListed (AgentRegistryImpl.initial.observe earlier) agents := by
  have appended : AgentRegistryImpl.initial.observe (earlier ++ [last]) =
      (AgentRegistryImpl.initial.observe earlier).onNotebookMetadata last :=
    List.foldl_concat _ _ _ _
  have after : ∀ id,
      (AgentRegistryImpl.initial.observe (earlier ++ [last])).get id =
        (objectAt? agents id).elim
          ((AgentRegistryImpl.initial.observe earlier).get id)
          fun raw => some (sessionOf id raw) := by
    intro id
    rw [appended, AgentRegistryImpl.get_onNotebookMetadata, carries]
    rfl
  constructor
  · rintro shows id row found
    have shown := shows.rows id
    rw [after id] at shown
    cases entry : objectAt? agents id with
    | some raw =>
        exact ⟨raw, rfl⟩
    | none =>
        rw [entry, Option.elim_none, found] at shown
        cases shown
  · intro listed
    have rows : ∀ id,
        (AgentRegistryImpl.initial.observe (earlier ++ [last])).get id =
          (objectAt? agents id).map (sessionOf id) := by
      intro id
      rw [after id]
      cases entry : objectAt? agents id with
      | some raw =>
          rfl
      | none =>
          cases found :
              (AgentRegistryImpl.initial.observe earlier).get id with
          | none =>
              rfl
          | some row =>
              obtain ⟨raw, present⟩ := listed id row found
              rw [entry] at present
              cases present
    refine ⟨rows, fun cell overrides agentId bound noOverride absent => ?_⟩
    apply computeInterruptButton_eq_none bound noOverride
    rw [rows agentId, objectAt?, absent]
    rfl

/-- A snapshot payload with an agents map under its zone. -/
def agentsPayload (agents : Json) : NotebookMetadataPayload Nat where
  mode := some (.string (js "snapshot"))
  snapshotVersion := some 1
  snapshot := some (.object
    [(js "zone", .object [(js "agents", agents)])])

def oneAgent : Json :=
  .object
    [(js "a", .object
      [(js "session", .object
        [(js "runtime_status", .string (js "alive"))])])]

/-- The agent is still alive in the registry after a snapshot that lists no
agent. -/
theorem removedAgent_survives :
    ¬ ShowsAgents
        (AgentRegistryImpl.initial.observe
          [agentsPayload oneAgent, agentsPayload (.object [])])
        (.object []) := by
  intro shows
  have gone := shows.rows (js "a")
  have there : ((AgentRegistryImpl.initial.observe
      [agentsPayload oneAgent, agentsPayload (.object [])]).get
        (js "a")).isSome = true := by
    decide
  rw [gone] at there
  cases there

theorem showsAgents_iff_stillListed_oneAgent :
    (snapshotOf? (agentsPayload oneAgent)).bind agentsOf? = some oneAgent ∧
      (ShowsAgents
          (AgentRegistryImpl.initial.observe
            ([agentsPayload oneAgent] ++ [agentsPayload oneAgent]))
          oneAgent ↔
        StillListed
          (AgentRegistryImpl.initial.observe [agentsPayload oneAgent])
          oneAgent) :=
  ⟨rfl, showsAgents_iff_stillListed [agentsPayload oneAgent] rfl⟩

end RtsNotebook.Notebook.CellBadge
