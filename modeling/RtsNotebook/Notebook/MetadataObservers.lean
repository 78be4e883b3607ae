import RtsNotebook.Notebook.CellBadge
import RtsNotebook.Notebook.Contamination
import RtsNotebook.Notebook.HeaderChips
import RtsNotebook.Notebook.PinStatusHeader

/-!
# The observers of one metadata stream

The router hands every `notebook.metadata` payload to the applier and then to
the registries; an exception of the applier ends the dispatch.  A notebook is
active, and each edit completes with success before the next payload arrives.
The applier has gates for the schema major and the version, the registries
have only the guard on mode and snapshot.
-/

namespace RtsNotebook.Notebook.MetadataObservers

open RtsNotebook.Library RtsNotebook.Js RtsNotebook.Messaging
open RtsNotebook.Notebook.MetadataApplier
open RtsNotebook.Notebook.CellBadge RtsNotebook.Notebook.Contamination
open RtsNotebook.Notebook.HeaderChips RtsNotebook.Notebook.PinStatusHeader

/-! ### The registries -/

structure Registries where
  agents : AgentRegistryImpl
  contamination : ContaminationRegistry
  pinStatus : PinStatusRegistry
  privileges : PrivilegeRegistry

namespace Registries

variable {Version : Type*}

def initial : Registries where
  agents := .initial
  contamination := .initial
  pinStatus := .initial
  privileges := .initial

/-- One payload, to each of the registries. -/
def onNotebookMetadata (registries : Registries)
    (payload : NotebookMetadataPayload Version) : Registries where
  agents := registries.agents.onNotebookMetadata payload
  contamination := registries.contamination.onNotebookMetadata payload
  pinStatus := registries.pinStatus.onNotebookMetadata payload
  privileges := registries.privileges.onNotebookMetadata payload

def observe (registries : Registries)
    (payloads : List (NotebookMetadataPayload Version)) : Registries :=
  payloads.foldl onNotebookMetadata registries

/-- Two groups of registries hold the same state. -/
structure SameState (first second : Registries) : Prop where
  agents : ∀ id, first.agents.get id = second.agents.get id
  contamination : ∀ id,
    first.contamination.get id = second.contamination.get id
  pinStatus : first.pinStatus.state = second.pinStatus.state
  privileges : first.privileges.list = second.privileges.list

theorem SameState.symm {first second : Registries}
    (same : SameState first second) : SameState second first where
  agents := fun id => (same.agents id).symm
  contamination := fun id => (same.contamination id).symm
  pinStatus := same.pinStatus.symm
  privileges := same.privileges.symm

theorem SameState.trans {first second third : Registries}
    (left : SameState first second) (right : SameState second third) :
    SameState first third where
  agents := fun id => (left.agents id).trans (right.agents id)
  contamination := fun id =>
    (left.contamination id).trans (right.contamination id)
  pinStatus := left.pinStatus.trans right.pinStatus
  privileges := left.privileges.trans right.privileges

theorem privileges_onNotebookMetadata (registry : PrivilegeRegistry)
    (payload : NotebookMetadataPayload Version) :
    (registry.onNotebookMetadata payload).list =
      ((snapshotOf? payload).map grantsOf).getD registry.list := by
  unfold PrivilegeRegistry.onNotebookMetadata
  cases snapshotOf? payload with
  | none => rfl
  | some snapshot => exact registry.set_entries (grantsOf snapshot)

/-- The state after a payload depends on the state before it. -/
theorem SameState.onNotebookMetadata {first second : Registries}
    (same : SameState first second)
    (payload : NotebookMetadataPayload Version) :
    SameState (first.onNotebookMetadata payload)
      (second.onNotebookMetadata payload) where
  agents := fun id => by
    have before := same.agents id
    simp only [Registries.onNotebookMetadata,
      AgentRegistryImpl.get_onNotebookMetadata, before]
  contamination := fun id => by
    have before := same.contamination id
    simp only [Registries.onNotebookMetadata,
      ContaminationRegistry.get_onNotebookMetadata, before]
  pinStatus := by
    have before := same.pinStatus
    simp only [Registries.onNotebookMetadata,
      PinStatusRegistry.onNotebookMetadata_state, before]
  privileges := by
    have before := same.privileges
    simp only [Registries.onNotebookMetadata,
      privileges_onNotebookMetadata, before]

/-- The snapshot agrees with what the registries hold, as far as they read
it. -/
structure Agrees (registries : Registries) (snapshot : Json) : Prop where
  agents : ∀ agents, agentsOf? snapshot = some agents →
    ∀ id raw, objectAt? agents id = some raw →
      registries.agents.get id = some (sessionOf id raw)
  cellsHeld : ∀ cells, objectMember? snapshot (js "cells") = some cells →
    ∀ id raw, objectAt? cells id = some raw →
      ∃ slot, registries.contamination.get id = some slot ∧
        sameSlot slot (Contamination.slotOf raw) = true
  cellsListed : ∀ cells, objectMember? snapshot (js "cells") = some cells →
    ∀ id slot, registries.contamination.get id = some slot →
      ∃ raw, (objectEntries cells).get id = some raw
  pinStatus : ∀ cfg, objectMember? snapshot (js "config") = some cfg →
    registries.pinStatus.state = PinStatusHeader.slotOf cfg
  privileges : registries.privileges.list = grantsOf snapshot

/-! ### A payload that changes nothing -/

theorem agents_unmoved_iff (registry : AgentRegistryImpl)
    (payload : NotebookMetadataPayload Version) :
    (∀ id, (registry.onNotebookMetadata payload).get id = registry.get id) ↔
      ∀ snapshot, snapshotOf? payload = some snapshot →
        ∀ agents, agentsOf? snapshot = some agents →
          ∀ id raw, objectAt? agents id = some raw →
            registry.get id = some (sessionOf id raw) := by
  constructor
  · intro unmoved snapshot delivered agents found id raw entry
    have after := unmoved id
    rw [AgentRegistryImpl.get_onNotebookMetadata, delivered,
      Option.bind_some, found, Option.bind_some, entry] at after
    exact after.symm
  · intro agrees id
    rw [AgentRegistryImpl.get_onNotebookMetadata]
    cases delivered : snapshotOf? payload with
    | none =>
        rfl
    | some snapshot =>
        rw [Option.bind_some]
        cases found : agentsOf? snapshot with
        | none =>
            rfl
        | some agents =>
            rw [Option.bind_some]
            cases entry : objectAt? agents id with
            | none => rfl
            | some raw =>
                exact (agrees snapshot delivered agents found id raw
                  entry).symm

/-- A round leaves a row exactly where the entry is no object or compares equal
to the row. -/
theorem absorbed_eq_self_iff (id : JsString) (raw : Json)
    (before : Option RtsCellsSlot) :
    absorbed rowOf sameSlot id raw before = before ↔
      (isObject raw = true → ∃ slot, before = some slot ∧
        sameSlot slot (Contamination.slotOf raw) = true) := by
  unfold absorbed rowOf
  cases isObject raw with
  | false =>
      simp
  | true =>
      cases before with
      | none =>
          simp
      | some prev =>
          cases same : sameSlot prev (Contamination.slotOf raw) with
          | true =>
              simp [same]
          | false =>
              have reflexive : sameSlot (Contamination.slotOf raw)
                  (Contamination.slotOf raw) = true :=
                ((sameSlot_iff _ _).mpr rfl).1
              have different : Contamination.slotOf raw ≠ prev := by
                intro equal
                rw [equal] at reflexive same
                rw [same] at reflexive
                cases reflexive
              simp [same, different]

theorem contamination_unmoved_iff (registry : ContaminationRegistry)
    (payload : NotebookMetadataPayload Version) :
    (∀ id, (registry.onNotebookMetadata payload).get id = registry.get id) ↔
      ∀ snapshot, snapshotOf? payload = some snapshot →
        ∀ cells, objectMember? snapshot (js "cells") = some cells →
          (∀ id raw, objectAt? cells id = some raw →
            ∃ slot, registry.get id = some slot ∧
              sameSlot slot (Contamination.slotOf raw) = true) ∧
          ∀ id slot, registry.get id = some slot →
            ∃ raw, (objectEntries cells).get id = some raw := by
  constructor
  · intro unmoved snapshot delivered cells found
    have after : ∀ id, (((objectEntries cells).get id).bind fun raw =>
        absorbed rowOf sameSlot id raw (registry.get id)) =
          registry.get id := by
      intro id
      have unmovedId := unmoved id
      rw [ContaminationRegistry.get_onNotebookMetadata, cellsOf?, delivered,
        Option.bind_some, found] at unmovedId
      exact unmovedId
    refine ⟨fun id raw entry => ?_, fun id slot held => ?_⟩
    · obtain ⟨present, anObject⟩ := Option.filter_eq_some_iff.mp entry
      have afterId := after id
      rw [present, Option.bind_some, absorbed_eq_self_iff] at afterId
      exact afterId anObject
    · have afterId := after id
      cases entry : (objectEntries cells).get id with
      | some raw =>
          exact ⟨raw, rfl⟩
      | none =>
          rw [entry, Option.bind_none, held] at afterId
          cases afterId
  · intro agrees id
    rw [ContaminationRegistry.get_onNotebookMetadata, cellsOf?]
    cases delivered : snapshotOf? payload with
    | none =>
        rfl
    | some snapshot =>
        rw [Option.bind_some]
        cases found : objectMember? snapshot (js "cells") with
        | none =>
            rfl
        | some cells =>
            obtain ⟨held, listed⟩ := agrees snapshot delivered cells found
            rw [Option.elim_some]
            cases entry : (objectEntries cells).get id with
            | some raw =>
                rw [Option.bind_some, absorbed_eq_self_iff]
                exact fun anObject => held id raw
                  (Option.filter_eq_some_iff.mpr ⟨entry, anObject⟩)
            | none =>
                cases before : registry.get id with
                | none =>
                    rfl
                | some slot =>
                    obtain ⟨raw, present⟩ := listed id slot before
                    rw [entry] at present
                    cases present

theorem pinStatus_unmoved_iff (registry : PinStatusRegistry)
    (payload : NotebookMetadataPayload Version) :
    (registry.onNotebookMetadata payload).state = registry.state ↔
      ∀ snapshot, snapshotOf? payload = some snapshot →
        ∀ cfg, objectMember? snapshot (js "config") = some cfg →
          registry.state = PinStatusHeader.slotOf cfg := by
  rw [PinStatusRegistry.onNotebookMetadata_state]
  cases snapshotOf? payload with
  | none =>
      simp
  | some snapshot =>
      cases found : objectMember? snapshot (js "config") with
      | none => simp [found]
      | some cfg => simp [found, eq_comm]

theorem privileges_unmoved_iff (registry : PrivilegeRegistry)
    (payload : NotebookMetadataPayload Version) :
    (registry.onNotebookMetadata payload).list = registry.list ↔
      ∀ snapshot, snapshotOf? payload = some snapshot →
        registry.list = grantsOf snapshot := by
  rw [privileges_onNotebookMetadata]
  cases snapshotOf? payload with
  | none => simp
  | some snapshot => simp [eq_comm]

/-- A payload leaves the registries as they are exactly where its snapshot, if
it delivers one, agrees with what they hold. -/
theorem unmoved_iff_agrees (registries : Registries)
    (payload : NotebookMetadataPayload Version) :
    SameState (registries.onNotebookMetadata payload) registries ↔
      ∀ snapshot, snapshotOf? payload = some snapshot →
        Agrees registries snapshot := by
  constructor
  · intro unmoved snapshot delivered
    have cells := (contamination_unmoved_iff registries.contamination
      payload).mp unmoved.contamination snapshot delivered
    exact
      { agents := (agents_unmoved_iff registries.agents payload).mp
          unmoved.agents snapshot delivered
        cellsHeld := fun found present => (cells found present).1
        cellsListed := fun found present => (cells found present).2
        pinStatus := (pinStatus_unmoved_iff registries.pinStatus payload).mp
          unmoved.pinStatus snapshot delivered
        privileges := (privileges_unmoved_iff registries.privileges
          payload).mp unmoved.privileges snapshot delivered }
  · intro agrees
    exact
      { agents := (agents_unmoved_iff registries.agents payload).mpr
          fun snapshot delivered => (agrees snapshot delivered).agents
        contamination := (contamination_unmoved_iff registries.contamination
          payload).mpr fun snapshot delivered cells found =>
            ⟨(agrees snapshot delivered).cellsHeld cells found,
              (agrees snapshot delivered).cellsListed cells found⟩
        pinStatus := (pinStatus_unmoved_iff registries.pinStatus payload).mpr
          fun snapshot delivered => (agrees snapshot delivered).pinStatus
        privileges := (privileges_unmoved_iff registries.privileges
          payload).mpr
            fun snapshot delivered => (agrees snapshot delivered).privileges }

end Registries

/-! ### The dispatch -/

variable {Version : Type*} [LinearOrder Version]

/-- The applier, the registries, and the payloads that the applier has
accepted so far. -/
structure Session (Version : Type*) where
  applier : State Version
  registries : Registries
  accepted : List (NotebookMetadataPayload Version)

/-- `String(snapshot.schema_version)` throws, out of the applier. -/
def applierThrows (payload : NotebookMetadataPayload Version) : Bool :=
  payload.mode.bind Json.asString? = some (js "snapshot") &&
    (payload.snapshot.filter isObject).any fun snapshot =>
      (schemaMajor? snapshot).isNone

/-- One payload: the applier first, then the registries, then the completion
of the edit. -/
def dispatch (session : Session Version)
    (payload : NotebookMetadataPayload Version) : Session Version :=
  let arrived := session.applier.onNotebookMetadata payload true
  let registries :=
    if applierThrows payload then
      session.registries
    else
      session.registries.onNotebookMetadata payload
  match arrived.edits with
  | [] =>
      { applier := arrived
        registries := registries
        accepted := session.accepted }
  | edit :: rest =>
      { applier :=
          State.complete { arrived with edits := rest } edit .applied
        registries := registries
        accepted := session.accepted ++ [payload] }

/-- Payloads that arrive one after the other. -/
def system (Version : Type*) [LinearOrder Version] :
    System (Session Version) (NotebookMetadataPayload Version) where
  initial :=
    { applier := .initial, registries := .initial, accepted := [] }
  step := fun session payload => some (dispatch session payload)

/-- The registries hold the state that the accepted payloads alone would have
brought about. -/
def FollowsAccepted (session : Session Version) : Prop :=
  Registries.SameState session.registries
    (Registries.initial.observe session.accepted)

/-- The gates of the applier: the schema major is right and the version is not
below the last accepted one. -/
def Admitted (applier : State Version)
    (payload : NotebookMetadataPayload Version) : Prop :=
  payload.mode.bind Json.asString? = some (js "snapshot") ∧
    ∃ snapshot, payload.snapshot = some snapshot ∧
      isObject snapshot = true ∧
      schemaMajor? snapshot = some RFC005_SCHEMA_MAJOR ∧
      isBelow payload.snapshotVersion applier.lastAcceptedVersion = false

/-- A payload that the applier discards without throwing delivers no snapshot
to the registries, or one that agrees with what they hold. -/
def DiscardedAgrees (session : Session Version)
    (payload : NotebookMetadataPayload Version) : Prop :=
  Admitted session.applier payload ∨ applierThrows payload = true ∨
    ∀ snapshot, snapshotOf? payload = some snapshot →
      Registries.Agrees session.registries snapshot

/-! ### What the applier accepts -/

theorem edits_of_admitted {applier : State Version}
    (settled : applier.edits = [])
    {payload : NotebookMetadataPayload Version}
    (admitted : Admitted applier payload) :
    ∃ edit, (applier.onNotebookMetadata payload true).edits = [edit] := by
  obtain ⟨isSnapshot, snapshot, carried, anObject, major, inOrder⟩ := admitted
  unfold State.onNotebookMetadata
  rw [if_neg (not_not.mpr isSnapshot), carried]
  simp only [anObject, major, inOrder]
  exact ⟨_, by
    simp only [State.apply, settled]
    rfl⟩

theorem edits_of_not_admitted {applier : State Version}
    {payload : NotebookMetadataPayload Version}
    (discarded : ¬ Admitted applier payload) :
    (applier.onNotebookMetadata payload true).edits = applier.edits := by
  unfold State.onNotebookMetadata
  split
  · rfl
  · rename_i isSnapshot
    split
    · rfl
    · rename_i snapshot carried
      split
      · rfl
      · rename_i anObject
        split
        · rfl
        · rename_i observedMajor major
          split
          · rfl
          · rename_i rightMajor
            split
            · rfl
            · rename_i inOrder
              rw [not_not] at isSnapshot rightMajor
              rw [rightMajor] at major
              exact absurd
                ⟨isSnapshot, snapshot, carried, by simpa using anObject,
                  major, by simpa using inOrder⟩ discarded

/-- An applier that throws does not admit the payload. -/
theorem not_admitted_of_throws {applier : State Version}
    {payload : NotebookMetadataPayload Version}
    (throws : applierThrows payload = true) :
    ¬ Admitted applier payload := by
  rintro ⟨_, snapshot, carried, anObject, major, _⟩
  rw [applierThrows, carried, Bool.and_eq_true, Option.filter_some,
    if_pos anObject] at throws
  have noMajor : (schemaMajor? snapshot).isNone = true := throws.2
  rw [major] at noMajor
  cases noMajor

theorem dispatch_of_admitted {session : Session Version}
    (settled : session.applier.edits = [])
    {payload : NotebookMetadataPayload Version}
    (admitted : Admitted session.applier payload) :
    (dispatch session payload).applier.edits = [] ∧
      (dispatch session payload).registries =
        session.registries.onNotebookMetadata payload ∧
      (dispatch session payload).accepted =
        session.accepted ++ [payload] := by
  obtain ⟨edit, started⟩ := edits_of_admitted settled admitted
  have returns : ¬ applierThrows payload = true := fun throws =>
    not_admitted_of_throws throws admitted
  unfold dispatch
  simp only [started, if_neg returns]
  exact ⟨rfl, trivial, trivial⟩

theorem dispatch_of_not_admitted {session : Session Version}
    (settled : session.applier.edits = [])
    {payload : NotebookMetadataPayload Version}
    (discarded : ¬ Admitted session.applier payload) :
    (dispatch session payload).applier.edits = [] ∧
      (dispatch session payload).registries =
        (if applierThrows payload then
          session.registries
        else
          session.registries.onNotebookMetadata payload) ∧
      (dispatch session payload).accepted = session.accepted := by
  have none_started := edits_of_not_admitted discarded
  rw [settled] at none_started
  unfold dispatch
  simp only [none_started]
  exact ⟨trivial, trivial, trivial⟩

theorem settled_dispatch {session : Session Version}
    (settled : session.applier.edits = [])
    (payload : NotebookMetadataPayload Version) :
    (dispatch session payload).applier.edits = [] := by
  by_cases admitted : Admitted session.applier payload
  · exact (dispatch_of_admitted settled admitted).1
  · exact (dispatch_of_not_admitted settled admitted).1

/-- One payload keeps the registries on the accepted state exactly where a
discarded snapshot agrees with it. -/
theorem followsAccepted_step_iff {session : Session Version}
    (settled : session.applier.edits = [])
    (follows : FollowsAccepted session)
    (payload : NotebookMetadataPayload Version) :
    FollowsAccepted (dispatch session payload) ↔
      DiscardedAgrees session payload := by
  unfold FollowsAccepted DiscardedAgrees
  by_cases admitted : Admitted session.applier payload
  · obtain ⟨_, registries, accepted⟩ := dispatch_of_admitted settled admitted
    have appended : Registries.initial.observe
        (session.accepted ++ [payload]) =
          (Registries.initial.observe session.accepted).onNotebookMetadata
            payload :=
      List.foldl_concat _ _ _ _
    rw [registries, accepted, appended]
    exact iff_of_true (follows.onNotebookMetadata payload)
      (Or.inl admitted)
  · obtain ⟨_, registries, accepted⟩ :=
      dispatch_of_not_admitted settled admitted
    rw [registries, accepted]
    cases throws : applierThrows payload with
    | true =>
        exact iff_of_true follows (Or.inr (Or.inl rfl))
    | false =>
        have unmoved := Registries.unmoved_iff_agrees session.registries
          payload
        constructor
        · intro after
          exact Or.inr (Or.inr (unmoved.mp (after.trans follows.symm)))
        · rintro (isAdmitted | isThrown | agrees)
          · exact absurd isAdmitted admitted
          · cases isThrown
          · exact (unmoved.mpr agrees).trans follows

/-- On the whole run the registries hold what the accepted payloads alone would
have brought about exactly when every discarded snapshot agrees with what they
hold. -/
theorem followsAccepted_iff_discardedAgrees (Version : Type*)
    [LinearOrder Version]
    (payloads : List (NotebookMetadataPayload Version)) :
    (system Version).Always FollowsAccepted (system Version).initial
        payloads ↔
      (system Version).StepsMeet DiscardedAgrees (system Version).initial
        payloads :=
  System.always_iff_stepsMeet (I := fun session => session.applier.edits = [])
    (fun session payload next settled follows stepped meets => by
      cases stepped
      exact ⟨settled_dispatch settled payload,
        (followsAccepted_step_iff settled follows payload).mpr meets⟩)
    (fun session payload next settled follows stepped misses kept => by
      cases stepped
      exact misses
        ((followsAccepted_step_iff settled follows payload).mp kept))
    payloads rfl
    { agents := fun _ => rfl
      contamination := fun _ => rfl
      pinStatus := rfl
      privileges := rfl }

/-- A snapshot of another schema major that switches the hash mode on. -/
def otherMajorPayload : NotebookMetadataPayload Nat where
  mode := some (.string (js "snapshot"))
  snapshotVersion := some 1
  snapshot := some (.object
    [(js "schema_version", .string (js "2.0.0")),
      (js "config", .object [(js "magic_hash_enabled", .bool true)])])

/-- The applier discards the snapshot, and the pin status follows it. -/
theorem otherMajor_changes_pinStatus :
    ¬ (system Nat).Always FollowsAccepted (system Nat).initial
      [otherMajorPayload] := by
  intro always
  have last := always.last rfl
  have shown := last.pinStatus
  exact absurd shown (by decide)

end RtsNotebook.Notebook.MetadataObservers
