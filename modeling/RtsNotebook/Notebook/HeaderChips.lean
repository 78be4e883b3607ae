import Mathlib.Data.List.Forall2
import RtsNotebook.Library.Runs
import RtsNotebook.Notebook.Snapshots

/-!
# Privilege grants

`PrivilegeRegistry`: the grants that the last snapshot lists in its config, and
an event where the list changes.  Lists are copied on the way in and out, so a
list is the value that it was.
-/

namespace RtsNotebook.Notebook.HeaderChips

open RtsNotebook.Library RtsNotebook.Js RtsNotebook.Messaging
open RtsNotebook.Notebook.MetadataApplier

/-- `scope.magics` of an entry: `'all'`, or the names. -/
inductive Magics where
  | all
  | names (names : List JsString)
  deriving DecidableEq, Repr

/-- `MagicEmitPrivilegeEntry` -/
structure MagicEmitPrivilegeEntry where
  agentId : JsString
  zoneId : JsString
  grantedAt : JsString
  magics : Magics
  deriving DecidableEq, Repr

/-- The registry, and how often it has announced a change. -/
structure PrivilegeRegistry where
  entries : List MagicEmitPrivilegeEntry
  changes : Nat
  deriving DecidableEq, Repr

/-- The comparison of two scopes inside `sameEntries`. -/
def sameMagics : Magics → Magics → Bool
  | .all, .all => true
  | .all, .names _ => false
  | .names _, .all => false
  | .names am, .names bm =>
      am.length == bm.length && (am.zip bm).all fun (a, b) => a == b

/-- One round of the loop of `sameEntries`. -/
def sameEntry (a b : MagicEmitPrivilegeEntry) : Bool :=
  a.agentId == b.agentId && a.zoneId == b.zoneId &&
    a.grantedAt == b.grantedAt && sameMagics a.magics b.magics

/-- `sameEntries` -/
def sameEntries (a b : List MagicEmitPrivilegeEntry) : Bool :=
  a.length == b.length && (a.zip b).all fun (x, y) => sameEntry x y

/-- The string under a key, the empty one where there is none. -/
def textOf (rec : Json) (key : JsString) : JsString :=
  ((rec.member? key).bind Json.asString?).getD []

/-- The scope of a row, `'all'` where it is not a list. -/
def magicsOf (rec : Json) : Magics :=
  match (rec.member? (js "scope")).bind fun scope =>
      scope.member? (js "magics") with
  | some (.array items) => .names (items.filterMap Json.asString?)
  | _ => .all

/-- One round of the loop over the rows. -/
def entryOf? (row : Json) : Option MagicEmitPrivilegeEntry :=
  if !isObject row then
    none
  else
    let agentId := textOf row (js "agent_id")
    let zoneId := textOf row (js "zone_id")
    if agentId = [] ∨ zoneId = [] then
      none
    else
      some
        { agentId := agentId
          zoneId := zoneId
          grantedAt := textOf row (js "granted_at")
          magics := magicsOf row }

/-- The list that `onNotebookMetadata` hands to `set`. -/
def grantsOf (snapshot : Json) : List MagicEmitPrivilegeEntry :=
  match objectMember? snapshot (js "config") with
  | none => []
  | some cfg =>
      match cfg.member? (js "magic_emit_privileges") with
      | some (.array raw) => raw.filterMap entryOf?
      | _ => []

namespace PrivilegeRegistry

def initial : PrivilegeRegistry where
  entries := []
  changes := 0

/-- `list()` -/
def list (registry : PrivilegeRegistry) : List MagicEmitPrivilegeEntry :=
  registry.entries

/-- `hasGrant` -/
def hasGrant (registry : PrivilegeRegistry) (agentId : JsString) : Bool :=
  if agentId = [] then
    false
  else
    registry.entries.any fun e => e.agentId == agentId

/-- `set` -/
def set (registry : PrivilegeRegistry)
    (next : List MagicEmitPrivilegeEntry) : PrivilegeRegistry :=
  if sameEntries registry.entries next then
    registry
  else
    { entries := next, changes := registry.changes + 1 }

/-- `onNotebookMetadata` -/
def onNotebookMetadata {Version : Type*} (registry : PrivilegeRegistry)
    (payload : NotebookMetadataPayload Version) : PrivilegeRegistry :=
  match snapshotOf? payload with
  | none => registry
  | some snapshot => registry.set (grantsOf snapshot)

/-- The registry after a stream of payloads. -/
def observe {Version : Type*} (registry : PrivilegeRegistry)
    (payloads : List (NotebookMetadataPayload Version)) : PrivilegeRegistry :=
  payloads.foldl onNotebookMetadata registry

end PrivilegeRegistry

/-! ### The comparison decides equality -/

private theorem zip_all_iff_eq {Item : Type} {same : Item → Item → Bool}
    (sameIff : ∀ x y, same x y = true ↔ x = y) (a b : List Item) :
    (a.length == b.length && (a.zip b).all fun (x, y) => same x y) = true ↔
      a = b := by
  rw [Bool.and_eq_true, beq_iff_eq, List.all_eq_true]
  constructor
  · rintro ⟨sameLength, sameItems⟩
    rw [← List.forall₂_eq_eq_eq, List.forall₂_iff_zip]
    exact ⟨sameLength, fun member =>
      (sameIff _ _).mp (sameItems _ member)⟩
  · rintro rfl
    have itself : List.Forall₂ (· = ·) a a := List.forall₂_refl a
    exact ⟨rfl, fun _ member => (sameIff _ _).mpr
      ((List.forall₂_iff_zip.mp itself).2 member)⟩

theorem sameMagics_iff (am bm : Magics) :
    sameMagics am bm = true ↔ am = bm := by
  cases am with
  | all =>
      cases bm <;> simp [sameMagics]
  | names am =>
      cases bm with
      | all =>
          simp [sameMagics]
      | names bm =>
          rw [sameMagics, zip_all_iff_eq (fun _ _ => beq_iff_eq),
            Magics.names.injEq]

theorem sameEntry_iff (a b : MagicEmitPrivilegeEntry) :
    sameEntry a b = true ↔ a = b := by
  obtain ⟨agentId, zoneId, grantedAt, magics⟩ := a
  obtain ⟨agentId', zoneId', grantedAt', magics'⟩ := b
  simp only [sameEntry, Bool.and_eq_true, beq_iff_eq, sameMagics_iff,
    MagicEmitPrivilegeEntry.mk.injEq, and_assoc]

theorem sameEntries_iff (a b : List MagicEmitPrivilegeEntry) :
    sameEntries a b = true ↔ a = b :=
  zip_all_iff_eq sameEntry_iff a b

/-! ### The registry follows the last snapshot -/

namespace PrivilegeRegistry

variable {Version : Type*}

theorem set_entries (registry : PrivilegeRegistry)
    (next : List MagicEmitPrivilegeEntry) :
    (registry.set next).entries = next := by
  rw [set]
  split
  · rename_i same
    exact (sameEntries_iff registry.entries next).mp same
  · rfl

/-- An event is announced exactly where the list changes. -/
theorem onNotebookMetadata_changes (registry : PrivilegeRegistry)
    (payload : NotebookMetadataPayload Version) :
    (registry.onNotebookMetadata payload).changes =
      if (registry.onNotebookMetadata payload).list = registry.list then
        registry.changes
      else
        registry.changes + 1 := by
  rw [onNotebookMetadata]
  cases snapshotOf? payload with
  | none =>
      rw [if_pos rfl]
  | some snapshot =>
      simp only [list, set_entries]
      by_cases same : grantsOf snapshot = registry.entries
      · rw [if_pos same, set,
          if_pos ((sameEntries_iff _ _).mpr same.symm)]
      · have different : ¬ sameEntries registry.entries
            (grantsOf snapshot) = true := fun equal =>
          same ((sameEntries_iff _ _).mp equal).symm
        rw [if_neg same, set, if_neg different]

end PrivilegeRegistry

/-- The last payload in snapshot mode that carries a snapshot. -/
def lastSnapshot? {Version : Type*}
    (payloads : List (NotebookMetadataPayload Version)) : Option Json :=
  (payloads.filterMap snapshotOf?).getLast?

/-- The list after a stream of payloads is that of the last snapshot. -/
theorem list_observe {Version : Type*}
    (payloads : List (NotebookMetadataPayload Version)) :
    (PrivilegeRegistry.initial.observe payloads).list =
      ((lastSnapshot? payloads).map grantsOf).getD [] :=
  view_foldl_last PrivilegeRegistry.list grantsOf
    (fun registry payload ignored => by
      rw [PrivilegeRegistry.onNotebookMetadata, ignored])
    (fun registry payload snapshot read => by
      rw [PrivilegeRegistry.onNotebookMetadata, read]
      exact registry.set_entries (grantsOf snapshot))
    PrivilegeRegistry.initial payloads

/-- A row of the privilege list of a snapshot that names the agent and a
zone. -/
def HasGrantRow (snapshot : Json) (agentId : JsString) : Prop :=
  ∃ cfg raw row zoneId,
    snapshot.member? (js "config") = some cfg ∧
      cfg.member? (js "magic_emit_privileges") = some (.array raw) ∧
      row ∈ raw ∧
      row.member? (js "agent_id") = some (.string agentId) ∧
      row.member? (js "zone_id") = some (.string zoneId) ∧ zoneId ≠ []

theorem textOf_eq_iff {rec : Json} {key text : JsString}
    (nonEmpty : text ≠ []) :
    textOf rec key = text ↔ rec.member? key = some (.string text) := by
  rw [textOf]
  cases rec.member? key with
  | none =>
      simpa using Ne.symm nonEmpty
  | some value =>
      cases value with
      | string found => simp [Json.asString?]
      | _ => simpa [Json.asString?] using Ne.symm nonEmpty

theorem entryOf?_eq_some_iff {row : Json} {entry : MagicEmitPrivilegeEntry} :
    entryOf? row = some entry ↔
      isObject row = true ∧ textOf row (js "agent_id") ≠ [] ∧
        textOf row (js "zone_id") ≠ [] ∧
        entry =
          { agentId := textOf row (js "agent_id")
            zoneId := textOf row (js "zone_id")
            grantedAt := textOf row (js "granted_at")
            magics := magicsOf row } := by
  unfold entryOf?
  cases isObject row with
  | false =>
      simp
  | true =>
      by_cases nameless : textOf row (js "agent_id") = [] ∨
          textOf row (js "zone_id") = []
      · simp [nameless]
        tauto
      · rw [not_or] at nameless
        simp [nameless, eq_comm]

/-- A row gives an entry of an agent exactly where it names the agent and a
zone. -/
theorem entryOf?_agent_iff {row : Json} {agentId : JsString}
    (nonEmpty : agentId ≠ []) :
    (∃ entry, entryOf? row = some entry ∧ entry.agentId = agentId) ↔
      row.member? (js "agent_id") = some (.string agentId) ∧
        ∃ zoneId, row.member? (js "zone_id") = some (.string zoneId) ∧
          zoneId ≠ [] := by
  constructor
  · rintro ⟨entry, accepted, named⟩
    obtain ⟨_, _, zoneNonEmpty, entryEq⟩ := entryOf?_eq_some_iff.mp accepted
    rw [entryEq] at named
    exact ⟨(textOf_eq_iff nonEmpty).mp named, textOf row (js "zone_id"),
      (textOf_eq_iff zoneNonEmpty).mp rfl, zoneNonEmpty⟩
  · rintro ⟨hasAgent, zoneId, hasZone, zoneNonEmpty⟩
    have agentText := (textOf_eq_iff nonEmpty).mpr hasAgent
    have zoneText := (textOf_eq_iff zoneNonEmpty).mpr hasZone
    exact ⟨_, entryOf?_eq_some_iff.mpr
      ⟨isObject_of_member hasAgent, agentText ▸ nonEmpty,
        zoneText ▸ zoneNonEmpty, rfl⟩, agentText⟩

theorem grantsOf_agent_iff (snapshot : Json) {agentId : JsString}
    (nonEmpty : agentId ≠ []) :
    (∃ entry ∈ grantsOf snapshot, entry.agentId = agentId) ↔
      HasGrantRow snapshot agentId := by
  constructor
  · rintro ⟨entry, member, named⟩
    rw [grantsOf] at member
    split at member
    · cases member
    · rename_i cfg usable
      split at member
      · rename_i raw privileges
        obtain ⟨row, isRow, accepted⟩ := List.mem_filterMap.mp member
        obtain ⟨hasAgent, zoneId, hasZone, zoneNonEmpty⟩ :=
          (entryOf?_agent_iff nonEmpty).mp ⟨entry, accepted, named⟩
        exact ⟨cfg, raw, row, zoneId,
          (objectMember?_eq_some_iff.mp usable).1, privileges, isRow,
          hasAgent, hasZone, zoneNonEmpty⟩
      · cases member
  · rintro ⟨cfg, raw, row, zoneId, config, privileges, isRow, hasAgent,
      hasZone, zoneNonEmpty⟩
    obtain ⟨entry, accepted, named⟩ := (entryOf?_agent_iff nonEmpty).mpr
      ⟨hasAgent, zoneId, hasZone, zoneNonEmpty⟩
    have usable : objectMember? snapshot (js "config") = some cfg :=
      objectMember?_eq_some_iff.mpr ⟨config, isObject_of_member privileges⟩
    refine ⟨entry, ?_, named⟩
    rw [grantsOf, usable]
    simp only [privileges]
    exact List.mem_filterMap.mpr ⟨row, isRow, accepted⟩

theorem hasGrant_iff (registry : PrivilegeRegistry) (agentId : JsString) :
    registry.hasGrant agentId = true ↔
      agentId ≠ [] ∧ ∃ entry ∈ registry.list, entry.agentId = agentId := by
  rw [PrivilegeRegistry.hasGrant]
  by_cases isEmpty : agentId = []
  · simp [isEmpty]
  · simp [isEmpty, PrivilegeRegistry.list]

/-- After every stream of payloads the registry holds what its last snapshot
grants: its list depends on that snapshot alone, it knows a grant of an agent
exactly where the agent has a name and the snapshot a row for it, and a further
payload is announced exactly where it changes the list. -/
theorem privileges_follow_lastSnapshot {Version : Type*}
    (payloads : List (NotebookMetadataPayload Version)) :
    (PrivilegeRegistry.initial.observe payloads).list =
        ((lastSnapshot? payloads).map grantsOf).getD [] ∧
      (∀ agentId : JsString,
        (PrivilegeRegistry.initial.observe payloads).hasGrant agentId =
            true ↔
          agentId ≠ [] ∧ ∃ snapshot, lastSnapshot? payloads = some snapshot ∧
            HasGrantRow snapshot agentId) ∧
      ∀ payload : NotebookMetadataPayload Version,
        ((PrivilegeRegistry.initial.observe
            (payloads ++ [payload])).changes =
          if (PrivilegeRegistry.initial.observe
                (payloads ++ [payload])).list =
              (PrivilegeRegistry.initial.observe payloads).list then
            (PrivilegeRegistry.initial.observe payloads).changes
          else
            (PrivilegeRegistry.initial.observe payloads).changes + 1) := by
  have listed := list_observe payloads
  refine ⟨listed, fun agentId => ?_, fun payload => ?_⟩
  · rw [hasGrant_iff, listed]
    refine and_congr_right fun nonEmpty => ?_
    cases lastSnapshot? payloads with
    | none =>
        simp
    | some snapshot =>
        simpa using grantsOf_agent_iff snapshot nonEmpty
  · have appended : PrivilegeRegistry.initial.observe (payloads ++ [payload]) =
        (PrivilegeRegistry.initial.observe payloads).onNotebookMetadata
          payload :=
      List.foldl_concat _ _ _ _
    rw [appended]
    exact PrivilegeRegistry.onNotebookMetadata_changes _ payload

/-- A row for the agent whose name is the empty string. -/
def namelessGrant : Json :=
  .object
    [(js "config", .object
      [(js "magic_emit_privileges", .array
        [.object
          [(js "agent_id", .string []), (js "zone_id", .string (js "z"))]])])]

/-- The registry knows no grant of the empty name, although the snapshot has a
row for it. -/
theorem namelessGrant_isNoGrant :
    ¬ ((PrivilegeRegistry.initial.observe
        [({ mode := some (.string (js "snapshot"))
            snapshotVersion := some 1
            snapshot := some namelessGrant } :
          NotebookMetadataPayload Nat)]).hasGrant [] = true ↔
      HasGrantRow namelessGrant []) := by
  intro claimed
  have row : HasGrantRow namelessGrant [] :=
    ⟨_, _, _, js "z", rfl, rfl, List.mem_singleton_self _, rfl, rfl,
      by decide⟩
  have granted := claimed.mpr row
  cases granted

end RtsNotebook.Notebook.HeaderChips
