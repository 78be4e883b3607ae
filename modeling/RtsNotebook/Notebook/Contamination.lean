import RtsNotebook.Library.Lines
import RtsNotebook.Notebook.Snapshots

/-!
# Contaminated cells

`ContaminationRegistry`, and the badge and the promotion chips of a cell, which
are computed from its rows.  A snapshot is compared row by row with what the
registry holds, and of a contamination log only the length is compared.
-/

namespace RtsNotebook.Notebook.Contamination

open RtsNotebook.Library RtsNotebook.Js RtsNotebook.Messaging
open RtsNotebook.Notebook.MetadataApplier

/-- `RtsCellsSlot`; the entries of the log are taken as they come. -/
structure RtsCellsSlot where
  contaminated : Bool
  contaminationLog : List Json
  boundAgentId : Option JsString

/-- The row that an entry of the cells map gives. -/
def slotOf (raw : Json) : RtsCellsSlot where
  contaminated :=
    match raw.member? (js "contaminated") with
    | some (.bool value) => value
    | _ => false
  contaminationLog :=
    match raw.member? (js "contamination_log") with
    | some (.array log) => log
    | _ => []
  boundAgentId := (raw.member? (js "bound_agent_id")).bind Json.asString?

/-- None of the fields that are compared has changed. -/
def sameSlot (prev next : RtsCellsSlot) : Bool :=
  prev.contaminated == next.contaminated &&
    prev.contaminationLog.length == next.contaminationLog.length &&
    prev.boundAgentId == next.boundAgentId

/-- The row that an entry gives has the same shape under every id. -/
def rowOf (_ : JsString) (raw : Json) : RtsCellsSlot :=
  slotOf raw

/-- The loop over the entries, and the one that drops the rows which the
snapshot does not mention. -/
def absorbAll (byCellId : OrderedMap JsString RtsCellsSlot) (cells : Json) :
    TrackedMap JsString RtsCellsSlot :=
  let seenIds := objectEntries cells
  (seenIds.entries.foldl (absorb rowOf sameSlot) (.start byCellId)).retain
    seenIds.has

/-- The registry, and how often it has announced a change. -/
structure ContaminationRegistry where
  byCellId : OrderedMap JsString RtsCellsSlot
  changes : Nat

/-- `snapshot.cells`, where it is an object. -/
def cellsOf? {Version : Type*} (payload : NotebookMetadataPayload Version) :
    Option Json :=
  (snapshotOf? payload).bind fun snapshot =>
    objectMember? snapshot (js "cells")

namespace ContaminationRegistry

def initial : ContaminationRegistry where
  byCellId := .empty
  changes := 0

def get (registry : ContaminationRegistry) (cellId : JsString) :
    Option RtsCellsSlot :=
  registry.byCellId.get cellId

/-- `onNotebookMetadata` -/
def onNotebookMetadata {Version : Type*} (registry : ContaminationRegistry)
    (payload : NotebookMetadataPayload Version) : ContaminationRegistry :=
  match cellsOf? payload with
  | none => registry
  | some cells =>
      let after := absorbAll registry.byCellId cells
      { byCellId := after.map
        changes := registry.changes + if after.changed then 1 else 0 }

/-- The registry after a stream of payloads. -/
def observe {Version : Type*} (registry : ContaminationRegistry)
    (payloads : List (NotebookMetadataPayload Version)) :
    ContaminationRegistry :=
  payloads.foldl onNotebookMetadata registry

end ContaminationRegistry

/-! ### Badge and promotion chips -/

/-- `ContaminationBadge` -/
structure ContaminationBadge where
  cellId : JsString
  count : Nat
  text : JsString
  tail : List Json

/-- `formatBadgeText` -/
def formatBadgeText (count : Nat) : JsString :=
  js "⚠ contamination (" ++ natDigits count ++ js ")"

/-- `computeContaminationBadge`, from the ids under which a cell is looked
up. -/
def computeContaminationBadge (candidates : List JsString)
    (registry : ContaminationRegistry) : Option ContaminationBadge :=
  match candidates with
  | [] => none
  | id :: rest =>
      match registry.get id with
      | none => computeContaminationBadge rest registry
      | some slot =>
          if slot.contaminated then
            let log := slot.contaminationLog
            some
              { cellId := id
                count := log.length
                text := formatBadgeText log.length
                tail := log.drop (log.length - 3) }
          else
            computeContaminationBadge rest registry

/-- `K3L_PRIVILEGED_AGENT_STREAM_MAGIC` -/
def K3L_PRIVILEGED_AGENT_STREAM_MAGIC : JsString := js "K3L"

/-- `PromotionChip` -/
structure PromotionChip where
  cellId : JsString
  agentId : JsString
  line : Option Json
  text : JsString

/-- `truncate`, of a string. -/
def truncate (text : JsString) (max : Nat) : JsString :=
  if text.length ≤ max then text else text.take (max - 1) ++ js "…"

/-- `text.split(/\r?\n/)[0]` -/
def firstLine (text : JsString) : JsString :=
  match cutAt newline text with
  | some (line, _) => dropReturn line
  | none => text

/-- `formatPromotionChipText`, where `none` is the `TypeError` of a value that
has no `split`. -/
def formatPromotionChipText? (line : Option Json) : Option JsString :=
  let head? : Option JsString :=
    match line with
    | none => some []
    | some (.string text) => some (firstLine text)
    | some value => if value.truthy then none else some []
  head?.map fun head => js "↑ promote " ++ truncate head 32

/-- The loop over the log in `computePromotionChips`. -/
def promotionChipsOf? (cellId agentId : JsString) :
    List Json → Option (List PromotionChip)
  | [] => some []
  | entry :: log =>
      if (entry.member? (js "k_class")).bind Json.asString? =
          some K3L_PRIVILEGED_AGENT_STREAM_MAGIC then do
        let line := entry.member? (js "line")
        let text ← formatPromotionChipText? line
        let chips ← promotionChipsOf? cellId agentId log
        pure ({ cellId, agentId, line, text } :: chips)
      else
        promotionChipsOf? cellId agentId log

/-- `computePromotionChips` -/
def computePromotionChips? (candidates : List JsString)
    (contamination : ContaminationRegistry) (hasGrant : JsString → Bool) :
    Option (List PromotionChip) :=
  match candidates with
  | [] => some []
  | id :: rest =>
      match contamination.get id with
      | none => computePromotionChips? rest contamination hasGrant
      | some slot =>
          if !slot.contaminated then
            computePromotionChips? rest contamination hasGrant
          else
            match slot.boundAgentId with
            | none => some []
            | some agentId =>
                if agentId = [] ∨ hasGrant agentId = false then
                  some []
                else
                  promotionChipsOf? id agentId slot.contaminationLog

theorem computeContaminationBadge_congr (candidates : List JsString)
    {first second : ContaminationRegistry}
    (same : ∀ id, first.get id = second.get id) :
    computeContaminationBadge candidates first =
      computeContaminationBadge candidates second := by
  induction candidates with
  | nil =>
      rfl
  | cons id rest inductionHypothesis =>
      rw [computeContaminationBadge, computeContaminationBadge, same id,
        inductionHypothesis]

theorem computePromotionChips?_congr (candidates : List JsString)
    {first second : ContaminationRegistry} (hasGrant : JsString → Bool)
    (same : ∀ id, first.get id = second.get id) :
    computePromotionChips? candidates first hasGrant =
      computePromotionChips? candidates second hasGrant := by
  induction candidates with
  | nil =>
      rfl
  | cons id rest inductionHypothesis =>
      rw [computePromotionChips?, computePromotionChips?, same id,
        inductionHypothesis]

/-! ### The loops, one cell at a time -/

/-- After the loops a cell that the snapshot mentions has been compared with
its entry, and the others have no row. -/
theorem get_absorbAll (byCellId : OrderedMap JsString RtsCellsSlot)
    (cells : Json) (id : JsString) :
    (absorbAll byCellId cells).get id =
      ((objectEntries cells).get id).bind fun raw =>
        absorbed rowOf sameSlot id raw (byCellId.get id) := by
  rw [absorbAll, TrackedMap.get_retain, get_foldl_absorb, OrderedMap.has]
  cases (objectEntries cells).get id with
  | none => rfl
  | some raw => rfl

/-- A loop that announces nothing has left the rows as they were. -/
theorem absorbAll_unchanged {byCellId : OrderedMap JsString RtsCellsSlot}
    {cells : Json} (quiet : (absorbAll byCellId cells).changed = false) :
    (absorbAll byCellId cells).map = byCellId := by
  rw [absorbAll] at quiet ⊢
  have filed := (absorb_reports rowOf sameSlot).foldl
    (objectEntries cells).entries (.start byCellId)
  have dropped := TrackedMap.retain_reports
    ((objectEntries cells).entries.foldl (absorb rowOf sameSlot)
      (.start byCellId)) (objectEntries cells).has
  rcases dropped with kept | raised
  · rw [kept] at quiet ⊢
    rcases filed with same | raised
    · rw [same]
      rfl
    · rw [quiet] at raised
      cases raised
  · rw [quiet] at raised
    cases raised

namespace ContaminationRegistry

variable {Version : Type*}

theorem get_onNotebookMetadata (registry : ContaminationRegistry)
    (payload : NotebookMetadataPayload Version) (id : JsString) :
    (registry.onNotebookMetadata payload).get id =
      (cellsOf? payload).elim (registry.get id) fun cells =>
        ((objectEntries cells).get id).bind fun raw =>
          absorbed rowOf sameSlot id raw (registry.get id) := by
  unfold onNotebookMetadata
  cases cellsOf? payload with
  | none =>
      rfl
  | some cells =>
      exact get_absorbAll registry.byCellId cells id

theorem onNotebookMetadata_changes (registry : ContaminationRegistry)
    (payload : NotebookMetadataPayload Version) :
    (registry.onNotebookMetadata payload).changes = registry.changes ∨
      (registry.onNotebookMetadata payload).changes =
        registry.changes + 1 := by
  unfold onNotebookMetadata
  cases cellsOf? payload with
  | none =>
      exact Or.inl rfl
  | some cells =>
      cases changed : (absorbAll registry.byCellId cells).changed with
      | false => exact Or.inl (by simp [changed])
      | true => exact Or.inr (by simp [changed])

/-- A payload that is not announced changes no row. -/
theorem onNotebookMetadata_unchanged {registry : ContaminationRegistry}
    {payload : NotebookMetadataPayload Version}
    (quiet : (registry.onNotebookMetadata payload).changes =
      registry.changes) :
    (registry.onNotebookMetadata payload).byCellId = registry.byCellId := by
  unfold onNotebookMetadata at quiet ⊢
  cases found : cellsOf? payload with
  | none =>
      rfl
  | some cells =>
      simp only [found] at quiet ⊢
      apply absorbAll_unchanged
      cases changed : (absorbAll registry.byCellId cells).changed with
      | false =>
          rfl
      | true =>
          rw [changed, if_pos rfl] at quiet
          omega

end ContaminationRegistry

/-! ### The last snapshot -/

/-- The registry after a payload is the one that a fresh registry becomes by
that payload alone, and the payload is announced where it changes a row. -/
structure FollowsSnapshot {Version : Type*} (before : ContaminationRegistry)
    (payload : NotebookMetadataPayload Version) : Prop where
  rows : ∀ id, (before.onNotebookMetadata payload).get id =
    (ContaminationRegistry.initial.onNotebookMetadata payload).get id
  badges : ∀ candidates,
    computeContaminationBadge candidates (before.onNotebookMetadata payload) =
      computeContaminationBadge candidates
        (ContaminationRegistry.initial.onNotebookMetadata payload)
  chips : ∀ candidates hasGrant,
    computePromotionChips? candidates (before.onNotebookMetadata payload)
        hasGrant =
      computePromotionChips? candidates
        (ContaminationRegistry.initial.onNotebookMetadata payload) hasGrant
  announced : ∀ id,
    (before.onNotebookMetadata payload).get id ≠ before.get id →
      (before.onNotebookMetadata payload).changes = before.changes + 1

/-- A snapshot with a cells map replaces every row that the registry holds:
an entry for the row's cell is an object, and where it agrees with the row in
all that is compared it has the same log. -/
def ReplacesRows {Version : Type*} (before : ContaminationRegistry)
    (payload : NotebookMetadataPayload Version) : Prop :=
  ∀ id prev, before.get id = some prev →
    ∃ cells, cellsOf? payload = some cells ∧
      ∀ raw, (objectEntries cells).get id = some raw →
        isObject raw = true ∧
          (sameSlot prev (slotOf raw) = true →
            prev.contaminationLog = (slotOf raw).contaminationLog)

theorem sameSlot_iff (prev next : RtsCellsSlot) :
    (sameSlot prev next = true ∧
        prev.contaminationLog = next.contaminationLog) ↔ prev = next := by
  obtain ⟨contaminated, log, boundAgentId⟩ := prev
  obtain ⟨contaminated', log', boundAgentId'⟩ := next
  simp only [sameSlot, Bool.and_eq_true, beq_iff_eq, RtsCellsSlot.mk.injEq]
  constructor
  · rintro ⟨⟨⟨sameFlag, _⟩, sameAgent⟩, sameLog⟩
    exact ⟨sameFlag, sameLog, sameAgent⟩
  · rintro ⟨sameFlag, sameLog, sameAgent⟩
    exact ⟨⟨⟨sameFlag, congrArg List.length sameLog⟩, sameAgent⟩, sameLog⟩

/-- A row meets an entry as a missing row does exactly where the entry is an
object and has the row's log if it agrees with the row otherwise. -/
theorem absorbed_eq_fresh_iff (id : JsString) (raw : Json)
    (prev : RtsCellsSlot) :
    absorbed rowOf sameSlot id raw (some prev) =
        absorbed rowOf sameSlot id raw none ↔
      isObject raw = true ∧
        (sameSlot prev (slotOf raw) = true →
          prev.contaminationLog = (slotOf raw).contaminationLog) := by
  unfold absorbed rowOf
  cases isObject raw with
  | false =>
      simp
  | true =>
      cases same : sameSlot prev (slotOf raw) with
      | false =>
          simp [same]
      | true =>
          have rowIff := sameSlot_iff prev (slotOf raw)
          rw [same] at rowIff
          simpa [same] using rowIff.symm

theorem rows_iff_replacesRows {Version : Type*}
    (before : ContaminationRegistry)
    (payload : NotebookMetadataPayload Version) :
    (∀ id, (before.onNotebookMetadata payload).get id =
        (ContaminationRegistry.initial.onNotebookMetadata payload).get id) ↔
      ReplacesRows before payload := by
  have fresh : ∀ id, ContaminationRegistry.initial.get id = none :=
    fun _ => rfl
  refine forall_congr' fun id => ?_
  rw [ContaminationRegistry.get_onNotebookMetadata,
    ContaminationRegistry.get_onNotebookMetadata, fresh id]
  cases found : before.get id with
  | none =>
      simp
  | some prev =>
      cases cellsOf? payload with
      | none =>
          simp
      | some cells =>
          cases entry : (objectEntries cells).get id with
          | none => simp [entry]
          | some raw => simpa [entry] using absorbed_eq_fresh_iff id raw prev

/-- After a stream of payloads in snapshot mode the registry is what the last
one alone makes of it exactly where that one replaces every row held before. -/
theorem followsSnapshot_iff_replacesRows {Version : Type*}
    (earlier : List (NotebookMetadataPayload Version))
    (last : NotebookMetadataPayload Version) :
    FollowsSnapshot (ContaminationRegistry.initial.observe earlier) last ↔
      ReplacesRows (ContaminationRegistry.initial.observe earlier) last := by
  rw [← rows_iff_replacesRows]
  constructor
  · exact FollowsSnapshot.rows
  · intro rows
    refine
      { rows := rows
        badges := fun candidates =>
          computeContaminationBadge_congr candidates rows
        chips := fun candidates hasGrant =>
          computePromotionChips?_congr candidates hasGrant rows
        announced := ?_ }
    intro id changed
    rcases ContaminationRegistry.onNotebookMetadata_changes
      (ContaminationRegistry.initial.observe earlier) last with quiet | fired
    · have same := ContaminationRegistry.onNotebookMetadata_unchanged quiet
      rw [ContaminationRegistry.get, same] at changed
      exact absurd rfl changed
    · exact fired

/-- A snapshot payload with one cell that is contaminated by one line. -/
def oneLinePayload (line : JsString) : NotebookMetadataPayload Nat where
  mode := some (.string (js "snapshot"))
  snapshotVersion := some 1
  snapshot := some (.object
    [(js "cells", .object
      [(js "c", .object
        [(js "contaminated", .bool true),
          (js "contamination_log", .array
            [.object
              [(js "line", .string line),
                (js "k_class", .string (js "K3L"))]]),
          (js "bound_agent_id", .string (js "a"))])])])

/-- The registry keeps the line of the first snapshot, because both logs have
one entry. -/
theorem changedLine_isMissed :
    ¬ FollowsSnapshot
        (ContaminationRegistry.initial.observe
          [oneLinePayload (js "@pin")])
        (oneLinePayload (js "@exclude")) := by
  intro follows
  have replaces :=
    (rows_iff_replacesRows _ _).mp follows.rows (js "c") _ rfl
  obtain ⟨cells, carried, entries⟩ := replaces
  cases carried
  have sameLog := (entries _ rfl).2 rfl
  cases sameLog

end RtsNotebook.Notebook.Contamination
