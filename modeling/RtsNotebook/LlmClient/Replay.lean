import RtsNotebook.Library.Lookups
import RtsNotebook.LlmClient.Live

/-!
# Replaying a recording

`_run_replay_mode`, on the entries that the lines of a recording decode to.  A
line is written by `json.dumps` and read by `json.loads`, which give back the
value.
-/

namespace RtsNotebook.LlmClient

open RtsNotebook.Python
open RtsNotebook.Library (lookup_cons_eq)

/-- What ends a replay: `ReplayMismatchError`, or another exception. -/
inductive ReplayStop where
  | mismatch
  | raised
  deriving DecidableEq, Repr

/-- An exception of another kind. -/
def otherwise {Value : Type} (call : Except Stop Value) :
    Except ReplayStop Value :=
  call.mapError fun _ => .raised

/-- The records of a notebook and the variables of a loop over them. -/
structure CellOutcomes where
  cells : List (PyString × PyJson)
  succeeded : List PyJson
  failed : List PyJson

/-- A notebook with what a run without a kernel returns beside it. -/
structure HeadlessResult where
  notebook : List (PyString × PyJson)
  succeeded : List PyJson
  failed : List PyJson

/-! ### The notebook -/

/-- The records of a notebook and `ordered_ids`. -/
def walkNotebook (layoutWalkIds : PyJson → List PyString)
    (notebook : List (PyString × PyJson)) :
    Except Stop (List (PyString × PyJson) × List PyString) := do
  let metadata ← (getD notebook (py "metadata") (.dict [])).items?
  let rts ← (getD metadata (py "rts") (.dict [])).items?
  let cells ← cellRecords rts
  let ids ← orderedCellIds layoutWalkIds rts cells
  pure (cells, ids)

/-- A change of the value at a key, where there is one. -/
def modifyItem (key : PyString) (change : PyJson → PyJson) :
    List (PyString × PyJson) → List (PyString × PyJson)
  | [] => []
  | item :: rest =>
      if item.1 = key then (key, change item.2) :: rest
      else item :: modifyItem key change rest

/-- A change of the items of a dictionary. -/
def modifyItems
    (change : List (PyString × PyJson) → List (PyString × PyJson)) :
    PyJson → PyJson
  | .dict items => .dict (change items)
  | value => value

/-- The records are objects of the notebook, so that what is written to them
shows there.  `or {}` gives new ones where the notebook has none. -/
def storeCells (cells : List (PyString × PyJson)) :
    List (PyString × PyJson) → List (PyString × PyJson) :=
  modifyItem (py "metadata") (modifyItems
    (modifyItem (py "rts") (modifyItems
      (modifyItem (py "cells") fun found =>
        if found.truthy then .dict cells else found))))

/-- `record["outputs"] = outputs`, where the payload has a list of them and
the cell has a record. -/
def persistOutputs (cells : List (PyString × PyJson)) (cell : PyString)
    (payload : List (PyString × PyJson)) : List (PyString × PyJson) :=
  match (get payload (py "outputs")).orElse (.list []),
      get cells cell with
  | .list outputs, .dict record =>
      setItem cell (.dict (setItem (py "outputs") (.list outputs) record))
        cells
  | _, _ => cells

/-- `payload.get("status", "ok") == "ok"` -/
def readsOk (payload : List (PyString × PyJson)) : Bool :=
  (getD payload (py "status") (.str (py "ok"))).isStr (py "ok")

/-- What the payload of the received frame says about a cell. -/
def CellOutcomes.settle (outcomes : CellOutcomes) (cell : PyString)
    (received : PyJson) (payload : List (PyString × PyJson)) :
    CellOutcomes :=
  if readsOk payload then
    { outcomes with
      cells := persistOutputs outcomes.cells cell payload
      succeeded := outcomes.succeeded ++ [received] }
  else
    { outcomes with failed := outcomes.failed ++ [received] }

/-! ### The recording -/

/-- `entry.get("sent", {}).get("payload") or {}`, on which `get` is called. -/
def sentPayload (entry : PyJson) : Except Stop (List (PyString × PyJson)) := do
  let items ← entry.items?
  let sent ← (getD items (py "sent") (.dict [])).items?
  replyPayload sent

/-- `received` and its payload. -/
def receivedPayload (entry : PyJson) :
    Except Stop (PyJson × List (PyString × PyJson)) := do
  let items ← entry.items?
  let received := getD items (py "received") (.dict [])
  let receivedItems ← received.items?
  let payload ← replyPayload receivedItems
  pure (received, payload)

/-- The recorded `cell_id` is neither `None` nor that of the cell. -/
def isOtherCell (cell : PyString) (payload : List (PyString × PyJson)) :
    Bool :=
  match get payload (py "cell_id") with
  | .none => false
  | recorded => !recorded.isStr cell

/-- An entry of the recording, matched with a cell. -/
def readEntry (cell : PyString) (entry : PyJson) :
    Except ReplayStop (PyJson × List (PyString × PyJson)) := do
  let sent ← otherwise (sentPayload entry)
  if isOtherCell cell sent then
    .error .mismatch
  else
    otherwise (receivedPayload entry)

/-- The loop over the cells and the entries. -/
def replayEntries :
    List (PyString × PyJson) → CellOutcomes →
      Except ReplayStop CellOutcomes
  | [], outcomes => .ok outcomes
  | (cell, entry) :: rest, outcomes => do
      let (received, payload) ← readEntry cell entry
      replayEntries rest (outcomes.settle cell received payload)

/-- `_run_replay_mode` -/
def runReplayMode (layoutWalkIds : PyJson → List PyString)
    (notebook : List (PyString × PyJson)) (entries : List PyJson) :
    Except ReplayStop HeadlessResult := do
  let (cells, ids) ← otherwise (walkNotebook layoutWalkIds notebook)
  if entries.length ≠ ids.length then
    .error .mismatch
  else do
    let outcomes ← replayEntries (ids.zip entries)
      { cells := cells, succeeded := [], failed := [] }
    pure
      { notebook := storeCells outcomes.cells notebook
        succeeded := outcomes.succeeded
        failed := outcomes.failed }

/-! ### Items -/

theorem lookup_setItem (key : PyString) (value : PyJson)
    (items : List (PyString × PyJson)) (other : PyString) :
    (setItem key value items).lookup other =
      if other = key then some value else items.lookup other := by
  induction items with
  | nil =>
      exact lookup_cons_eq other (key, value) []
  | cons item rest inductionHypothesis =>
      obtain ⟨first, held⟩ := item
      unfold setItem
      by_cases isKey : first = key
      · subst isKey
        by_cases isOther : other = first <;>
          simp [lookup_cons_eq, isOther]
      · rw [if_neg isKey, lookup_cons_eq, lookup_cons_eq, inductionHypothesis]
        by_cases isOther : other = key
        · subst isOther
          simp [Ne.symm isKey]
        · simp [isOther]

theorem setItem_self
    {key : PyString} {value : PyJson} {items : List (PyString × PyJson)}
    (holds : items.lookup key = some value) :
    setItem key value items = items := by
  induction items with
  | nil => cases holds
  | cons item rest inductionHypothesis =>
      obtain ⟨first, held⟩ := item
      rw [lookup_cons_eq] at holds
      unfold setItem
      by_cases isKey : first = key
      · rw [if_pos isKey.symm] at holds
        cases holds
        simp [isKey]
      · rw [if_neg (Ne.symm isKey)] at holds
        simp [isKey, inductionHypothesis holds]

theorem keys_setItem
    {key : PyString} {value held : PyJson} {items : List (PyString × PyJson)}
    (isKey : items.lookup key = some held) :
    (setItem key value items).map Prod.fst = items.map Prod.fst := by
  induction items with
  | nil => cases isKey
  | cons item rest inductionHypothesis =>
      obtain ⟨first, found⟩ := item
      rw [lookup_cons_eq] at isKey
      unfold setItem
      by_cases here : first = key
      · simp [here]
      · rw [if_neg (Ne.symm here)] at isKey
        simp [here, inductionHypothesis isKey]

theorem lookup_modifyItem (key : PyString) (change : PyJson → PyJson)
    (items : List (PyString × PyJson)) (other : PyString) :
    (modifyItem key change items).lookup other =
      if other = key then (items.lookup other).map change
      else items.lookup other := by
  induction items with
  | nil =>
      simp [modifyItem]
  | cons item rest inductionHypothesis =>
      obtain ⟨first, held⟩ := item
      unfold modifyItem
      by_cases isKey : first = key
      · subst isKey
        by_cases isOther : other = first <;> simp [lookup_cons_eq, isOther]
      · rw [if_neg isKey, lookup_cons_eq, lookup_cons_eq, inductionHypothesis]
        by_cases isOther : other = key
        · subst isOther
          simp [Ne.symm isKey]
        · simp [isOther]

theorem modifyItem_twice
    {key : PyString} {change : PyJson → PyJson}
    (settled : ∀ value, change (change value) = change value)
    (items : List (PyString × PyJson)) :
    modifyItem key change (modifyItem key change items) =
      modifyItem key change items := by
  induction items with
  | nil => rfl
  | cons item rest inductionHypothesis =>
      unfold modifyItem
      by_cases isKey : item.1 = key
      · simp [modifyItem, isKey, settled]
      · simp [modifyItem, isKey, inductionHypothesis]

theorem modifyItems_twice
    {change : List (PyString × PyJson) → List (PyString × PyJson)}
    (settled : ∀ items, change (change items) = change items)
    (value : PyJson) :
    modifyItems change (modifyItems change value) =
      modifyItems change value := by
  cases value with
  | dict items => exact congrArg PyJson.dict (settled items)
  | _ => rfl

theorem storeCells_storeCells (cells notebook : List (PyString × PyJson)) :
    storeCells cells (storeCells cells notebook) =
      storeCells cells notebook := by
  refine modifyItem_twice (modifyItems_twice ?_) notebook
  refine modifyItem_twice (modifyItems_twice ?_)
  refine modifyItem_twice fun found => ?_
  by_cases full : found.truthy = true <;> simp [full]

theorem getD_modifyItem_self
    {key : PyString} {change : PyJson → PyJson}
    {items : List (PyString × PyJson)} {default : PyJson}
    (keeps : change default = default) :
    getD (modifyItem key change items) key default =
      change (getD items key default) := by
  unfold getD
  rw [lookup_modifyItem, if_pos rfl]
  cases items.lookup key with
  | none => exact keeps.symm
  | some held => rfl

theorem getD_modifyItem_of_ne
    {key other : PyString} {change : PyJson → PyJson}
    {items : List (PyString × PyJson)} {default : PyJson}
    (different : other ≠ key) :
    getD (modifyItem key change items) other default =
      getD items other default := by
  unfold getD
  rw [lookup_modifyItem, if_neg different]

theorem items_modifyItem
    {key : PyString}
    (change : List (PyString × PyJson) → List (PyString × PyJson))
    {items inner : List (PyString × PyJson)}
    (hasInner : (getD items key (.dict [])).items? = .ok inner)
    (keeps : change [] = []) :
    (getD (modifyItem key (modifyItems change) items) key
      (.dict [])).items? = .ok (change inner) := by
  have changed : getD (modifyItem key (modifyItems change) items) key
      (.dict []) = modifyItems change (getD items key (.dict [])) :=
    getD_modifyItem_self (congrArg PyJson.dict keeps)
  rw [changed]
  cases found : getD items key (.dict []) with
  | dict held =>
      rw [found] at hasInner
      cases hasInner
      rfl
  | _ =>
      rw [found] at hasInner
      cases hasInner

/-- The walk over a notebook in which the records of the same cells are
stored. -/
theorem walkNotebook_storeCells
    {layoutWalkIds : PyJson → List PyString}
    {notebook cells stored : List (PyString × PyJson)} {ids : List PyString}
    (walked : walkNotebook layoutWalkIds notebook = .ok (cells, ids))
    (sameKeys : stored.map Prod.fst = cells.map Prod.fst) :
    walkNotebook layoutWalkIds (storeCells stored notebook) =
      .ok (stored, ids) := by
  unfold walkNotebook at walked
  obtain ⟨metadata, hasMetadata, walked⟩ := ok_of_bind walked
  obtain ⟨rts, hasRts, walked⟩ := ok_of_bind walked
  obtain ⟨found, hasCells, walked⟩ := ok_of_bind walked
  obtain ⟨order, hasOrder, walked⟩ := ok_of_bind walked
  cases walked
  let atCells : PyJson → PyJson := fun value =>
    if value.truthy then .dict stored else value
  have storedCells : cellRecords (modifyItem (py "cells") atCells rts) =
      .ok stored := by
    unfold cellRecords at hasCells ⊢
    rw [getD_modifyItem_self rfl]
    by_cases full : (getD rts (py "cells") (.dict [])).truthy = true
    · have isStored : atCells (getD rts (py "cells") (.dict [])) =
          .dict stored := if_pos full
      rw [isStored]
      cases stored <;> rfl
    · -- There are no records, and nothing is stored.
      have isFound : atCells (getD rts (py "cells") (.dict [])) =
          getD rts (py "cells") (.dict []) := if_neg full
      have noRecords : (getD rts (py "cells") (.dict [])).orElse (.dict []) =
          .dict [] := if_neg full
      rw [noRecords] at hasCells
      cases hasCells
      rw [isFound, noRecords, List.map_eq_nil_iff.mp sameKeys]
      rfl
  have storedOrder : orderedCellIds layoutWalkIds
      (modifyItem (py "cells") atCells rts) stored = .ok ids := by
    unfold orderedCellIds orderedIds at hasOrder ⊢
    rw [getD_modifyItem_of_ne (by decide), sameKeys]
    exact hasOrder
  have storedRts := items_modifyItem (modifyItem (py "cells") atCells) hasRts
    rfl
  have storedMetadata := items_modifyItem
    (modifyItem (py "rts")
      (modifyItems (modifyItem (py "cells") atCells))) hasMetadata rfl
  refine (bind_of_ok storedMetadata _).trans ?_
  refine (bind_of_ok storedRts _).trans ?_
  refine (bind_of_ok storedCells _).trans ?_
  exact bind_of_ok storedOrder _

/-! ### Outputs -/

theorem lookup_of_get_dict
    {items record : List (PyString × PyJson)} {key : PyString}
    (found : get items key = .dict record) :
    items.lookup key = some (.dict record) := by
  unfold Python.get getD at found
  cases held : items.lookup key with
  | none =>
      rw [held] at found
      cases found
  | some value =>
      rw [held] at found
      exact congrArg some found

theorem get_setItem (key : PyString) (value : PyJson)
    (items : List (PyString × PyJson)) (other : PyString) :
    get (setItem key value items) other =
      if other = key then value else get items other := by
  unfold Python.get getD
  rw [lookup_setItem]
  split <;> rfl

/-- The outputs of the payload are those of the record. -/
def Persisted (cells : List (PyString × PyJson)) (cell : PyString)
    (payload : List (PyString × PyJson)) : Prop :=
  ∀ outputs record,
    (get payload (py "outputs")).orElse (.list []) = .list outputs →
    get cells cell = .dict record →
    record.lookup (py "outputs") = some (.list outputs)

theorem persistOutputs_eq_self
    {cells : List (PyString × PyJson)} {cell : PyString}
    {payload : List (PyString × PyJson)}
    (persisted : Persisted cells cell payload) :
    persistOutputs cells cell payload = cells := by
  unfold persistOutputs
  split
  · rename_i outputs record hasOutputs hasRecord
    rw [setItem_self (persisted outputs record hasOutputs hasRecord)]
    exact setItem_self (lookup_of_get_dict hasRecord)
  · rfl

theorem persistOutputs_cases
    (cells : List (PyString × PyJson)) (cell : PyString)
    (payload : List (PyString × PyJson)) :
    persistOutputs cells cell payload = cells ∨
      ∃ outputs record,
        (get payload (py "outputs")).orElse (.list []) = .list outputs ∧
        get cells cell = .dict record ∧
        persistOutputs cells cell payload =
          setItem cell
            (.dict (setItem (py "outputs") (.list outputs) record)) cells := by
  unfold persistOutputs
  split
  · rename_i outputs record hasOutputs hasRecord
    exact Or.inr ⟨outputs, record, hasOutputs, hasRecord, rfl⟩
  · exact Or.inl rfl

theorem keys_persistOutputs
    (cells : List (PyString × PyJson)) (cell : PyString)
    (payload : List (PyString × PyJson)) :
    (persistOutputs cells cell payload).map Prod.fst =
      cells.map Prod.fst := by
  rcases persistOutputs_cases cells cell payload with
    same | ⟨outputs, record, _, hasRecord, stored⟩
  · rw [same]
  · rw [stored]
    exact keys_setItem (lookup_of_get_dict hasRecord)

theorem persisted_persistOutputs
    (cells : List (PyString × PyJson)) (cell : PyString)
    (payload : List (PyString × PyJson)) :
    Persisted (persistOutputs cells cell payload) cell payload := by
  intro outputs record hasOutputs hasRecord
  unfold persistOutputs at hasRecord
  rw [hasOutputs] at hasRecord
  split at hasRecord
  · rename_i found held foundOutputs _
    cases foundOutputs
    rw [get_setItem, if_pos rfl] at hasRecord
    cases hasRecord
    rw [lookup_setItem, if_pos rfl]
  · rename_i noRecord
    exact absurd hasRecord (noRecord outputs record rfl)

/-! ### Recordings that do not fit -/

/-- `value == number`, for a value that was read from JSON. -/
def equalsNat (number : Nat) : PyJson → Bool
  | .bool value => value.toNat = number
  | .int value => value = number
  | .float (.finite decimal) =>
      decimal.digits * 10 ^ decimal.exponent.toNat = number &&
        0 ≤ decimal.exponent && (!decimal.negative || decimal.digits = 0)
  | _ => false

/-- The entry has a `cell_id` or an `ordinal`, and it is not that of the
position. -/
def EntryDrifts (position : Nat) (cell : PyString) (entry : PyJson) : Prop :=
  ∃ sent, sentPayload entry = .ok sent ∧
    ((∃ recorded, sent.lookup (py "cell_id") = some recorded ∧
        recorded.isStr cell = false) ∨
      ∃ recorded, sent.lookup (py "ordinal") = some recorded ∧
        equalsNat position recorded = false)

/-- Some entry differs from the position that it is matched with. -/
def Drifts (ids : List PyString) (entries : List PyJson) : Prop :=
  ∃ position cell entry, ids[position]? = some cell ∧
    entries[position]? = some entry ∧ EntryDrifts position cell entry

/-- The number of entries is not that of the cells, or an entry is of another
cell and those before it can be read. -/
def Caught (ids : List PyString) (entries : List PyJson) : Prop :=
  entries.length ≠ ids.length ∨
    ∃ before cell entry after sent,
      ids.zip entries = before ++ (cell, entry) :: after ∧
      (∀ earlier ∈ before, ∃ read,
        readEntry earlier.1 earlier.2 = .ok read) ∧
      sentPayload entry = .ok sent ∧ isOtherCell cell sent = true

theorem otherwise_ne_mismatch {Value : Type} (call : Except Stop Value) :
    otherwise call ≠ .error .mismatch := by
  cases call <;> simp [otherwise, Except.mapError]

theorem otherwise_eq_ok {Value : Type} {call : Except Stop Value}
    {value : Value} : otherwise call = .ok value ↔ call = .ok value := by
  cases call <;> simp [otherwise, Except.mapError]

theorem readEntry_mismatch_iff {cell : PyString} {entry : PyJson} :
    readEntry cell entry = .error .mismatch ↔
      ∃ sent, sentPayload entry = .ok sent ∧
        isOtherCell cell sent = true := by
  unfold readEntry
  cases hasSent : sentPayload entry with
  | error stop =>
      simp [otherwise, Except.mapError, bind, Except.bind]
  | ok sent =>
      rw [bind_of_ok (otherwise_eq_ok.mpr rfl)]
      by_cases other : isOtherCell cell sent = true
      · simp [other]
      · simp [other, otherwise_ne_mismatch]

theorem replayEntries_mismatch_iff
    {pairs : List (PyString × PyJson)} (outcomes : CellOutcomes) :
    replayEntries pairs outcomes = .error .mismatch ↔
      ∃ before cell entry after sent,
        pairs = before ++ (cell, entry) :: after ∧
        (∀ earlier ∈ before, ∃ read,
          readEntry earlier.1 earlier.2 = .ok read) ∧
        sentPayload entry = .ok sent ∧ isOtherCell cell sent = true := by
  induction pairs generalizing outcomes with
  | nil =>
      simp [replayEntries]
  | cons pair rest inductionHypothesis =>
      obtain ⟨cell, entry⟩ := pair
      unfold replayEntries
      constructor
      · intro stopped
        cases read : readEntry cell entry with
        | error stop =>
            rw [read] at stopped
            cases stopped
            obtain ⟨sent, hasSent, other⟩ := readEntry_mismatch_iff.mp read
            exact ⟨[], cell, entry, rest, sent, rfl, by simp, hasSent, other⟩
        | ok value =>
            rw [bind_of_ok read] at stopped
            obtain ⟨before, found, foundEntry, after, sent, split, readable,
              hasSent, other⟩ := (inductionHypothesis _).mp stopped
            refine ⟨(cell, entry) :: before, found, foundEntry, after, sent,
              by rw [split]; rfl, ?_, hasSent, other⟩
            intro earlier member
            rcases List.mem_cons.mp member with rfl | inBefore
            · exact ⟨value, read⟩
            · exact readable earlier inBefore
      · rintro ⟨before, found, foundEntry, after, sent, split, readable,
          hasSent, other⟩
        cases before with
        | nil =>
            cases split
            rw [readEntry_mismatch_iff.mpr ⟨sent, hasSent, other⟩]
            rfl
        | cons first before =>
            cases split
            obtain ⟨value, read⟩ := readable _ List.mem_cons_self
            rw [bind_of_ok read]
            exact (inductionHypothesis _).mpr ⟨before, found, foundEntry, after,
              sent, rfl,
              fun earlier member =>
                readable earlier (List.mem_cons_of_mem _ member),
              hasSent, other⟩

/-- The replay raises `ReplayMismatchError` where the recording is caught. -/
theorem runReplayMode_mismatch_iff
    {layoutWalkIds : PyJson → List PyString}
    {notebook cells : List (PyString × PyJson)} {ids : List PyString}
    {entries : List PyJson}
    (walked : walkNotebook layoutWalkIds notebook = .ok (cells, ids)) :
    runReplayMode layoutWalkIds notebook entries = .error .mismatch ↔
      Caught ids entries := by
  unfold runReplayMode Caught
  rw [bind_of_ok (otherwise_eq_ok.mpr walked)]
  dsimp only
  by_cases sameLength : entries.length = ids.length
  · rw [if_neg (not_not.mpr sameLength)]
    simp only [ne_eq, sameLength, not_true, false_or]
    rw [← replayEntries_mismatch_iff
      { cells := cells, succeeded := [], failed := [] }]
    cases replayEntries (ids.zip entries)
        { cells := cells, succeeded := [], failed := [] } with
    | error stop =>
        constructor <;> intro stopped <;> cases stopped <;> rfl
    | ok outcomes =>
        constructor <;> intro stopped <;> cases stopped
  · rw [if_pos sameLength]
    simp [sameLength]

end RtsNotebook.LlmClient
