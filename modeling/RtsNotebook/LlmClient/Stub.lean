import RtsNotebook.LlmClient.Replay

/-!
# Stub runs

`_run_stub_mode` and the registry of canned responses.  SHA-256 is a parameter,
of which nothing is assumed.  The notebook that the run writes is the one it
returns.
-/

namespace RtsNotebook.LlmClient

open RtsNotebook.Python

/-! ### The registry -/

/-- `_REGISTRY` once the directory is loaded. -/
structure StubRegistry where
  responses : List (PyString × List (PyString × PyJson))
  /-- `hashlib.sha256(text.encode("utf-8")).hexdigest()` -/
  sha256Hex : PyString → PyString

/-- `DEFAULT_NOOP_RESPONSE` -/
def defaultNoopResponse : List (PyString × PyJson) :=
  [(py "type", .str (py "operator.action")),
    (py "payload", .dict
      [(py "kind", .str (py "run.complete")),
        (py "status", .str (py "ok")),
        (py "outputs", .list [])])]

/-- `(value or "")`, to which a string is added. -/
def orEmpty (value : PyJson) : Except Stop PyString :=
  match value.orElse (.str []) with
  | .str text => .ok text
  | _ => .error .raised

/-- The code points that `encode("utf-8")` refuses. -/
def isSurrogate (codePoint : Nat) : Bool :=
  0xD800 ≤ codePoint ∧ codePoint ≤ 0xDFFF

/-- `stub_key` -/
def stubKey (registry : StubRegistry) (kind text agentId : PyJson) :
    Except Stop PyString := do
  let cellKind ← orEmpty kind
  let cellText ← orEmpty text
  let agent ← orEmpty agentId
  let payload := cellKind ++ [0] ++ cellText ++ [0] ++ agent
  if payload.any isSurrogate then
    .error .raised
  else
    pure ((registry.sha256Hex payload).take 16)

/-- `lookup_stub` -/
def lookupStub (registry : StubRegistry) (kind text agentId : PyJson) :
    Except Stop (List (PyString × PyJson)) := do
  let key ← stubKey registry kind text agentId
  pure ((registry.responses.lookup key).getD defaultNoopResponse)

/-- `_stamp_cell_response`; nothing but a dictionary takes the stamp. -/
def stampCellResponse (response : List (PyString × PyJson))
    (cellId : PyString) (ordinal : Nat) :
    Except Stop (List (PyString × PyJson)) := do
  let payload ← (getD response (py "payload") (.dict [])).items?
  pure
    (setItem (py "payload")
      (.dict
        (setItem (py "ordinal") (.int ordinal)
          (setItem (py "cell_id") (.str cellId) payload)))
      response)

/-! ### The run -/

/-- The frame that stands for the start of a cell. -/
def runStart (cellId : PyString) (ordinal : Nat) (kind agentId : PyJson)
    (key : PyString) : PyJson :=
  .dict
    [(py "type", .str (py "operator.action")),
      (py "payload", .dict
        [(py "kind", .str (py "run.start")),
          (py "cell_id", .str cellId),
          (py "ordinal", .int ordinal),
          (py "cell_kind", kind),
          (py "agent_id", agentId),
          (py "stub_key", .str key)])]

def recordText (record : List (PyString × PyJson)) : PyJson :=
  (getD record (py "text") (.str [])).orElse (.str [])

def recordKind (record : List (PyString × PyJson)) : PyJson :=
  (get record (py "kind")).orElse (.str (py "agent"))

def recordAgent (record : List (PyString × PyJson)) : PyJson :=
  get record (py "bound_agent_id")

/-- What is sent and received for a cell. -/
def stubAnswer (registry : StubRegistry) (ordinal : Nat) (cellId : PyString)
    (record : List (PyString × PyJson)) :
    Except Stop (PyJson × List (PyString × PyJson)) := do
  let text := recordText record
  let kind := recordKind record
  let agentId := recordAgent record
  let key ← stubKey registry kind text agentId
  let canned ← lookupStub registry kind text agentId
  let received ← stampCellResponse canned cellId ordinal
  pure (runStart cellId ordinal kind agentId key, received)

structure StubState where
  outcomes : CellOutcomes
  sentReceived : List PyJson

/-- The loop over the cells of the walk. -/
def stubCells (registry : StubRegistry) (recording : Bool) :
    Nat → List PyString → StubState → Except Stop StubState
  | _, [], state => .ok state
  | ordinal, cell :: remaining, state =>
      match get state.outcomes.cells cell with
      | .dict record => do
          let (sent, received) ← stubAnswer registry ordinal cell record
          let payload ← replyPayload received
          stubCells registry recording (ordinal + 1) remaining
            { outcomes := state.outcomes.settle cell (.dict received) payload
              sentReceived :=
                if recording then
                  state.sentReceived ++
                    [.dict [(py "sent", sent), (py "received", .dict received)]]
                else
                  state.sentReceived }
      | _ => stubCells registry recording (ordinal + 1) remaining state

/-- What `_run_stub_mode` returns, and the lines it has recorded. -/
structure StubResult extends HeadlessResult where
  recorded : Option (List PyJson)

/-- `_run_stub_mode` -/
def runStubMode (registry : StubRegistry)
    (layoutWalkIds : PyJson → List PyString) (recording : Bool)
    (notebook : List (PyString × PyJson)) : Except Stop StubResult := do
  let (cells, ids) ← walkNotebook layoutWalkIds notebook
  let state ← stubCells registry recording 0 ids
    { outcomes := { cells := cells, succeeded := [], failed := [] }
      sentReceived := [] }
  pure
    { notebook := storeCells state.outcomes.cells notebook
      succeeded := state.outcomes.succeeded
      failed := state.outcomes.failed
      recorded := if recording then some state.sentReceived else none }

section

variable {registry : StubRegistry} {ordinal : Nat} {cell other : PyString}
  {record received payload canned : List (PyString × PyJson)}
  {sent : PyJson} {cells : List (PyString × PyJson)}

/-! ### One answer -/

/-- The payload that the registry has for a record, before the stamp. -/
def cannedPayload (registry : StubRegistry)
    (record : List (PyString × PyJson)) :
    Except Stop (List (PyString × PyJson)) := do
  let canned ← lookupStub registry (recordKind record) (recordText record)
    (recordAgent record)
  (getD canned (py "payload") (.dict [])).items?

theorem cannedPayload_setItem (outputs : PyJson) :
    cannedPayload registry (setItem (py "outputs") outputs record) =
      cannedPayload registry record := by
  have sameText : recordText (setItem (py "outputs") outputs record) =
      recordText record := by
    unfold recordText getD
    rw [lookup_setItem, if_neg (by decide)]
  have sameKind : recordKind (setItem (py "outputs") outputs record) =
      recordKind record := by
    unfold recordKind
    rw [get_setItem, if_neg (by decide)]
  have sameAgent : recordAgent (setItem (py "outputs") outputs record) =
      recordAgent record := by
    unfold recordAgent
    rw [get_setItem, if_neg (by decide)]
  unfold cannedPayload
  rw [sameText, sameKind, sameAgent]

theorem orElse_setItem (key : PyString) (value : PyJson)
    (items : List (PyString × PyJson)) (default : PyJson) :
    (PyJson.dict (setItem key value items)).orElse default =
      .dict (setItem key value items) := by
  have full : (PyJson.dict (setItem key value items)).truthy = true := by
    cases items with
    | nil => rfl
    | cons item rest =>
        unfold setItem
        split <;> rfl
  exact if_pos full

theorem sentPayload_runStart (cell : PyString) (ordinal : Nat)
    (kind agentId received : PyJson) (key : PyString) :
    ∃ start,
      sentPayload
          (.dict [(py "sent", runStart cell ordinal kind agentId key),
            (py "received", received)]) = .ok start ∧
        isOtherCell cell start = false := by
  refine ⟨_, rfl, ?_⟩
  change (!PyJson.isStr (.str cell) cell) = false
  simp [PyJson.isStr]

/-- An answer is read back as it was given, with the outputs and the status of
the canned payload. -/
theorem stubAnswer_spec
    (answered : stubAnswer registry ordinal cell record =
      .ok (sent, received)) :
    ∃ payload canned, replyPayload received = .ok payload ∧
      cannedPayload registry record = .ok canned ∧
      get payload (py "outputs") = get canned (py "outputs") ∧
      readEntry cell
          (.dict [(py "sent", sent), (py "received", .dict received)]) =
        .ok (.dict received, payload) := by
  unfold stubAnswer at answered
  obtain ⟨key, _, answered⟩ := ok_of_bind answered
  obtain ⟨response, found, answered⟩ := ok_of_bind answered
  obtain ⟨stamped, stamp, answered⟩ := ok_of_bind answered
  cases answered
  unfold stampCellResponse at stamp
  obtain ⟨canned, hasCanned, stamp⟩ := ok_of_bind stamp
  cases stamp
  let payload := setItem (py "ordinal") (.int ordinal)
    (setItem (py "cell_id") (.str cell) canned)
  have hasPayload : replyPayload
      (setItem (py "payload") (.dict payload) response) = .ok payload := by
    unfold replyPayload
    rw [get_setItem, if_pos rfl, orElse_setItem]
    rfl
  refine ⟨payload, canned, hasPayload, ?_, ?_, ?_⟩
  · unfold cannedPayload
    rw [bind_of_ok found]
    exact hasCanned
  · rw [get_setItem, if_neg (by decide), get_setItem, if_neg (by decide)]
  · obtain ⟨start, hasStart, ownCell⟩ := sentPayload_runStart cell
      ordinal (recordKind record) (recordAgent record)
      (.dict (setItem (py "payload") (.dict payload) response)) key
    unfold readEntry
    rw [bind_of_ok (otherwise_eq_ok.mpr hasStart), ownCell]
    exact otherwise_eq_ok.mpr (bind_of_ok hasPayload _)

/-! ### The records during a run -/

theorem settle_cells (outcomes : CellOutcomes) (cell : PyString)
    (received : PyJson) (payload : List (PyString × PyJson)) :
    (outcomes.settle cell received payload).cells = outcomes.cells ∨
      (outcomes.settle cell received payload).cells =
        persistOutputs outcomes.cells cell payload := by
  unfold CellOutcomes.settle
  split
  · exact Or.inr rfl
  · exact Or.inl rfl

theorem keys_settle (outcomes : CellOutcomes) (cell : PyString)
    (received : PyJson) (payload : List (PyString × PyJson)) :
    (outcomes.settle cell received payload).cells.map Prod.fst =
      outcomes.cells.map Prod.fst := by
  rcases settle_cells outcomes cell received payload with same | persisted
  · rw [same]
  · rw [persisted, keys_persistOutputs]

/-- The record of a cell after another or the same cell was settled. -/
theorem get_settle (outcomes : CellOutcomes) (cell : PyString)
    (received : PyJson) (payload : List (PyString × PyJson))
    (other : PyString) :
    get (outcomes.settle cell received payload).cells other =
        get outcomes.cells other ∨
      ∃ outputs record, other = cell ∧
        (get payload (py "outputs")).orElse (.list []) = .list outputs ∧
        get outcomes.cells other = .dict record ∧
        get (outcomes.settle cell received payload).cells other =
          .dict (setItem (py "outputs") (.list outputs) record) := by
  rcases settle_cells outcomes cell received payload with same | persisted
  · exact Or.inl (by rw [same])
  · rw [persisted]
    rcases persistOutputs_cases outcomes.cells cell payload with
      same | ⟨outputs, record, hasOutputs, hasRecord, stored⟩
    · exact Or.inl (by rw [same])
    · rw [stored, get_setItem]
      by_cases own : other = cell
      · subst own
        exact Or.inr ⟨outputs, record, rfl, hasOutputs, hasRecord,
          if_pos rfl⟩
      · exact Or.inl (if_neg own)

theorem isDict_settle (outcomes : CellOutcomes) (cell : PyString)
    (received : PyJson) (payload : List (PyString × PyJson))
    (other : PyString) :
    (get (outcomes.settle cell received payload).cells other).isDict =
      (get outcomes.cells other).isDict := by
  rcases get_settle outcomes cell received payload other with
    same | ⟨outputs, record, _, _, before, after⟩
  · rw [same]
  · rw [before, after]
    rfl

/-- The registry has the payload for the record of the cell. -/
def Answers (registry : StubRegistry) (cells : List (PyString × PyJson))
    (cell : PyString) (payload : List (PyString × PyJson)) : Prop :=
  ∀ record, get cells cell = .dict record →
    ∃ canned, cannedPayload registry record = .ok canned ∧
      get payload (py "outputs") = get canned (py "outputs")

theorem Answers.settle
    {outcomes : CellOutcomes} {settled : List (PyString × PyJson)}
    (answers : Answers registry outcomes.cells cell payload)
    (received : PyJson) :
    Answers registry (outcomes.settle other received settled).cells cell
      payload := by
  intro record hasRecord
  rcases get_settle outcomes other received settled cell with
    same | ⟨outputs, before, _, _, hasBefore, after⟩
  · rw [same] at hasRecord
    exact answers record hasRecord
  · rw [after] at hasRecord
    cases hasRecord
    obtain ⟨canned, hasCanned, outputsEq⟩ := answers before hasBefore
    exact ⟨canned, (cannedPayload_setItem _).trans hasCanned, outputsEq⟩

/-- A later turn, of whatever cell, leaves persisted what was. -/
theorem Persisted.settle
    {outcomes : CellOutcomes} {settled : List (PyString × PyJson)}
    (persisted : Persisted outcomes.cells cell payload)
    (answers : Answers registry outcomes.cells cell payload)
    (otherAnswers : Answers registry outcomes.cells other settled)
    (received : PyJson) :
    Persisted (outcomes.settle other received settled).cells cell
      payload := by
  intro outputs record hasOutputs hasRecord
  rcases get_settle outcomes other received settled cell with
    same | ⟨newOutputs, before, own, hasNew, hasBefore, after⟩
  · rw [same] at hasRecord
    exact persisted outputs record hasOutputs hasRecord
  · -- The cell is settled again, with the same canned payload.
    subst own
    rw [after] at hasRecord
    cases hasRecord
    obtain ⟨canned, hasCanned, outputsEq⟩ := answers before hasBefore
    obtain ⟨again, hasAgain, againEq⟩ := otherAnswers before hasBefore
    cases hasCanned.symm.trans hasAgain
    rw [againEq, ← outputsEq, hasOutputs] at hasNew
    cases hasNew
    rw [lookup_setItem, if_pos rfl]

/-- The answer to a cell, in the records before it is settled. -/
theorem answers_of_stubAnswer
    (hasRecord : get cells cell = .dict record)
    (hasCanned : cannedPayload registry record = .ok canned)
    (outputsEq : get payload (py "outputs") = get canned (py "outputs")) :
    Answers registry cells cell payload := by
  intro found hasFound
  cases hasRecord.symm.trans hasFound
  exact ⟨canned, hasCanned, outputsEq⟩

end

end RtsNotebook.LlmClient
