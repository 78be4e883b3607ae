import RtsNotebook.LlmClient.LiveSteps

/-!
# The ends of a live run

`_run_live_mode` ends with a result, with a `KeyboardInterrupt` or with another
exception.  An interrupt in the drain of a cell is remembered until the lines
are written; one in the trailing drain leaves at once.
-/

namespace RtsNotebook.LlmClient

open RtsNotebook.Python

/-! ### The recording -/

/-- A text that UTF-8 encodes: no code point is a surrogate. -/
def isEncodableText (text : PyString) : Bool :=
  text.all fun codePoint => !(0xD800 ≤ codePoint && codePoint ≤ 0xDFFF)

mutual

/-- Every string in the value can be written. -/
def isEncodable : PyJson → Bool
  | .str text => isEncodableText text
  | .list items => itemsEncodable items
  | .dict items => membersEncodable items
  | _ => true

def itemsEncodable : List PyJson → Bool
  | [] => true
  | item :: rest => isEncodable item && itemsEncodable rest

def membersEncodable : List (PyString × PyJson) → Bool
  | [] => true
  | (key, value) :: rest =>
      isEncodableText key && (isEncodable value && membersEncodable rest)

end

/-- `json.dumps(entry, ensure_ascii=False)` for each entry, into a file that is
opened as UTF-8. -/
def writeRecording (config : LiveConfig) (lines : List PyJson) :
    Except Stop (Option (List PyJson)) :=
  if config.recording then
    if lines.all isEncodable then .ok (some lines) else .error .raised
  else
    .ok none

/-! ### The end -/

/-- The end of a run: no result stands for a `KeyboardInterrupt`. -/
structure LiveEnd (World : Type) where
  result : Option (LiveResult World)
  recorded : Option (List PyJson)

section

variable {World : Type}

/-- The trailing drain, which a `KeyboardInterrupt` ends without a state. -/
def tailDrain (connection : Connection World) (tailDeadline : Time) :
    Nat → LiveState World → World → Except Stop (Option (LiveState World))
  | 0, _, _ => .error .outOfFuel
  | fuel + 1, live, world =>
      let (now, world) := connection.monotonic world
      if now < tailDeadline then
        match connection.recv (1 / 10) world with
        | (.escaped, _) => .error .raised
        | (.keyboardInterrupt, _) => .ok none
        | (.raised _, _) => .ok (some live)
        | (.value reply, world) =>
            if reply.truthy then do
              let items ← reply.items?
              if (messageType items).isStr (py "notebook.metadata") then
                let payload ← replyPayload items
                tailDrain connection tailDeadline fuel
                  (live.takeSnapshot payload) world
              else
                tailDrain connection tailDeadline fuel live world
            else
              tailDrain connection tailDeadline fuel live world
      else
        .ok (some live)

/-- What follows the drains: the outputs are mirrored, the notebook is updated
and the lines are written. -/
def closeRun (config : LiveConfig) (notebook : List (PyString × PyJson))
    (live : LiveState World) : Except Stop (LiveEnd World) := do
  mirrorOutputs notebook live.workingRts
  let metadata ← (getD notebook (py "metadata") (.dict [])).items?
  let recorded ← writeRecording config live.sentReceived
  pure
    { result :=
        if live.interrupted then
          none
        else
          some
            { notebook := setItem (py "metadata")
                (.dict (setItem (py "rts") (.dict live.workingRts) metadata))
                notebook
              succeeded := live.succeeded
              failed := live.failed
              recorded := recorded
              drains := live.drains }
      recorded := recorded }

/-- The rest of `_run_live_mode` once the cell loop is over. -/
def endRun (connection : Connection World) (config : LiveConfig) (fuel : Nat)
    (notebook : List (PyString × PyJson)) (live : LiveState World)
    (world : World) : Except Stop (LiveEnd World) :=
  if live.interrupted then
    closeRun config notebook live
  else do
    let (now, world) := connection.monotonic world
    match ← tailDrain connection (now + config.quiescenceWindow) fuel live
        world with
    | none => pure { result := none, recorded := none }
    | some live => closeRun config notebook live

/-- `_run_live_mode` past a successful hydrate send, to its end. -/
def endHydrated (connection : Connection World) (config : LiveConfig)
    (layoutWalkIds : PyJson → List PyString) (fuel : Nat)
    (notebook rts : List (PyString × PyJson)) (world : World) :
    Except Stop (LiveEnd World) := do
  let cells ← cellRecords rts
  let ids ← orderedCellIds layoutWalkIds rts cells
  let (now, world) := connection.monotonic world
  let (live, world) ←
    runCells connection config fuel cells (now + config.totalTimeout) 0 ids
      { succeeded := []
        failed := []
        sentReceived := []
        workingRts := rts
        interrupted := false
        drains := [] }
      world
  endRun connection config fuel notebook live world

/-- `_run_live_mode`, to its end. -/
def endLiveMode (connection : Connection World) (config : LiveConfig)
    (layoutWalkIds : PyJson → List PyString) (fuel : Nat)
    (notebook : List (PyString × PyJson)) (world : World) :
    Except Stop (LiveEnd World) := do
  let rts ← notebookRts notebook
  match connection.send (hydrateEnvelope rts) world with
  | (.escaped, _) => .error .raised
  | (.raised message, _) =>
      let recorded := if config.recording then some [] else none
      pure
        { result := some
            { notebook := notebook
              succeeded := []
              failed :=
                [{ cell := py "<hydrate>"
                   envelope :=
                     syntheticKEnvelope (py "<hydrate>")
                       (py "K_TRANSPORT_LOST") message }]
              recorded := recorded
              drains := [] }
          recorded := recorded }
  | (.sent, world) => do
      let items ← rts.items?
      endHydrated connection config layoutWalkIds fuel notebook items world

/-! ### The result is that of the run -/

variable {connection : Connection World} {config : LiveConfig} {fuel : Nat}
  {notebook : List (PyString × PyJson)} {live after : LiveState World}
  {world : World} {ending : LiveEnd World} {result : LiveResult World}

theorem trailingDrain_of_tailDrain {tailDeadline : Time}
    (drained : tailDrain connection tailDeadline fuel live world =
      .ok (some after)) :
    trailingDrain connection tailDeadline fuel live world = .ok after := by
  obtain ⟨monotonic, send, recv⟩ := connection
  induction fuel generalizing live world with
  | zero => cases drained
  | succ fuel inductionHypothesis =>
      rcases clock : monotonic world with ⟨now, later⟩
      rcases received : recv (1 / 10) later with ⟨outcome, next⟩
      rw [tailDrain] at drained
      rw [trailingDrain]
      simp only [clock, received] at drained ⊢
      by_cases inTime : now < tailDeadline
      · rw [if_pos inTime] at drained ⊢
        cases outcome with
        | escaped => cases drained
        | keyboardInterrupt => cases drained
        | raised message =>
            cases drained
            rfl
        | value reply =>
            dsimp only at drained ⊢
            by_cases truthy : reply.truthy = true
            · rw [if_pos truthy] at drained ⊢
              obtain ⟨items, isDict, drained⟩ := ok_of_bind drained
              rw [bind_of_ok isDict]
              by_cases isMetadata :
                  (messageType items).isStr (py "notebook.metadata") = true
              · rw [if_pos isMetadata] at drained ⊢
                obtain ⟨payload, isPayload, drained⟩ := ok_of_bind drained
                rw [bind_of_ok isPayload]
                exact inductionHypothesis drained
              · rw [if_neg isMetadata] at drained ⊢
                exact inductionHypothesis drained
            · rw [if_neg truthy] at drained ⊢
              exact inductionHypothesis drained
      · rw [if_neg inTime] at drained ⊢
        cases drained
        rfl

theorem writeRecording_eq {lines : List PyJson}
    {recorded : Option (List PyJson)}
    (written : writeRecording config lines = .ok recorded) :
    recorded = if config.recording then some lines else none := by
  rw [writeRecording] at written
  split at written
  · rename_i recording
    split at written
    · cases written
      rw [if_pos recording]
    · cases written
  · rename_i silent
    cases written
    rw [if_neg silent]

theorem closeRun_interrupted (interrupted : live.interrupted = true)
    (closed : closeRun config notebook live = .ok ending) :
    ending.result = none := by
  rw [closeRun] at closed
  obtain ⟨_, _, closed⟩ := ok_of_bind closed
  obtain ⟨metadata, _, closed⟩ := ok_of_bind closed
  obtain ⟨recorded, _, closed⟩ := ok_of_bind closed
  cases closed
  exact if_pos interrupted

/-- A result of the end is the result of the run. -/
theorem finishRun_of_endRun
    (ended : endRun connection config fuel notebook live world = .ok ending)
    (isResult : ending.result = some result) :
    finishRun connection config fuel notebook live world = .ok result ∧
      ending.recorded = result.recorded := by
  rw [endRun] at ended
  split at ended
  · rename_i interrupted
    rw [closeRun_interrupted interrupted ended] at isResult
    cases isResult
  · rename_i notInterrupted
    obtain ⟨tail, drained, ended⟩ := ok_of_bind ended
    cases tail with
    | none =>
        cases ended
        cases isResult
    | some after =>
        have same := trailingDrain_of_tailDrain drained
        obtain ⟨workingRts, rfl⟩ := trailingDrain_eq same
        dsimp only at ended
        rw [closeRun] at ended
        obtain ⟨_, mirrored, ended⟩ := ok_of_bind ended
        obtain ⟨metadata, isMetadata, ended⟩ := ok_of_bind ended
        obtain ⟨recorded, written, ended⟩ := ok_of_bind ended
        cases ended
        cases (if_neg notInterrupted).symm.trans isResult
        refine ⟨?_, rfl⟩
        rw [finishRun, if_neg notInterrupted]
        dsimp only
        rw [bind_of_ok same, bind_of_ok mirrored, bind_of_ok isMetadata,
          writeRecording_eq written]
        rfl

/-- `_run_live_mode` returns what it returned before its ends were told
apart. -/
theorem runLiveMode_of_endLiveMode {layoutWalkIds : PyJson → List PyString}
    (ended : endLiveMode connection config layoutWalkIds fuel notebook world =
      .ok ending)
    (isResult : ending.result = some result) :
    runLiveMode connection config layoutWalkIds fuel notebook world =
        .ok result ∧
      ending.recorded = result.recorded := by
  rw [endLiveMode] at ended
  obtain ⟨rts, isRts, ended⟩ := ok_of_bind ended
  rw [runLiveMode, bind_of_ok isRts]
  rcases shipped : connection.send (hydrateEnvelope rts) world with
    ⟨outcome, sent⟩
  rw [shipped] at ended
  cases outcome with
  | escaped => cases ended
  | raised message =>
      cases ended
      cases isResult
      exact ⟨rfl, rfl⟩
  | sent =>
      obtain ⟨items, isDict, ended⟩ := ok_of_bind ended
      rw [endHydrated] at ended
      obtain ⟨cells, areCells, ended⟩ := ok_of_bind ended
      obtain ⟨ids, areIds, ended⟩ := ok_of_bind ended
      obtain ⟨⟨live, worldAfter⟩, ran, ended⟩ := ok_of_bind ended
      obtain ⟨finished, recordedEq⟩ := finishRun_of_endRun ended isResult
      refine ⟨?_, recordedEq⟩
      dsimp only
      rw [bind_of_ok isDict, runHydrated, bind_of_ok areCells,
        bind_of_ok areIds]
      dsimp only
      rw [bind_of_ok ran]
      exact finished

end

end RtsNotebook.LlmClient
