import RtsNotebook.Llmnb.SerializerStability
import RtsNotebook.Notebook.MetadataApplier
import RtsNotebook.Notebook.MetadataLoader

/-!
# Sessions of a notebook

A notebook is opened from its file, the kernel sends snapshots, the operator
edits cells and saves, and the notebook is closed and opened again: the
serializer, the applier and the loader over one document.  The applier computes
the metadata that an edit sets before it awaits the edit, so that each edit in
flight carries it.

To the kernel the notebook is a place for one snapshot.  `SnapshotStore` says
what such a place does, and every run of sessions is a run of it.
-/

namespace RtsNotebook.Notebook.Sessions

open RtsNotebook.Library RtsNotebook.Js RtsNotebook.Messaging
open RtsNotebook.Llmnb RtsNotebook.Notebook.MetadataLoader
open RtsNotebook.Notebook.MetadataApplier
  (Edit Completion NotebookMetadataPayload)

/-! ### The place of a snapshot -/

/-- What the open document holds, what its file holds, and what was found each
time that the file was opened. -/
structure SnapshotStore (Snapshot : Type*) where
  held : Option Snapshot
  saved : Option Snapshot
  reopened : List (Option Snapshot)

inductive StoreEvent (Snapshot : Type*) where
  | accept (snapshot : Snapshot)
  | save
  | reopen

def SnapshotStore.step {Snapshot : Type*} (store : SnapshotStore Snapshot) :
    StoreEvent Snapshot → SnapshotStore Snapshot
  | .accept snapshot => { store with held := some snapshot }
  | .save => { store with saved := store.held }
  | .reopen =>
      { store with
        held := store.saved
        reopened := store.reopened ++ [store.saved] }

/-! ### The sessions -/

section

variable {Version : Type*}

/-- The applier with the metadata that its edits set, the open notebook, its
file, and what the loader has decided. -/
structure Session (Version : Type*) where
  applier : MetadataApplier.State Version
  nextMetadata : List Json
  notebook : Option NotebookData
  file : List UInt8
  decisions : List (Option HydrateDecision)

/-- What can happen: the operator edits the cells, whose values are then
strings, and the extension host restarts. -/
inductive Event (Version : Type*) where
  | openNotebook
  | payload (payload : NotebookMetadataPayload Version)
  | complete (position : Nat) (completion : Completion)
  | editCells (cells : List CellData)
  | save
  | close
  | restart

def Session.initial [LinearOrder Version] (content : List UInt8) :
    Session Version where
  applier := MetadataApplier.State.initial
  nextMetadata := []
  notebook := none
  file := content
  decisions := []

/-- `{ ...currentMetadata, rts: snapshot }` -/
def withRts (currentMetadata snapshot : Json) : Json :=
  .object (assignMember (js "rts") snapshot currentMetadata.ownMembers)

/-- `notebook.metadata ?? {}` -/
def Session.currentMetadata (session : Session Version) : Json :=
  orEmpty (session.notebook.map NotebookData.metadata)

/-- A cell whose value is a string. -/
def holdsText (cell : CellData) : Bool :=
  match cell.value with
  | some (.string _) => true
  | _ => false

/-- What `onDidOpenNotebook` decides of the metadata. -/
def decisionOf (uri : JsString) (metadata : Json) : Option HydrateDecision :=
  decideHydrate
    { uri := uri, notebookType := NOTEBOOK_TYPE, metadata := some metadata }

variable [LinearOrder Version] (host : Host) (uri : JsString)

/-- `onNotebookMetadata`, with the metadata of an edit that it starts. -/
def Session.onNotebookMetadata (session : Session Version)
    (payload : NotebookMetadataPayload Version) : Session Version :=
  let applier :=
    session.applier.onNotebookMetadata payload session.notebook.isSome
  { session with
    applier := applier
    nextMetadata := session.nextMetadata ++
      (applier.edits.drop session.applier.edits.length).map fun edit =>
        withRts session.currentMetadata edit.snapshot }

/-- An edit completes; one that is applied sets the metadata of the open
notebook. -/
def Session.complete (session : Session Version) (position : Nat)
    (completion : Completion) : Option (Session Version) :=
  match session.nextMetadata[position]?,
    MetadataApplier.step session.applier (.complete position completion) with
  | some next, some applier =>
      let completed :=
        { session with
          applier := applier
          nextMetadata := session.nextMetadata.eraseIdx position }
      match completion with
      | .applied =>
          session.notebook.map fun data =>
            { completed with notebook := some { data with metadata := next } }
      | .refused => some completed
      | .threw => some completed
  | _, _ => none

def Session.step (session : Session Version) :
    Event Version → Option (Session Version)
  | .openNotebook =>
      match session.notebook, host.deserializeNotebook session.file with
      | some _, _ => none
      | none, none => some session
      | none, some data => some
          { session with
            notebook := some data
            decisions := session.decisions ++ [decisionOf uri data.metadata] }
  | .payload payload => some (session.onNotebookMetadata payload)
  | .complete position completion => session.complete position completion
  | .editCells cells =>
      if cells.all holdsText then
        session.notebook.map fun data =>
          { session with notebook := some { data with cells := cells } }
      else
        none
  | .save =>
      session.notebook.map fun data =>
        { session with file := host.serializeNotebook data }
  | .close => some { session with notebook := none }
  | .restart => some
      { session with
        applier := MetadataApplier.State.initial
        nextMetadata := []
        notebook := none }

def system (content : List UInt8) :
    System (Session Version) (Event Version) where
  initial := Session.initial content
  step := Session.step host uri

/-- What an event is to the place of the snapshot. -/
def observe (session : Session Version) :
    Event Version → Option (StoreEvent Json)
  | .openNotebook =>
      (host.deserializeNotebook session.file).map fun _ => .reopen
  | .complete position .applied =>
      session.applier.edits[position]?.map fun edit => .accept edit.snapshot
  | .save => some .save
  | _ => none

/-- What the events of a run are to it. -/
def observed (session : Session Version) :
    List (Event Version) → List (StoreEvent Json)
  | [] => []
  | event :: events =>
      match session.step host uri event with
      | none => []
      | some next =>
          (observe host session event).toList ++ observed next events

end

/-! ### What a saved notebook is loaded as -/

section

variable {host : Host}

/-- The metadata is a value, and no cell holds an array as its source. -/
structure Sound (data : NotebookData) : Prop where
  metadata : orEmpty (some data.metadata) = data.metadata
  cells : ∀ cell ∈ data.cells, ∀ items, cell.value ≠ some (.array items)

theorem sound_of_deserialize {content : List UInt8} {data : NotebookData}
    (loaded : host.deserializeNotebook content = some data) : Sound data := by
  obtain ⟨document, _, decoded⟩ := Option.bind_eq_some_iff.mp loaded
  obtain ⟨related, metadata⟩ := cells_of_decodeDocument decoded
  refine ⟨?_, fun cell isCell => ?_⟩
  · rw [metadata]
    exact orEmpty_orEmpty _
  · obtain ⟨raw, _, isDecoded⟩ := exists_of_mem_right related isCell
    obtain ⟨source, outputs, isSource, _, rfl⟩ := parts_of_decodeCell isDecoded
    exact sourceOf?_notArray isSource

/-- What an output becomes that is saved and loaded. -/
def resavedOutput (host : Host) (output : CellOutput) : CellOutput where
  items := (dataEntries (host.encodeOutput output)).map host.decodeItem
  metadata := orEmpty ((host.encodeOutput output).member? (js "metadata"))

def resavedCell (host : Host) (cell : CellData) : CellData :=
  makeCell (isMarkdownCell (host.encodeCell cell)) cell.value
    (orEmpty ((host.encodeCell cell).member? (js "metadata")))
    (cell.outputs.map (resavedOutput host))

theorem decodeCell_saved {cell : CellData}
    (notArray : ∀ items, cell.value ≠ some (.array items)) :
    host.decodeCell (host.encodeCell cell) = some (resavedCell host cell) := by
  have held := @encodeCell_members host cell
  have outputs : mapItems? host.decodeOutput
      ((host.encodeCell cell).member? (js "outputs")) =
        some (cell.outputs.map (resavedOutput host)) := by
    rw [held.2.1]
    exact mapM_map_eq_some fun _ _ => rfl
  have decoded : host.decodeCell (host.encodeCell cell) =
      (sourceOf? (host.encodeCell cell)).bind fun source =>
        (mapItems? host.decodeOutput
          ((host.encodeCell cell).member? (js "outputs"))).bind fun outputs =>
            some (makeCell (isMarkdownCell (host.encodeCell cell)) source
              (orEmpty ((host.encodeCell cell).member? (js "metadata")))
              outputs) := rfl
  rw [decoded, sourceOf?_eq held.1 notArray, outputs]
  rfl

/-- `JSON.parse` reads the saved document as it was written. -/
def Readable (host : Host) (data : NotebookData) : Prop :=
  host.parse (host.savedText data) = some (host.encodeDocument data)

/-- The metadata of a notebook outlives saving and loading. -/
theorem deserialize_serialize {data : NotebookData} (sound : Sound data)
    (readable : Readable host data) :
    host.deserializeNotebook (host.serializeNotebook data) =
      some
        { cells := data.cells.map (resavedCell host)
          metadata := data.metadata } := by
  have cells : (data.cells.map host.encodeCell).mapM host.decodeCell =
      some (data.cells.map (resavedCell host)) :=
    mapM_map_eq_some fun cell isCell =>
      decodeCell_saved (sound.cells cell isCell)
  have decoded : host.decodeDocument (host.encodeDocument data) =
      ((data.cells.map host.encodeCell).mapM host.decodeCell).bind
        fun cells => some
          { cells := cells
            metadata := orEmpty (some (orEmpty (some data.metadata))) } := rfl
  rw [Host.deserializeNotebook, parseDocument_serializeNotebook, readable,
    Option.bind_some, decoded, cells, sound.metadata, sound.metadata]
  rfl

end

/-! ### What the applier lets in -/

/-- A snapshot that passes the checks of the applier. -/
structure Admitted (snapshot : Json) : Prop where
  isObject : isObject snapshot = true
  schemaMajor : schemaMajor? snapshot = some RFC005_SCHEMA_MAJOR

section

variable {Version : Type*} [LinearOrder Version]

/-- A payload starts no edit, or where a notebook is open one whose snapshot is
admitted. -/
theorem edits_onNotebookMetadata (state : MetadataApplier.State Version)
    (payload : NotebookMetadataPayload Version) (hasNotebook : Bool) :
    (state.onNotebookMetadata payload hasNotebook).edits = state.edits ∨
      hasNotebook = true ∧ ∃ edit, Admitted edit.snapshot ∧
        (state.onNotebookMetadata payload hasNotebook).edits =
          state.edits ++ [edit] := by
  rw [MetadataApplier.State.onNotebookMetadata]
  split
  · exact Or.inl rfl
  · split
    · exact Or.inl rfl
    · next snapshot _ =>
        split
        · exact Or.inl rfl
        · next notObject =>
            split
            · exact Or.inl rfl
            · next observedMajor isMajor =>
                split
                · exact Or.inl rfl
                · next sameMajor =>
                    have admitted : Admitted snapshot :=
                      ⟨by simpa using notObject,
                        isMajor.trans (congrArg some (not_not.mp sameMajor))⟩
                    split
                    · exact Or.inl rfl
                    · rw [MetadataApplier.State.apply]
                      split
                      · exact Or.inl rfl
                      · next isOpen =>
                          exact Or.inr
                            ⟨by simpa using isOpen, _, admitted, rfl⟩

/-- A completion takes its edit out and leaves the snapshots of the others. -/
theorem snapshots_complete {state next : MetadataApplier.State Version}
    {position : Nat} {completion : Completion}
    (stepped : MetadataApplier.step state (.complete position completion) =
      some next) :
    next.edits.map Edit.snapshot =
      (state.edits.map Edit.snapshot).eraseIdx position := by
  simp only [MetadataApplier.step] at stepped
  split at stepped
  · cases stepped
  · next edit _ =>
      cases stepped
      rw [← map_eraseIdx]
      cases completion with
      | applied =>
          simp only [MetadataApplier.State.complete, List.map_map]
          exact List.map_congr_left fun _ _ => rfl
      | refused => rfl
      | threw => rfl

end

/-! ### What every session keeps -/

section

variable {Version : Type*} [LinearOrder Version] {host : Host} {uri : JsString}
  {persisted : Json}

/-- The other members of the metadata are the ones that the file had. -/
def SameOthers (persisted metadata : Json) : Prop :=
  ∀ key ≠ js "rts",
    metadata.ownMembers.lookup key = persisted.ownMembers.lookup key

/-- The metadata that an edit sets: the snapshot beside what the file had. -/
def Sets (persisted next snapshot : Json) : Prop :=
  Admitted snapshot ∧
    ∃ metadata, next = withRts metadata snapshot ∧ SameOthers persisted metadata

structure Invariant (host : Host) (persisted : Json)
    (session : Session Version) : Prop where
  edits : List.Forall₂ (Sets persisted) session.nextMetadata
    (session.applier.edits.map Edit.snapshot)
  notebook : ∀ data, session.notebook = some data →
    Sound data ∧ SameOthers persisted data.metadata
  file : ∀ data, host.deserializeNotebook session.file = some data →
    SameOthers persisted data.metadata

theorem sameOthers_withRts {metadata : Json} (snapshot : Json)
    (same : SameOthers persisted metadata) :
    SameOthers persisted (withRts metadata snapshot) :=
  fun key notRts =>
    (lookup_assignMember.trans (if_neg notRts)).trans (same key notRts)

theorem member?_withRts (metadata snapshot : Json) :
    (withRts metadata snapshot).member? (js "rts") = some snapshot :=
  lookup_assignMember.trans (if_pos rfl)

omit [LinearOrder Version] in
theorem sameOthers_currentMetadata {session : Session Version}
    (invariant : Invariant host persisted session)
    (isOpen : session.notebook ≠ none) :
    SameOthers persisted session.currentMetadata := by
  obtain ⟨data, isData⟩ := Option.ne_none_iff_exists'.mp isOpen
  obtain ⟨sound, same⟩ := invariant.notebook data isData
  rw [Session.currentMetadata, isData, Option.map_some, sound.metadata]
  exact same

/-- What a completion does to a session. -/
theorem complete_cases {session next : Session Version} {position : Nat}
    {completion : Completion}
    (stepped : session.complete position completion = some next) :
    ∃ metadata edit, session.nextMetadata[position]? = some metadata ∧
      session.applier.edits[position]? = some edit ∧
      next.nextMetadata = session.nextMetadata.eraseIdx position ∧
      next.applier.edits.map Edit.snapshot =
        (session.applier.edits.map Edit.snapshot).eraseIdx position ∧
      next.file = session.file ∧ next.decisions = session.decisions ∧
      (completion ≠ .applied ∧ next.notebook = session.notebook ∨
        completion = .applied ∧ ∃ data, session.notebook = some data ∧
          next.notebook = some { data with metadata := metadata }) := by
  rw [Session.complete] at stepped
  split at stepped
  · next metadata applier isMetadata applierStep =>
      have snapshots := snapshots_complete applierStep
      obtain ⟨edit, isEdit⟩ : ∃ edit,
          session.applier.edits[position]? = some edit := by
        simp only [MetadataApplier.step] at applierStep
        split at applierStep
        · cases applierStep
        · next edit isEdit => exact ⟨edit, isEdit⟩
      refine ⟨metadata, edit, isMetadata, isEdit, ?_⟩
      cases completion with
      | applied =>
          obtain ⟨data, isOpen, rfl⟩ := Option.map_eq_some_iff.mp stepped
          exact ⟨rfl, snapshots, rfl, rfl, Or.inr ⟨rfl, data, isOpen, rfl⟩⟩
      | refused =>
          cases stepped
          exact ⟨rfl, snapshots, rfl, rfl, Or.inl ⟨by decide, rfl⟩⟩
      | threw =>
          cases stepped
          exact ⟨rfl, snapshots, rfl, rfl, Or.inl ⟨by decide, rfl⟩⟩
  · cases stepped

theorem Invariant.onNotebookMetadata {session : Session Version}
    (invariant : Invariant host persisted session)
    (payload : NotebookMetadataPayload Version) :
    Invariant host persisted (session.onNotebookMetadata payload) where
  notebook := invariant.notebook
  file := invariant.file
  edits := by
    simp only [Session.onNotebookMetadata]
    rcases edits_onNotebookMetadata session.applier payload
        session.notebook.isSome with same | ⟨isOpen, edit, admitted, started⟩
    · rw [same, List.drop_length, List.map_nil, List.append_nil]
      exact invariant.edits
    · rw [started, List.drop_left, List.map_append]
      have same := sameOthers_currentMetadata invariant
        (Option.isSome_iff_ne_none.mp isOpen)
      exact List.rel_append invariant.edits
        (.cons ⟨admitted, _, rfl, same⟩ .nil)

theorem Invariant.step {session next : Session Version} {event : Event Version}
    (invariant : Invariant host persisted session)
    (readable : ∀ data, session.notebook = some data → Readable host data)
    (stepped : session.step host uri event = some next) :
    Invariant host persisted next := by
  cases event with
  | openNotebook =>
      simp only [Session.step] at stepped
      split at stepped
      · cases stepped
      · cases stepped
        exact invariant
      · next data _ loaded =>
          cases stepped
          refine ⟨invariant.edits, ?_, invariant.file⟩
          intro opened isOpened
          cases isOpened
          exact ⟨sound_of_deserialize loaded, invariant.file data loaded⟩
  | payload payload =>
      cases stepped
      exact invariant.onNotebookMetadata payload
  | complete position completion =>
      obtain ⟨metadata, edit, isMetadata, isEdit, nextMetadata, edits, file, _,
        notebook⟩ := complete_cases stepped
      refine ⟨?_, ?_, ?_⟩
      · rw [nextMetadata, edits]
        exact forall₂_eraseIdx invariant.edits position
      · intro data isOpen
        rcases notebook with ⟨_, same⟩ | ⟨_, before, isBefore, isNext⟩
        · exact invariant.notebook data (same.symm.trans isOpen)
        · cases isNext.symm.trans isOpen
          have isSnapshot :
              (session.applier.edits.map Edit.snapshot)[position]? =
                some edit.snapshot := by
            rw [List.getElem?_map, isEdit]
            rfl
          obtain ⟨_, current, rfl, same⟩ :=
            related_of_forall₂ invariant.edits isMetadata isSnapshot
          exact ⟨⟨rfl, (invariant.notebook before isBefore).1.cells⟩,
            sameOthers_withRts edit.snapshot same⟩
      · rw [file]
        exact invariant.file
  | editCells cells =>
      simp only [Session.step] at stepped
      split at stepped
      · next hold =>
          obtain ⟨data, isOpen, rfl⟩ := Option.map_eq_some_iff.mp stepped
          refine ⟨invariant.edits, ?_, invariant.file⟩
          intro edited isEdited
          cases isEdited
          obtain ⟨sound, same⟩ := invariant.notebook data isOpen
          refine ⟨⟨sound.metadata, fun cell isCell items isArray => ?_⟩, same⟩
          have text := List.all_eq_true.mp hold cell isCell
          rw [holdsText, isArray] at text
          cases text
      · cases stepped
  | save =>
      obtain ⟨data, isOpen, rfl⟩ := Option.map_eq_some_iff.mp stepped
      obtain ⟨sound, same⟩ := invariant.notebook data isOpen
      refine ⟨invariant.edits, invariant.notebook, fun loaded isLoaded => ?_⟩
      have saved := deserialize_serialize sound (readable data isOpen)
      cases saved.symm.trans isLoaded
      exact same
  | close =>
      cases stepped
      exact ⟨invariant.edits, fun _ isOpen => (nomatch isOpen),
        invariant.file⟩
  | restart =>
      cases stepped
      exact ⟨.nil, fun _ isOpen => (nomatch isOpen), invariant.file⟩

/-- What the loader decides of a document that holds a snapshot, or none. -/
def decisionFor (uri : JsString) (held : Option Json) :
    Option HydrateDecision :=
  decisionOf uri (.object (held.toList.map fun snapshot =>
    (js "rts", snapshot)))

theorem decisionOf_eq (uri : JsString) (metadata : Json) :
    decisionOf uri metadata =
      decisionFor uri (metadata.member? (js "rts")) := by
  have member : (Json.object ((metadata.member? (js "rts")).toList.map
      fun snapshot => (js "rts", snapshot))).member? (js "rts") =
        metadata.member? (js "rts") := by
    cases metadata.member? (js "rts") with
    | none => rfl
    | some snapshot => rfl
  rw [decisionFor, decisionOf, decisionOf, decideHydrate, decideHydrate,
    Option.bind_some, Option.bind_some, member]

/-- An admitted snapshot is shipped as it is, or refused for the fields of its
own config. -/
theorem decisionFor_admitted (uri : JsString) {snapshot : Json}
    (admitted : Admitted snapshot) :
    decisionFor uri (some snapshot) = some (.ship (hydrateEnvelope snapshot)) ∨
      ∃ config forbidden, snapshot.member? (js "config") = some config ∧
        scanForbiddenSecrets (js "metadata.rts.config") config = forbidden ∧
        forbidden ≠ [] ∧
        decisionFor uri (some snapshot) =
          some (.rejectedForbiddenSecret forbidden) := by
  let forbidden := (snapshot.member? (js "config")).elim []
    (scanForbiddenSecrets (js "metadata.rts.config"))
  have decision : decisionFor uri (some snapshot) = some
      (if forbidden ≠ [] then .rejectedForbiddenSecret forbidden
        else .ship (hydrateEnvelope snapshot)) := by
    have member : (Json.object ((some snapshot).toList.map
        fun snapshot => (js "rts", snapshot))).member? (js "rts") =
          some snapshot := rfl
    rw [decisionFor, decisionOf, decideHydrate, Option.bind_some, member]
    simp only [admitted.isObject, admitted.schemaMajor, forbidden]
    cases snapshot.member? (js "config") with
    | none => rfl
    | some config => rfl
  rw [decision]
  cases held : snapshot.member? (js "config") with
  | none =>
      have clean : forbidden = [] := by
        simp only [forbidden, held, Option.elim_none]
      exact Or.inl (congrArg some (if_neg (not_not.mpr clean)))
  | some config =>
      have scanned :
          scanForbiddenSecrets (js "metadata.rts.config") config =
            forbidden := by
        simp only [forbidden, held, Option.elim_some]
      by_cases clean : forbidden = []
      · exact Or.inl (congrArg some (if_neg (not_not.mpr clean)))
      · exact Or.inr ⟨config, forbidden, rfl, scanned, clean,
          congrArg some (if_pos clean)⟩

/-- A session is at the place of its snapshot. -/
structure Refines (host : Host) (uri : JsString) (session : Session Version)
    (store : SnapshotStore Json) : Prop where
  held : ∀ data, session.notebook = some data →
    data.metadata.member? (js "rts") = store.held
  saved : ∀ data, host.deserializeNotebook session.file = some data →
    data.metadata.member? (js "rts") = store.saved
  decisions : session.decisions = store.reopened.map (decisionFor uri)

theorem Refines.step {session next : Session Version} {event : Event Version}
    {store : SnapshotStore Json}
    (invariant : Invariant host persisted session)
    (readable : ∀ data, session.notebook = some data → Readable host data)
    (refines : Refines host uri session store)
    (stepped : session.step host uri event = some next) :
    Refines host uri next
      ((observe host session event).toList.foldl SnapshotStore.step store) := by
  cases event with
  | openNotebook =>
      simp only [Session.step] at stepped
      split at stepped
      · cases stepped
      · next unreadable =>
          cases stepped
          rw [observe, unreadable]
          exact refines
      · next data _ loaded =>
          cases stepped
          rw [observe, loaded]
          refine ⟨fun opened isOpened => ?_, refines.saved, ?_⟩
          · cases isOpened
            exact refines.saved data loaded
          · have decision := (decisionOf_eq uri data.metadata).trans
              (congrArg (decisionFor uri) (refines.saved data loaded))
            have decisions : session.decisions ++
                [decisionOf uri data.metadata] =
                  (store.reopened ++ [store.saved]).map
                    (decisionFor uri) := by
              rw [refines.decisions, decision, List.map_append]
              rfl
            exact decisions
  | payload payload =>
      cases stepped
      exact ⟨refines.held, refines.saved, refines.decisions⟩
  | complete position completion =>
      obtain ⟨metadata, edit, isMetadata, isEdit, _, _, file, decisions,
        notebook⟩ := complete_cases stepped
      rcases notebook with ⟨notApplied, same⟩ | ⟨rfl, before, isBefore, isNext⟩
      · have unseen : observe host session
            (.complete position completion : Event Version) = none := by
          cases completion with
          | applied => exact absurd rfl notApplied
          | refused => rfl
          | threw => rfl
        rw [unseen]
        exact ⟨same ▸ refines.held, file ▸ refines.saved,
          decisions.trans refines.decisions⟩
      · have isSnapshot : (session.applier.edits.map Edit.snapshot)[position]? =
            some edit.snapshot := by
          rw [List.getElem?_map, isEdit]
          rfl
        obtain ⟨_, current, rfl, _⟩ :=
          related_of_forall₂ invariant.edits isMetadata isSnapshot
        rw [observe, isEdit]
        refine ⟨fun data isOpen => ?_, file ▸ refines.saved,
          decisions.trans refines.decisions⟩
        cases isNext.symm.trans isOpen
        exact member?_withRts current edit.snapshot
  | editCells cells =>
      simp only [Session.step] at stepped
      split at stepped
      · obtain ⟨data, isOpen, rfl⟩ := Option.map_eq_some_iff.mp stepped
        refine ⟨fun edited isEdited => ?_, refines.saved, refines.decisions⟩
        cases isEdited
        exact refines.held data isOpen
      · cases stepped
  | save =>
      obtain ⟨data, isOpen, rfl⟩ := Option.map_eq_some_iff.mp stepped
      refine ⟨refines.held, fun loaded isLoaded => ?_, refines.decisions⟩
      have saved := deserialize_serialize (invariant.notebook data isOpen).1
        (readable data isOpen)
      cases saved.symm.trans isLoaded
      exact refines.held data isOpen
  | close =>
      cases stepped
      exact ⟨fun _ isOpen => (nomatch isOpen), refines.saved,
        refines.decisions⟩
  | restart =>
      cases stepped
      exact ⟨fun _ isOpen => (nomatch isOpen), refines.saved,
        refines.decisions⟩

/-! ### Every run -/

/-- The metadata that the file begins with. -/
def persistedMetadata (host : Host) (content : List UInt8) : Json :=
  ((host.deserializeNotebook content).map NotebookData.metadata).getD
    (.object [])

/-- The place of the snapshot in a file that is not yet opened. -/
def SnapshotStore.ofFile (host : Host) (content : List UInt8) :
    SnapshotStore Json where
  held := none
  saved := (persistedMetadata host content).member? (js "rts")
  reopened := []

theorem persistedMetadata_eq {content : List UInt8} {data : NotebookData}
    (loaded : host.deserializeNotebook content = some data) :
    persistedMetadata host content = data.metadata := by
  rw [persistedMetadata, loaded]
  rfl

theorem Invariant.initial (content : List UInt8) :
    Invariant host (persistedMetadata host content)
      (Session.initial content : Session Version) where
  edits := .nil
  notebook := nofun
  file := fun data loaded key _ => by
    have same : persistedMetadata host content = data.metadata :=
      persistedMetadata_eq loaded
    rw [same]

theorem Refines.initial (content : List UInt8) :
    Refines host uri (Session.initial content : Session Version)
      (SnapshotStore.ofFile host content) where
  held := nofun
  saved := fun data loaded => by
    have same : persistedMetadata host content = data.metadata :=
      persistedMetadata_eq loaded
    rw [SnapshotStore.ofFile, same]
  decisions := rfl

omit [LinearOrder Version] in
/-- What is accepted is admitted. -/
theorem admitted_of_observe {session : Session Version}
    {event : Event Version} {snapshot : Json}
    (invariant : Invariant host persisted session)
    (accepts : observe host session event = some (.accept snapshot)) :
    Admitted snapshot := by
  cases event with
  | complete position completion =>
      cases completion with
      | applied =>
          obtain ⟨edit, isEdit, same⟩ := Option.map_eq_some_iff.mp accepts
          cases same
          have isSnapshot := List.mem_map_of_mem (f := Edit.snapshot)
            (List.mem_of_getElem? isEdit)
          obtain ⟨_, _, sets⟩ := exists_of_mem_right invariant.edits isSnapshot
          exact sets.1
      | refused => cases accepts
      | threw => cases accepts
  | openNotebook =>
      obtain ⟨_, _, same⟩ := Option.map_eq_some_iff.mp accepts
      cases same
  | payload payload => cases accepts
  | editCells cells => cases accepts
  | save => cases accepts
  | close => cases accepts
  | restart => cases accepts

/-- Every document that is open in the run is read as it was written. -/
def AllReadable (host : Host) (session : Session Version) : Prop :=
  ∀ data, session.notebook = some data → Readable host data

theorem refines_run {content : List UInt8} {events : List (Event Version)}
    {session final : Session Version} {store : SnapshotStore Json}
    (invariant : Invariant host persisted session)
    (refines : Refines host uri session store)
    (readable : (system host uri content).Always (AllReadable host) session
      events)
    (run : (system host uri content).exec session events = some final) :
    Invariant host persisted final ∧
      Refines host uri final
        ((observed host uri session events).foldl SnapshotStore.step store) ∧
      ∀ snapshot, .accept snapshot ∈ observed host uri session events →
        Admitted snapshot := by
  induction events generalizing session store with
  | nil =>
      cases run
      exact ⟨invariant, refines, fun _ accepted => (nomatch accepted)⟩
  | cons event rest inductionHypothesis =>
      obtain ⟨next, stepped, run⟩ := Option.bind_eq_some_iff.mp run
      have isStep : session.step host uri event = some next := stepped
      have nextInvariant := invariant.step readable.1 isStep
      have nextRefines := refines.step invariant readable.1 isStep
      obtain ⟨kept, refined, admitted⟩ := inductionHypothesis nextInvariant
        nextRefines (readable.2 next stepped) run
      have events : observed host uri session (event :: rest) =
          (observe host session event).toList ++
            observed host uri next rest := by
        rw [observed, isStep]
      rw [events, List.foldl_append]
      refine ⟨kept, refined, fun snapshot accepted => ?_⟩
      rcases List.mem_append.mp accepted with now | later
      · exact admitted_of_observe invariant (Option.mem_toList.mp now)
      · exact admitted snapshot later

/-- In every run the open document holds the snapshot that the place of the
snapshot holds, beside what the file had at first.  The loader has decided of
what was saved each time that the file was opened; a snapshot that the applier
let in is shipped as it is, or refused for the fields of its config. -/
theorem reopens_saved (host : Host) (uri : JsString) {content : List UInt8}
    {events : List (Event Version)} {session : Session Version}
    (run : (system host uri content).exec (Session.initial content) events =
      some session)
    (readable : (system host uri content).Always (AllReadable host)
      (Session.initial content) events) :
    let seen := observed host uri (Session.initial content) events
    let store := seen.foldl SnapshotStore.step
      (SnapshotStore.ofFile host content)
    (∀ data, session.notebook = some data →
      data.metadata.member? (js "rts") = store.held ∧
        SameOthers (persistedMetadata host content) data.metadata) ∧
    session.decisions = store.reopened.map (decisionFor uri) ∧
    ∀ snapshot, .accept snapshot ∈ seen →
      decisionFor uri (some snapshot) =
          some (.ship (hydrateEnvelope snapshot)) ∨
        ∃ config forbidden, snapshot.member? (js "config") = some config ∧
          scanForbiddenSecrets (js "metadata.rts.config") config = forbidden ∧
          forbidden ≠ [] ∧
          decisionFor uri (some snapshot) =
            some (.rejectedForbiddenSecret forbidden) := by
  intro seen store
  obtain ⟨invariant, refines, admitted⟩ := refines_run
    (Invariant.initial content) (Refines.initial content) readable run
  exact ⟨fun data isOpen =>
      ⟨refines.held data isOpen, (invariant.notebook data isOpen).2⟩,
    refines.decisions, fun snapshot accepted =>
      decisionFor_admitted uri (admitted snapshot accepted)⟩

end

/-- A snapshot of the first schema. -/
def firstSnapshot : Json :=
  .object [(js "schema_version", .string (js "1.0.0"))]

/-- A notebook without cells. -/
def bareNotebook (metadata : Json) : NotebookData :=
  ⟨[], metadata⟩

/-- A host that reads the notebook without cells, before and after. -/
def bareHost : Host :=
  knownValues
    [emptyDocument, okHost.encodeDocument
      (bareNotebook (.object [(js "rts", firstSnapshot)]))]
    rfl

/-- A notebook that is opened, given a snapshot, saved and opened again. -/
def saveAndReopen : List (Event Nat) :=
  [.openNotebook,
    .payload
      { mode := some (.string (js "snapshot"))
        snapshotVersion := some 1
        snapshot := some firstSnapshot },
    .complete 0 .applied, .save, .close, .openNotebook]

theorem bareHost_readable {metadata : Json}
    (known : metadata ∈ [.object [], .object [(js "rts", firstSnapshot)]]) :
    Readable bareHost (bareNotebook metadata) := by
  have distinct : ([bareHost.encodeDocument (bareNotebook (.object [])),
      bareHost.encodeDocument (bareNotebook
        (.object [(js "rts", firstSnapshot)]))].map
          (jsonText (js "  "))).Nodup := by
    decide
  rcases List.mem_cons.mp known with rfl | known
  · exact knownValues_parse distinct List.mem_cons_self
  · cases List.mem_singleton.mp known
    exact knownValues_parse distinct
      (List.mem_cons_of_mem _ List.mem_cons_self)

/-- The metadata of the notebook that holds the snapshot. -/
def filledMetadata : Json :=
  .object [(js "rts", firstSnapshot)]

/-- The session once the empty file is open. -/
def openedSession : Session Nat :=
  { Session.initial [] with
    notebook := some (bareNotebook (.object []))
    decisions := [some .skippedNoMetadata] }

/-- The session once the snapshot is saved and the notebook is closed. -/
def closedSession : Session Nat where
  applier :=
    { MetadataApplier.State.initial with
      lastAcceptedVersion := some 1
      announced := [some 1]
      rts := some firstSnapshot
      succeeded := [⟨some 1, firstSnapshot, []⟩] }
  nextMetadata := []
  notebook := none
  file := bareHost.serializeNotebook (bareNotebook filledMetadata)
  decisions := [some .skippedNoMetadata]

/-- The session once the notebook is open again. -/
def reopenedSession : Session Nat :=
  { closedSession with
    notebook := some (bareNotebook filledMetadata)
    decisions := [some .skippedNoMetadata,
      decisionOf (js "a") filledMetadata] }

theorem opens_empty :
    Session.step bareHost (js "a") (Session.initial []) .openNotebook =
      some openedSession := by
  have parsed : bareHost.parseDocument [] = some emptyDocument := by
    rw [Host.parseDocument, decodeText, decodeScalars.eq_1]
    rfl
  have loaded : bareHost.deserializeNotebook [] =
      some (bareNotebook (.object [])) := by
    rw [Host.deserializeNotebook, parsed]
    rfl
  simp only [Session.step, Session.initial, loaded]
  rfl

theorem reopens_filled :
    Session.step bareHost (js "a") closedSession .openNotebook =
      some reopenedSession := by
  have loaded : bareHost.deserializeNotebook
      (bareHost.serializeNotebook (bareNotebook filledMetadata)) =
        some (bareNotebook filledMetadata) :=
    deserialize_serialize ⟨rfl, nofun⟩
      (bareHost_readable (List.mem_cons_of_mem _ List.mem_cons_self))
  simp only [Session.step, closedSession, loaded]
  rfl

theorem allReadable_of_notebook {session : Session Nat} {metadata : Json}
    (known : metadata ∈ [.object [], filledMetadata])
    (isOpen : session.notebook = some (bareNotebook metadata)) :
    AllReadable bareHost session := by
  intro data isData
  cases isOpen.symm.trans isData
  exact bareHost_readable known

theorem saveAndReopen_readable :
    (system bareHost (js "a") []).Always (AllReadable bareHost)
      (Session.initial []) saveAndReopen := by
  have isEmpty : Json.object [] ∈ [.object [], filledMetadata] :=
    List.mem_cons_self
  have isFilled : filledMetadata ∈ [.object [], filledMetadata] :=
    List.mem_cons_of_mem _ List.mem_cons_self
  refine ⟨nofun, fun opened stepped => ?_⟩
  cases opens_empty.symm.trans stepped
  refine ⟨allReadable_of_notebook isEmpty rfl, fun started stepped => ?_⟩
  cases Option.some.inj stepped
  refine ⟨allReadable_of_notebook isEmpty rfl, fun applied stepped => ?_⟩
  cases Option.some.inj stepped
  refine ⟨allReadable_of_notebook isFilled rfl, fun saved stepped => ?_⟩
  cases Option.some.inj stepped
  refine ⟨allReadable_of_notebook isFilled rfl, fun closed stepped => ?_⟩
  cases Option.some.inj stepped
  refine ⟨nofun, fun reopened stepped => ?_⟩
  cases reopens_filled.symm.trans stepped
  exact allReadable_of_notebook isFilled rfl

/-- The snapshot is shipped when the notebook is opened again. -/
theorem firstSnapshot_reopened :
    ∃ session : Session Nat,
      (system bareHost (js "a") []).exec (Session.initial []) saveAndReopen =
        some session ∧
      session.decisions =
        (((observed bareHost (js "a") (Session.initial []) saveAndReopen).foldl
          SnapshotStore.step (SnapshotStore.ofFile bareHost [])).reopened.map
            (decisionFor (js "a"))) ∧
      session.decisions = [some .skippedNoMetadata,
        some (.ship (hydrateEnvelope firstSnapshot))] := by
  have middle : (system bareHost (js "a") []).exec openedSession
      (saveAndReopen.tail.take 4) = some closedSession := rfl
  have last : (system bareHost (js "a") []).exec closedSession
      [.openNotebook] = some reopenedSession := by
    rw [System.exec_cons]
    exact (congrArg (Option.bind · _) reopens_filled).trans rfl
  have run : (system bareHost (js "a") []).exec (Session.initial [])
      saveAndReopen = some reopenedSession := by
    have events : saveAndReopen =
        .openNotebook :: (saveAndReopen.tail.take 4 ++ [.openNotebook]) := rfl
    rw [events, System.exec_cons]
    refine (congrArg (Option.bind · _) opens_empty).trans ?_
    rw [Option.bind_some, System.exec_append, middle]
    exact last
  have shown := reopens_saved bareHost (js "a") run saveAndReopen_readable
  exact ⟨reopenedSession, run, shown.2.1, rfl⟩

end RtsNotebook.Notebook.Sessions
