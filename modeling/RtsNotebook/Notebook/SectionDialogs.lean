import Mathlib.Data.List.Induction
import RtsNotebook.Js.Members
import RtsNotebook.Messaging.RunMime
import RtsNotebook.Notebook.SectionCell

/-!
# The dialogs of a section

The header of a section stands in the status bar of its cells.  A click opens a
menu, the menu opens a dialog, and the dialog ships an overlay commit.  While a
dialog is open the notebook changes and other dialogs open; what it ships still
names the section of the header that was clicked.
-/

namespace RtsNotebook.Notebook.SectionDialogs

open RtsNotebook.Js RtsNotebook.Messaging
open RtsNotebook.Notebook.SectionCell (mintSectionIdFromTitle)

/-! ### The header -/

/-- `SectionStatus` -/
inductive SectionStatus where
  | opened
  | inProgress
  | complete
  | frozen
  deriving DecidableEq

def SectionStatus.text : SectionStatus → JsString
  | .opened => js "open"
  | .inProgress => js "in_progress"
  | .complete => js "complete"
  | .frozen => js "frozen"

def SECTION_STATUSES : List SectionStatus :=
  [.opened, .inProgress, .complete, .frozen]

/-- The status of that text. -/
def statusOf? (text : JsString) : Option SectionStatus :=
  SECTION_STATUSES.find? fun status => status.text = text

/-- `SectionHeaderRender` -/
structure SectionHeaderRender where
  sectionId : JsString
  title : JsString
  status : SectionStatus
  isFirst : Bool
  cellCount : Nat

/-- `renderHeaderText` -/
def SectionHeaderRender.text (header : SectionHeaderRender) : JsString :=
  if header.isFirst then
    js "§ " ++ header.title ++ js " (" ++ header.status.text ++ js ") · " ++
      natDigits header.cellCount ++ js " " ++
      (if header.cellCount = 1 then js "cell" else js "cells")
  else
    js "▸ " ++ header.title

/-- `value?.key` -/
def memberOf? (value : Option Json) (key : JsString) : Option Json :=
  value.bind fun value => value.member? key

/-- `value[key]`, as far as it is an object; the prototype is one. -/
def objectAt? (value : Json) (key : JsString) : Option Json :=
  match value.ownMembers.lookup key with
  | some found => if isObject found then some found else none
  | none => if key = js "__proto__" then some (.object []) else none

/-- `computeSectionHeader` -/
def computeSectionHeader (cellId : JsString) (metadata : Option Json) :
    Option SectionHeaderRender := do
  guard (cellId ≠ [])
  let rts := memberOf? metadata (js "rts")
  let sections ←
    (memberOf? (memberOf? rts (js "zone")) (js "sections")).filter
      Json.truthy
  let cells ← (memberOf? rts (js "cells")).filter Json.truthy
  let cellRec ← objectAt? cells cellId
  let sectionId ← (cellRec.member? (js "section_id")).bind Json.asString?
  guard (sectionId ≠ [])
  let sec ← objectAt? sections sectionId
  let cellRange :=
    match sec.member? (js "cell_range") with
    | some (.array cells) => cells.filterMap Json.asString?
    | _ => []
  pure
    { sectionId := sectionId
      title := ((sec.member? (js "title")).bind
        Json.asString?).getD sectionId
      status := (((sec.member? (js "status")).bind
        Json.asString?).bind statusOf?).getD .opened
      isFirst := cellRange.head? = some cellId
      cellCount := cellRange.length }

/-- `provideCellStatusBarItems`: the header for the first of the candidate ids
that has one. -/
def provideHeader (candidates : List JsString) (metadata : Option Json) :
    Option SectionHeaderRender :=
  candidates.findSome? fun cellId => computeSectionHeader cellId metadata

/-! ### The envelopes -/

/-- The digits of a UUID. -/
def uuidDigits (uuid : JsString) : JsString :=
  uuid.filter fun codeUnit => codeUnit ≠ unit '-'

/-- `mintIntentId`, on a UUID. -/
def mintIntentId (intentPrefix uuid : JsString) : JsString :=
  intentPrefix ++ js "-" ++ (uuidDigits uuid).take 12

/-- `buildOverlayCommitEnvelope` -/
def buildOverlayCommitEnvelope (operations : List Json)
    (message intentPrefix uuid : JsString) : Json :=
  .object
    [(js "type", .string (js "operator.action")),
      (js "payload", .object
        [(js "action_type", .string (js "zone_mutate")),
          (js "intent_kind", .string (js "apply_overlay_commit")),
          (js "parameters", .object
            [(js "operations", .array operations),
              (js "message", .string message)]),
          (js "intent_id", .string (mintIntentId intentPrefix uuid))])]

def buildCreateSectionEnvelope (sectionId title : JsString)
    (cellRange : List JsString) (uuid : JsString) : Json :=
  let create : Json := .object
    [(js "kind", .string (js "create_section")),
      (js "section_id", .string sectionId), (js "title", .string title)]
  let move : Json := .object
    [(js "kind", .string (js "move_cells_into_section")),
      (js "target_section_id", .string sectionId),
      (js "cell_ids", .array (cellRange.map .string)),
      (js "position", .number (.finite .zero))]
  buildOverlayCommitEnvelope
    (create :: if cellRange = [] then [] else [move])
    (js "create section " ++ sectionId)
    (js "sec-create-" ++ sectionId.take 12) uuid

def buildRenameSectionEnvelope (sectionId title uuid : JsString) : Json :=
  buildOverlayCommitEnvelope
    [.object
      [(js "kind", .string (js "rename_section")),
        (js "section_id", .string sectionId), (js "title", .string title)]]
    (js "rename section " ++ sectionId)
    (js "sec-rename-" ++ sectionId.take 12) uuid

def buildDeleteSectionEnvelope (sectionId uuid : JsString) : Json :=
  buildOverlayCommitEnvelope
    [.object
      [(js "kind", .string (js "delete_section")),
        (js "section_id", .string sectionId)]]
    (js "delete section " ++ sectionId)
    (js "sec-delete-" ++ sectionId.take 12) uuid

def buildSetSectionStatusEnvelope (sectionId : JsString)
    (newStatus : SectionStatus) (uuid : JsString) : Json :=
  buildOverlayCommitEnvelope
    [.object
      [(js "kind", .string (js "set_section_status")),
        (js "section_id", .string sectionId),
        (js "new_status", .string newStatus.text)]]
    (js "set section " ++ sectionId ++ js " status → " ++ newStatus.text)
    (js "sec-status-" ++ sectionId.take 12) uuid

/-! ### The dialogs -/

/-- What an open dialog waits for: an action of the menu, a title, a
confirmation or a status. -/
inductive Dialog where
  | actions (sectionId title : JsString)
  | create (cellIds : List JsString)
  | rename (sectionId currentTitle : JsString)
  | delete (sectionId title : JsString)
  | setStatus (sectionId : JsString)

/-- How an answered dialog goes on. -/
inductive Answered where
  | closed
  | next (dialog : Dialog)
  | ship (envelope : Json)

/-- `inputBox` of `VsCodeSectionPromptSink` -/
def trimmed? (input : Option JsString) : Option JsString :=
  (input.map trim).filter fun title => title ≠ []

/-- What a runner does with the answer to its prompt; no answer stands for
`undefined`.  The UUIDs are those of the intent and of a new section. -/
def Dialog.answer (dialog : Dialog) (input : Option JsString)
    (uuid sectionUuid : JsString) : Answered :=
  match dialog with
  | .actions sectionId title =>
      if input = some (js "Rename") then
        .next (.rename sectionId title)
      else if input = some (js "Delete") then
        .next (.delete sectionId title)
      else if input = some (js "Set status…") then
        .next (.setStatus sectionId)
      else
        .closed
  | .create cellIds =>
      match trimmed? input with
      | none => .closed
      | some title =>
          .ship (buildCreateSectionEnvelope
            (mintSectionIdFromTitle title ((uuidDigits sectionUuid).take 6))
            title cellIds uuid)
  | .rename sectionId _ =>
      match trimmed? input with
      | none => .closed
      | some title => .ship (buildRenameSectionEnvelope sectionId title uuid)
  | .delete sectionId _ =>
      if input = some (js "Delete") then
        .ship (buildDeleteSectionEnvelope sectionId uuid)
      else
        .closed
  | .setStatus sectionId =>
      match input.bind statusOf? with
      | none => .closed
      | some status =>
          .ship (buildSetSectionStatusEnvelope sectionId status uuid)

/-! ### The session -/

/-- The notebook, the headers that are shown in the bars of the cells, the
dialogs that are open and what was enqueued. -/
structure Session where
  metadata : Option Json
  shown : Nat → Option SectionHeaderRender
  dialogs : List (Nat × Dialog)
  nextId : Nat
  outbox : List Json

/-- The metadata change; the editor asks for the items of a cell; a header is
clicked; the command `llmnb.section.create` is run; a dialog is answered. -/
inductive Event where
  | metadata (metadata : Option Json)
  | render (cell : Nat) (candidates : List JsString)
  | click (cell : Nat)
  | create (cellIds : List JsString)
  | answer (id : Nat) (input : Option JsString) (uuid sectionUuid : JsString)

namespace Session

def initial : Session where
  metadata := none
  shown := fun _ => none
  dialogs := []
  nextId := 0
  outbox := []

/-- Open a dialog. -/
def ask (session : Session) (dialog : Dialog) : Session :=
  { session with
    dialogs := session.dialogs ++ [(session.nextId, dialog)]
    nextId := session.nextId + 1 }

/-- A dialog is over once it is answered. -/
def close (session : Session) (id : Nat) : Session :=
  { session with dialogs := session.dialogs.filter fun entry => entry.1 ≠ id }

def answer (session : Session) (id : Nat) (input : Option JsString)
    (uuid sectionUuid : JsString) : Session :=
  match session.dialogs.lookup id with
  | none => session
  | some dialog =>
      match dialog.answer input uuid sectionUuid with
      | .closed => session.close id
      | .next dialog => (session.close id).ask dialog
      | .ship envelope =>
          { session.close id with outbox := session.outbox ++ [envelope] }

def step (session : Session) : Event → Session
  | .metadata metadata => { session with metadata := metadata }
  | .render cell candidates =>
      { session with
        shown := Function.update session.shown cell
          (provideHeader candidates session.metadata) }
  | .click cell =>
      match session.shown cell with
      | none => session
      | some header =>
          if header.sectionId = [] then
            session
          else
            session.ask (.actions header.sectionId header.title)
  | .create cellIds => session.ask (.create cellIds)
  | .answer id input uuid sectionUuid =>
      session.answer id input uuid sectionUuid

def run (events : List Event) : Session :=
  events.foldl step initial

end Session

/-! ### Where a dialog comes from -/

/-- A header is shown in the bar of a cell: it was provided when the editor
asked for the items of that cell the last time. -/
def Shown (events : List Event) (cell : Nat)
    (header : SectionHeaderRender) : Prop :=
  ∃ earlier candidates between,
    events = earlier ++ .render cell candidates :: between ∧
    provideHeader candidates (Session.run earlier).metadata = some header ∧
    ∀ other, .render cell other ∉ between

/-- A header was clicked while it was shown. -/
def Clicked (events : List Event) (header : SectionHeaderRender) : Prop :=
  ∃ earlier cell later, events = earlier ++ .click cell :: later ∧
    Shown earlier cell header

/-- A dialog is about the section of a header that was clicked, or the command
that creates sections was run. -/
def Dialog.From (events : List Event) : Dialog → Prop
  | .actions sectionId title | .rename sectionId title
  | .delete sectionId title =>
      ∃ header, Clicked events header ∧ header.sectionId = sectionId ∧
        header.title = title
  | .setStatus sectionId =>
      ∃ header, Clicked events header ∧ header.sectionId = sectionId
  | .create cellIds => .create cellIds ∈ events

/-- An envelope that a dialog ships. -/
inductive Shipped (events : List Event) : Json → Prop where
  | create {cellIds : List JsString} (asked : .create cellIds ∈ events)
      {title : JsString} (titled : title ≠ []) (tail uuid : JsString) :
      Shipped events (buildCreateSectionEnvelope
        (mintSectionIdFromTitle title tail) title cellIds uuid)
  | rename {header : SectionHeaderRender} (clicked : Clicked events header)
      {title : JsString} (titled : title ≠ []) (uuid : JsString) :
      Shipped events (buildRenameSectionEnvelope header.sectionId title uuid)
  | delete {header : SectionHeaderRender} (clicked : Clicked events header)
      (uuid : JsString) :
      Shipped events (buildDeleteSectionEnvelope header.sectionId uuid)
  | setStatus {header : SectionHeaderRender}
      (clicked : Clicked events header) (status : SectionStatus)
      (uuid : JsString) :
      Shipped events
        (buildSetSectionStatusEnvelope header.sectionId status uuid)

section

variable {events : List Event} {header : SectionHeaderRender}
  {dialog : Dialog} {envelope : Json}

theorem Clicked.append (clicked : Clicked events header)
    (more : List Event) : Clicked (events ++ more) header := by
  obtain ⟨earlier, cell, later, isSplit, shown⟩ := clicked
  exact ⟨earlier, cell, later ++ more, by simp [isSplit], shown⟩

theorem Dialog.From.append (isFrom : dialog.From events)
    (more : List Event) : dialog.From (events ++ more) := by
  cases dialog with
  | create cellIds => exact List.mem_append_left more isFrom
  | setStatus sectionId =>
      obtain ⟨header, clicked, same⟩ := isFrom
      exact ⟨header, clicked.append more, same⟩
  | _ =>
      obtain ⟨header, clicked, same⟩ := isFrom
      exact ⟨header, clicked.append more, same⟩

theorem Shipped.append (shipped : Shipped events envelope)
    (more : List Event) : Shipped (events ++ more) envelope := by
  cases shipped with
  | create asked titled tail uuid =>
      exact .create (List.mem_append_left more asked) titled tail uuid
  | rename clicked titled uuid =>
      exact .rename (clicked.append more) titled uuid
  | delete clicked uuid => exact .delete (clicked.append more) uuid
  | setStatus clicked status uuid =>
      exact .setStatus (clicked.append more) status uuid

theorem trimmed?_ne_nil {input : Option JsString} {title : JsString}
    (isTitle : trimmed? input = some title) : title ≠ [] := by
  rw [trimmed?, Option.filter_eq_some_iff] at isTitle
  exact of_decide_eq_true isTitle.2

/-- What an answer leads to comes from where the dialog comes. -/
def Answered.From (events : List Event) : Answered → Prop
  | .closed => True
  | .next dialog => dialog.From events
  | .ship envelope => Shipped events envelope

theorem Dialog.From.answer (isFrom : dialog.From events)
    (input : Option JsString) (uuid sectionUuid : JsString) :
    (dialog.answer input uuid sectionUuid).From events := by
  cases dialog with
  | actions sectionId title =>
      obtain ⟨header, clicked, sameId, sameTitle⟩ := isFrom
      rw [Dialog.answer]
      split
      · exact ⟨header, clicked, sameId, sameTitle⟩
      · split
        · exact ⟨header, clicked, sameId, sameTitle⟩
        · split
          · exact ⟨header, clicked, sameId⟩
          · trivial
  | create cellIds =>
      rw [Dialog.answer]
      cases isTitle : trimmed? input with
      | none => trivial
      | some title => exact .create isFrom (trimmed?_ne_nil isTitle) _ uuid
  | rename sectionId currentTitle =>
      obtain ⟨header, clicked, rfl, -⟩ := isFrom
      rw [Dialog.answer]
      cases isTitle : trimmed? input with
      | none => trivial
      | some title => exact .rename clicked (trimmed?_ne_nil isTitle) uuid
  | delete sectionId title =>
      obtain ⟨header, clicked, rfl, -⟩ := isFrom
      rw [Dialog.answer]
      split
      · exact .delete clicked uuid
      · trivial
  | setStatus sectionId =>
      obtain ⟨header, clicked, rfl⟩ := isFrom
      rw [Dialog.answer]
      cases input.bind statusOf? with
      | none => trivial
      | some status => exact .setStatus clicked status uuid

/-! ### The runs -/

/-- The event opens a dialog. -/
def Event.opens : Event → Bool
  | .click _ => true
  | .create _ => true
  | _ => false

/-- What holds of a session after the events. -/
structure Traces (events : List Event) (session : Session) : Prop where
  shown : ∀ cell header, session.shown cell = some header →
    Shown events cell header
  dialogs : ∀ entry ∈ session.dialogs, entry.2.From events
  outbox : ∀ envelope ∈ session.outbox, Shipped events envelope
  atMost : session.dialogs.length + session.outbox.length ≤
    events.countP Event.opens

theorem traces_initial : Traces [] Session.initial where
  shown := fun _ _ isShown => nomatch isShown
  dialogs := fun _ member => nomatch member
  outbox := fun _ member => nomatch member
  atMost := Nat.le_refl 0

theorem Shown.append {cell : Nat} {event : Event}
    (shown : Shown events cell header)
    (other : ∀ candidates, event ≠ .render cell candidates) :
    Shown (events ++ [event]) cell header := by
  obtain ⟨earlier, candidates, between, isSplit, provided, last⟩ := shown
  refine ⟨earlier, candidates, between ++ [event], by simp [isSplit],
    provided, fun candidates member => ?_⟩
  rcases List.mem_append.mp member with inside | isEvent
  · exact last candidates inside
  · exact other candidates (List.mem_singleton.mp isEvent).symm

variable {session : Session}

/-- An event that changes none of the lists and no header. -/
theorem Traces.append (traces : Traces events session) (event : Event)
    (noRender : ∀ cell candidates, event ≠ .render cell candidates) :
    Traces (events ++ [event]) session where
  shown := fun cell header isShown =>
    (traces.shown cell header isShown).append (noRender cell)
  dialogs := fun entry member => (traces.dialogs entry member).append [event]
  outbox := fun envelope member =>
    (traces.outbox envelope member).append [event]
  atMost := by
    rw [List.countP_append]
    exact Nat.le_add_right_of_le traces.atMost

/-- A dialog is opened in the place of one that was closed, or by an event. -/
theorem Traces.ask (traces : Traces events session)
    (isFrom : dialog.From events)
    (room : session.dialogs.length + session.outbox.length <
      events.countP Event.opens) : Traces events (session.ask dialog) where
  shown := traces.shown
  dialogs := by
    intro entry member
    rcases List.mem_append.mp member with earlier | last
    · exact traces.dialogs entry earlier
    · rw [List.mem_singleton.mp last]
      exact isFrom
  outbox := traces.outbox
  atMost := by
    have grown : (session.ask dialog).dialogs.length =
        session.dialogs.length + 1 := List.length_append
    have same : (session.ask dialog).outbox = session.outbox := rfl
    rw [grown, same]
    omega

theorem mem_of_lookup {id : Nat}
    (isOpen : session.dialogs.lookup id = some dialog) :
    (id, dialog) ∈ session.dialogs := by
  obtain ⟨before, after, isSplit, -⟩ := List.lookup_eq_some_iff.mp isOpen
  rw [isSplit]
  exact List.mem_append_right _ List.mem_cons_self

/-- The dialog that is answered is closed. -/
theorem length_close {id : Nat}
    (isOpen : session.dialogs.lookup id = some dialog) :
    (session.close id).dialogs.length < session.dialogs.length := by
  apply List.length_filter_lt_length_iff_exists.mpr
  exact ⟨(id, dialog), mem_of_lookup isOpen, by simp⟩

theorem Traces.close (traces : Traces events session) (id : Nat) :
    Traces events (session.close id) where
  shown := traces.shown
  dialogs := fun entry member =>
    traces.dialogs entry (List.mem_of_mem_filter member)
  outbox := traces.outbox
  atMost := by
    have fewer : (session.close id).dialogs.length ≤
        session.dialogs.length := List.length_filter_le _ _
    exact Nat.le_trans (Nat.add_le_add_right fewer _) traces.atMost

/-- An answer leaves as many dialogs and envelopes as before, or fewer. -/
theorem Traces.answer (traces : Traces events session) (id : Nat)
    (input : Option JsString) (uuid sectionUuid : JsString) :
    Traces events (session.answer id input uuid sectionUuid) := by
  rw [Session.answer]
  cases isOpen : session.dialogs.lookup id with
  | none => exact traces
  | some dialog =>
      have isFrom : (dialog.answer input uuid sectionUuid).From events :=
        (traces.dialogs _ (mem_of_lookup isOpen)).answer input uuid
          sectionUuid
      have fewer := length_close isOpen
      have atMost := traces.atMost
      have closed := traces.close id
      dsimp only
      cases answered : dialog.answer input uuid sectionUuid with
      | closed => exact closed
      | next dialog =>
          rw [answered] at isFrom
          refine closed.ask isFrom ?_
          exact Nat.lt_of_lt_of_le (Nat.add_lt_add_right fewer _) atMost
      | ship envelope =>
          rw [answered] at isFrom
          refine ⟨closed.shown, closed.dialogs, fun other member => ?_, ?_⟩
          · rcases List.mem_append.mp member with earlier | last
            · exact traces.outbox other earlier
            · rw [List.mem_singleton.mp last]
              exact isFrom
          · show (session.close id).dialogs.length +
              (session.outbox ++ [envelope]).length ≤ _
            rw [List.length_append, List.length_singleton]
            omega

theorem shown_render (session : Session) (cell other : Nat)
    (candidates : List JsString) :
    (session.step (.render cell candidates)).shown other =
      if other = cell then provideHeader candidates session.metadata
      else session.shown other :=
  Function.update_apply session.shown cell _ other

theorem Traces.step (traces : Traces events (Session.run events))
    (event : Event) :
    Traces (events ++ [event]) ((Session.run events).step event) := by
  cases event with
  | metadata metadata =>
      have kept := traces.append (.metadata metadata)
        fun _ _ same => nomatch same
      exact ⟨kept.shown, kept.dialogs, kept.outbox, kept.atMost⟩
  | answer id input uuid sectionUuid =>
      have kept := traces.append (.answer id input uuid sectionUuid)
        fun _ _ same => nomatch same
      exact kept.answer id input uuid sectionUuid
  | create cellIds =>
      have kept := traces.append (.create cellIds)
        fun _ _ same => nomatch same
      have asked : Dialog.From (events ++ [.create cellIds])
          (.create cellIds) := List.mem_append_right _ List.mem_cons_self
      refine kept.ask asked ?_
      rw [List.countP_append]
      exact Nat.lt_succ_of_le traces.atMost
  | click cell =>
      have kept := traces.append (.click cell)
        fun _ _ same => nomatch same
      rw [Session.step]
      cases isShown : (Session.run events).shown cell with
      | none => exact kept
      | some header =>
          dsimp only
          split
          · exact kept
          · refine kept.ask ⟨header, ⟨events, cell, [], rfl,
              traces.shown cell header isShown⟩, rfl, rfl⟩ ?_
            rw [List.countP_append]
            exact Nat.lt_succ_of_le traces.atMost
  | render cell candidates =>
      refine ⟨fun other header isShown => ?_,
        fun entry member => (traces.dialogs entry member).append _,
        fun envelope member => (traces.outbox envelope member).append _, ?_⟩
      · by_cases own : other = cell
        · subst own
          refine ⟨events, candidates, [], rfl, ?_, fun _ member =>
            nomatch member⟩
          rwa [shown_render, if_pos rfl] at isShown
        · rw [shown_render, if_neg own] at isShown
          refine (traces.shown other header isShown).append ?_
          rintro found ⟨⟩
          exact own rfl
      · rw [List.countP_append]
        exact traces.atMost

theorem traces_run (events : List Event) :
    Traces events (Session.run events) := by
  induction events using List.reverseRecOn with
  | nil => exact traces_initial
  | append_singleton events event inductionHypothesis =>
      have stepped := inductionHypothesis.step event
      rw [Session.run, List.foldl_append]
      exact stepped

end

end RtsNotebook.Notebook.SectionDialogs
