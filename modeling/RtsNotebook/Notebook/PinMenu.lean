import Mathlib.Data.List.Induction
import RtsNotebook.Library.Conversations
import RtsNotebook.Library.Runs
import RtsNotebook.Notebook.MetadataLoader
import RtsNotebook.Notebook.PinStatusHeader

/-!
# The menu of the pin status

The chip of the status bar shows the hash mode of the notebook, and a click
opens a menu of actions.  An action asks for a pin or for the acceptance of the
risk, and inserts an `@auth` cell at the top of a notebook.  While its dialogs
are open the config changes, other notebooks become active, and the chip is
clicked again.
-/

namespace RtsNotebook.Notebook.PinMenu

open RtsNotebook.Library RtsNotebook.Js
open RtsNotebook.Notebook.MetadataApplier (NotebookMetadataPayload)
open RtsNotebook.Notebook.MetadataLoader (NOTEBOOK_TYPE)
open RtsNotebook.Notebook.PinStatusHeader

/-! ### The chip -/

/-- `PinStatusChip` -/
structure PinStatusChip where
  text : JsString
  tooltip : JsString
  hashEnabled : Bool
  injectionAccepted : Bool
  fingerprintTail : Option JsString

def CHIP_LOCK_ON : JsString := js "$(lock) hash mode"

def CHIP_LOCK_OFF : JsString := js "$(unlock) unprotected"

def INJECTION_PREFIX : JsString := js "$(warning) injection-accepted "

/-- `fingerprint && fingerprint.length >= 4 ? fingerprint.slice(-4) : null` -/
def fingerprintTail? (cfg : RtsConfigSlot) : Option JsString :=
  (cfg.magicPinFingerprint.filter fun fingerprint =>
    4 ≤ fingerprint.length).map fun fingerprint =>
      fingerprint.drop (fingerprint.length - 4)

/-- `computePinStatusChip` -/
def computePinStatusChip (cfg : RtsConfigSlot) : PinStatusChip :=
  let tail := fingerprintTail? cfg
  let text :=
    if cfg.magicHashEnabled then
      tail.elim CHIP_LOCK_ON fun tail =>
        CHIP_LOCK_ON ++ js " (…" ++ tail ++ js ")"
    else
      CHIP_LOCK_OFF
  let tooltip :=
    if cfg.magicHashEnabled then
      js "Magic-cell hash mode is ON." ++
        (tail.elim [] fun tail =>
          js " Pin fingerprint ends …" ++ tail ++ js ".") ++
        js "\nClick to verify pin / rotate pin / disable hash mode."
    else
      js "Magic-cell hash mode is OFF.\n" ++
        js "Click to set pin (enables hash mode) or refuse hash mode " ++
        js "(records arbitrary-injection acceptance)."
  { text :=
      cfg.injectionAcceptance.elim text fun _ => INJECTION_PREFIX ++ text
    tooltip :=
      cfg.injectionAcceptance.elim tooltip fun acceptance =>
        js "WARNING: this notebook accepts arbitrary code injection from " ++
          js "agent outputs.\nVerbatim record: " ++ acceptance ++
          js "\n\n" ++ tooltip
    hashEnabled := cfg.magicHashEnabled
    injectionAccepted := cfg.injectionAcceptance.isSome
    fingerprintTail := tail }

def ACTION_SET_PIN : JsString := js "Set pin (enable hash mode)"

def ACTION_ROTATE_PIN : JsString := js "Rotate pin"

def ACTION_VERIFY_PIN : JsString := js "Verify pin"

def ACTION_DISABLE_HASH_MODE : JsString := js "Disable hash mode"

def ACTION_REFUSE_HASH_MODE : JsString :=
  js "Refuse hash mode (accept injection risk)"

/-- `actionsForChip` -/
def actionsForChip (chip : PinStatusChip) : List JsString :=
  if chip.hashEnabled then
    [ACTION_VERIFY_PIN, ACTION_ROTATE_PIN, ACTION_DISABLE_HASH_MODE]
  else if chip.injectionAccepted then
    [ACTION_SET_PIN]
  else
    [ACTION_SET_PIN, ACTION_REFUSE_HASH_MODE]

/-! ### The notebooks of the window -/

structure Document where
  uri : JsString
  notebookType : JsString

/-- The active notebook and the open ones. -/
structure Window where
  active : Option Document
  notebookDocuments : List Document

def Document.isLlmnb (document : Document) : Bool :=
  document.notebookType = NOTEBOOK_TYPE

/-- `findActiveLlmnb` -/
def Window.findActiveLlmnb (window : Window) : Option Document :=
  (window.active.filter Document.isLlmnb).or
    (window.notebookDocuments.find? Document.isLlmnb)

/-! ### The dialogs -/

/-- `args.kind` of `promptPin` -/
inductive PinKind where
  | set
  | rotate
  | verify
  deriving DecidableEq

/-- The cases of `authCellText` that have an argument. -/
def authCellText (kind : PinKind) (pin : JsString) : JsString :=
  match kind with
  | .set => trimEnd (js "@auth set " ++ pin)
  | .rotate => trimEnd (js "@auth rotate " ++ pin)
  | .verify => trimEnd (js "@auth verify " ++ pin)

def AUTH_OFF : JsString := js "@auth off"

def AUTH_REFUSE : JsString := js "@auth refuse"

def REFUSE_BUTTON_ACCEPT : JsString := js "I understand, accept anyway"

def REFUSE_BUTTON_CANCEL : JsString := js "Cancel"

def REFUSE_BUTTON_TELL_ME : JsString := js "Tell me more"

/-- What an open dialog waits for: an action of the menu, a pin, a button of the
warning, the end of the explanation, or the edit that inserts a cell. -/
inductive Dialog where
  | menu (actions : List JsString) (placeholder : JsString)
  | promptPin (kind : PinKind)
  | warn (buttons : List JsString)
  | info
  | applyEdit (uri text : JsString)

/-- A choice or an input, where none stands for `undefined`; the end of an
explanation; whether an edit was applied. -/
inductive Reply where
  | chosen (value : Option JsString)
  | dismissed
  | applied (ok : Bool)
  deriving DecidableEq

/-- A cell that was inserted at the top of a notebook. -/
structure Insertion where
  uri : JsString
  text : JsString
  deriving DecidableEq

/-- What the editor replies to a dialog: a menu and a warning give one of their
items, and an input is returned once `validateInput` lets it through. -/
def admits : Dialog → Reply → Bool
  | .menu actions _, .chosen value => value.all fun item => item ∈ actions
  | .promptPin _, .chosen value => value.all fun pin => 12 ≤ pin.length
  | .warn buttons, .chosen value => value.all fun item => item ∈ buttons
  | .info, .dismissed => true
  | .applyEdit _ _, .applied _ => true
  | _, _ => false

/-- `insertTopCell`, up to the edit. -/
def insertTopCell (window : Window) (text : JsString) :
    Next Dialog Insertion :=
  match window.findActiveLlmnb with
  | none => .closed
  | some nb => .ask (.applyEdit nb.uri text)

/-- The warning of `refuseHashModeFlow`. -/
def refuseWarning : Dialog :=
  .warn [REFUSE_BUTTON_ACCEPT, REFUSE_BUTTON_CANCEL, REFUSE_BUTTON_TELL_ME]

/-- `dispatchPinAction` -/
def dispatchPinAction (window : Window) (action : JsString) :
    Next Dialog Insertion :=
  if action = ACTION_SET_PIN then
    .ask (.promptPin .set)
  else if action = ACTION_ROTATE_PIN then
    .ask (.promptPin .rotate)
  else if action = ACTION_VERIFY_PIN then
    .ask (.promptPin .verify)
  else if action = ACTION_DISABLE_HASH_MODE then
    insertTopCell window AUTH_OFF
  else if action = ACTION_REFUSE_HASH_MODE then
    .ask refuseWarning
  else
    .closed

/-- How `openPinStatusMenu` and the flows go on. -/
def answer (window : Window) : Dialog → Reply → Next Dialog Insertion
  | .menu _ _, .chosen (some action) => dispatchPinAction window action
  | .promptPin kind, .chosen (some pin) =>
      if pin.length = 0 then
        .closed
      else
        insertTopCell window (authCellText kind pin)
  | .warn _, .chosen (some choice) =>
      if choice = REFUSE_BUTTON_TELL_ME then
        .ask .info
      else if choice ≠ REFUSE_BUTTON_ACCEPT then
        .closed
      else
        insertTopCell window AUTH_REFUSE
  | .info, .dismissed => .ask refuseWarning
  | .applyEdit uri text, .applied true => .act { uri := uri, text := text }
  | _, _ => .closed

def pinScript : Script Window Dialog Reply Insertion where
  admits := admits
  answer := answer

/-- The menu that `openPinStatusMenu` opens. -/
def openPinStatusMenu (cfg : RtsConfigSlot) : Dialog :=
  let chip := computePinStatusChip cfg
  .menu (actionsForChip chip)
    (if chip.hashEnabled then
      js "Hash mode is ON — pick an action"
    else
      js "Hash mode is OFF — pick an action")

/-! ### The session -/

/-- The status bar item; while it is hidden it keeps what it showed. -/
structure StatusBarItem where
  visible : Bool
  text : JsString
  tooltip : JsString
  warningBackground : Bool

/-- `refresh` -/
def StatusBarItem.refresh (item : StatusBarItem) (window : Window)
    (registry : PinStatusRegistry) : StatusBarItem :=
  if window.active.any Document.isLlmnb then
    let chip := computePinStatusChip registry.state
    { visible := true
      text := chip.text
      tooltip := chip.tooltip
      warningBackground := chip.injectionAccepted }
  else
    { item with visible := false }

structure Session where
  registry : PinStatusRegistry
  window : Window
  item : StatusBarItem
  desk : Desk Dialog Insertion

/-- A frame of metadata arrives; another notebook becomes active; notebooks open
and close; the command of the chip is run; a dialog gets a reply. -/
inductive Event (Version : Type*) where
  | metadata (payload : NotebookMetadataPayload Version)
  | activate (active : Option Document)
  | documents (notebookDocuments : List Document)
  | openMenu
  | reply (id : Nat) (reply : Reply)

namespace Session

variable {Version : Type*}

def initial : Session where
  registry := .initial
  window := { active := none, notebookDocuments := [] }
  item :=
    { visible := false, text := [], tooltip := [], warningBackground := false }
  desk := .empty

/-- The listeners of the host: a change of the config and of the active editor
refresh the item. -/
def step (session : Session) : Event Version → Option Session
  | .metadata payload =>
      let registry := session.registry.onNotebookMetadata payload
      some
        { session with
          registry := registry
          item :=
            if registry.changes = session.registry.changes then
              session.item
            else
              session.item.refresh session.window registry }
  | .activate active =>
      let window := { session.window with active := active }
      some
        { session with
          window := window
          item := session.item.refresh window session.registry }
  | .documents notebookDocuments => some
      { session with
        window :=
          { session.window with notebookDocuments := notebookDocuments } }
  | .openMenu => some
      { session with
        desk := session.desk.start
          (openPinStatusMenu session.registry.state) }
  | .reply id reply =>
      (session.desk.reply pinScript session.window id reply).map fun desk =>
        { session with desk := desk }

end Session

/-- The window with the chip in its status bar. -/
def pinSystem (Version : Type*) : System Session (Event Version) where
  initial := .initial
  step := Session.step

/-! ### What was chosen -/

/-- The action of the menu that asks for such a pin. -/
def PinKind.action : PinKind → JsString
  | .set => ACTION_SET_PIN
  | .rotate => ACTION_ROTATE_PIN
  | .verify => ACTION_VERIFY_PIN

/-- Rounds in which the explanation was asked for and read. -/
def explained (rounds : Nat) : List Reply :=
  (List.replicate rounds
    [.chosen (some REFUSE_BUTTON_TELL_ME), .dismissed]).flatten

/-- The replies that choose a cell, from a menu that was opened when the config
was this one. -/
inductive Chosen (cfg : RtsConfigSlot) : List Reply → JsString → Prop where
  | pin (kind : PinKind) (mode : cfg.magicHashEnabled = (kind ≠ .set : Bool))
      (pin : JsString) (long : 12 ≤ pin.length) :
      Chosen cfg [.chosen (some kind.action), .chosen (some pin)]
        (authCellText kind pin)
  | disable (isOn : cfg.magicHashEnabled = true) :
      Chosen cfg [.chosen (some ACTION_DISABLE_HASH_MODE)] AUTH_OFF
  | refuse (isOff : cfg.magicHashEnabled = false)
      (unrecorded : cfg.injectionAcceptance = none) (rounds : Nat) :
      Chosen cfg
        (.chosen (some ACTION_REFUSE_HASH_MODE) :: explained rounds ++
          [.chosen (some REFUSE_BUTTON_ACCEPT)])
        AUTH_REFUSE

/-- A notebook that was found in a window that has been seen. -/
def Found (seen : Window → Prop) (uri : JsString) : Prop :=
  ∃ window document, seen window ∧
    window.findActiveLlmnb = some document ∧ document.uri = uri

/-- Where a conversation is after some replies. -/
def Within (seen : Window → Prop) (cfg : RtsConfigSlot)
    (replies : List Reply) : Dialog → Prop
  | .menu actions _ =>
      replies = [] ∧ actions = actionsForChip (computePinStatusChip cfg)
  | .promptPin kind =>
      replies = [.chosen (some kind.action)] ∧
        cfg.magicHashEnabled = (kind ≠ .set : Bool)
  | .warn buttons =>
      .warn buttons = refuseWarning ∧ cfg.magicHashEnabled = false ∧
        cfg.injectionAcceptance = none ∧
        ∃ rounds, replies =
          .chosen (some ACTION_REFUSE_HASH_MODE) :: explained rounds
  | .info =>
      cfg.magicHashEnabled = false ∧ cfg.injectionAcceptance = none ∧
        ∃ rounds, replies =
          .chosen (some ACTION_REFUSE_HASH_MODE) :: explained rounds ++
            [.chosen (some REFUSE_BUTTON_TELL_ME)]
  | .applyEdit uri text => Chosen cfg replies text ∧ Found seen uri

section

variable {seen : Window → Prop} {cfg : RtsConfigSlot} {window : Window}
  {replies : List Reply} {next : Dialog} {reply : Reply}

theorem explained_succ (rounds : Nat) :
    explained (rounds + 1) = explained rounds ++
      [.chosen (some REFUSE_BUTTON_TELL_ME), .dismissed] := by
  rw [explained, List.replicate_succ', List.flatten_append,
    List.flatten_singleton]
  rfl

theorem dispatchPinAction_action (kind : PinKind) :
    dispatchPinAction window kind.action = .ask (.promptPin kind) := by
  cases kind <;> rfl

theorem dispatchPinAction_disable :
    dispatchPinAction window ACTION_DISABLE_HASH_MODE =
      insertTopCell window AUTH_OFF :=
  rfl

theorem dispatchPinAction_refuse :
    dispatchPinAction window ACTION_REFUSE_HASH_MODE = .ask refuseWarning :=
  rfl

/-- The actions that the menu offers. -/
theorem offered_cases {action : JsString}
    (offered : action ∈ actionsForChip (computePinStatusChip cfg)) :
    (∃ kind : PinKind, action = kind.action ∧
        cfg.magicHashEnabled = (kind ≠ .set : Bool)) ∨
      (action = ACTION_DISABLE_HASH_MODE ∧ cfg.magicHashEnabled = true) ∨
      (action = ACTION_REFUSE_HASH_MODE ∧ cfg.magicHashEnabled = false ∧
        cfg.injectionAcceptance = none) := by
  rw [actionsForChip, computePinStatusChip] at offered
  split at offered
  · rename_i isOn
    simp only [List.mem_cons, List.not_mem_nil, or_false] at offered
    rcases offered with rfl | rfl | rfl
    · exact .inl ⟨.verify, rfl, isOn⟩
    · exact .inl ⟨.rotate, rfl, isOn⟩
    · exact .inr (.inl ⟨rfl, isOn⟩)
  · rename_i isOff
    have isOff := Bool.eq_false_iff.mpr isOff
    split at offered
    · rw [List.mem_singleton.mp offered]
      exact .inl ⟨.set, rfl, isOff⟩
    · rename_i unrecorded
      simp only [List.mem_cons, List.not_mem_nil, or_false] at offered
      rcases offered with rfl | rfl
      · exact .inl ⟨.set, rfl, isOff⟩
      · exact .inr (.inr ⟨rfl, isOff, by simpa using unrecorded⟩)

theorem insertTopCell_ne_act (text : JsString) (act : Insertion) :
    insertTopCell window text ≠ .act act := by
  unfold insertTopCell
  cases window.findActiveLlmnb with
  | none => exact nofun
  | some nb => exact nofun

/-- The edit of a chosen cell goes to a notebook that was found. -/
theorem within_insertTopCell {text : JsString} (isSeen : seen window)
    (chosen : Chosen cfg replies text)
    (asked : insertTopCell window text = .ask next) :
    Within seen cfg replies next := by
  unfold insertTopCell at asked
  cases found : window.findActiveLlmnb with
  | none =>
      rw [found] at asked
      cases asked
  | some nb =>
      rw [found] at asked
      cases asked
      exact ⟨chosen, window, nb, isSeen, found, rfl⟩

theorem within_menu {actions : List JsString} {placeholder : JsString}
    (within : Within seen cfg replies (.menu actions placeholder))
    (isSeen : seen window)
    (admitted : admits (.menu actions placeholder) reply = true)
    (asked : answer window (.menu actions placeholder) reply = .ask next) :
    Within seen cfg (replies ++ [reply]) next := by
  obtain ⟨rfl, rfl⟩ := within
  match reply with
  | .chosen none => cases asked
  | .chosen (some action) =>
      rw [List.nil_append]
      rcases offered_cases (of_decide_eq_true admitted) with
        ⟨kind, rfl, mode⟩ | ⟨rfl, isOn⟩ | ⟨rfl, isOff, unrecorded⟩
      · rw [answer, dispatchPinAction_action] at asked
        cases asked
        exact ⟨rfl, mode⟩
      · exact within_insertTopCell isSeen (.disable isOn) asked
      · rw [answer, dispatchPinAction_refuse] at asked
        cases asked
        exact ⟨rfl, isOff, unrecorded, 0, rfl⟩

theorem within_promptPin {kind : PinKind}
    (within : Within seen cfg replies (.promptPin kind))
    (isSeen : seen window)
    (admitted : admits (.promptPin kind) reply = true)
    (asked : answer window (.promptPin kind) reply = .ask next) :
    Within seen cfg (replies ++ [reply]) next := by
  obtain ⟨rfl, mode⟩ := within
  match reply with
  | .chosen none => cases asked
  | .chosen (some pin) =>
      have long : 12 ≤ pin.length := of_decide_eq_true admitted
      rw [answer, if_neg (by omega)] at asked
      exact within_insertTopCell isSeen (.pin kind mode pin long) asked

theorem within_warn {buttons : List JsString}
    (within : Within seen cfg replies (.warn buttons))
    (isSeen : seen window)
    (asked : answer window (.warn buttons) reply = .ask next) :
    Within seen cfg (replies ++ [reply]) next := by
  obtain ⟨_, isOff, unrecorded, rounds, rfl⟩ := within
  match reply with
  | .chosen none => cases asked
  | .chosen (some choice) =>
      rw [answer] at asked
      split at asked
      · rename_i tellMe
        cases asked
        exact ⟨isOff, unrecorded, rounds, by rw [tellMe]⟩
      · split at asked
        · cases asked
        · rename_i accepted
          rw [not_not.mp accepted]
          exact within_insertTopCell isSeen
            (.refuse isOff unrecorded rounds) asked

theorem within_info (within : Within seen cfg replies .info)
    (admitted : admits .info reply = true)
    (asked : answer window .info reply = .ask next) :
    Within seen cfg (replies ++ [reply]) next := by
  obtain ⟨isOff, unrecorded, rounds, rfl⟩ := within
  match reply with
  | .dismissed =>
      cases asked
      refine ⟨rfl, isOff, unrecorded, rounds + 1, ?_⟩
      rw [explained_succ]
      simp

/-- A dialog is reached by the replies that lead to it. -/
theorem within_of_leads {dialog : Dialog}
    (leads : pinScript.Leads seen (openPinStatusMenu cfg) replies dialog) :
    Within seen cfg replies dialog := by
  induction leads with
  | start => exact ⟨rfl, rfl⟩
  | @reply replies dialog next window reply _ isSeen admitted asked
      inductionHypothesis =>
      cases dialog with
      | menu actions placeholder =>
          exact within_menu inductionHypothesis isSeen admitted asked
      | promptPin kind =>
          exact within_promptPin inductionHypothesis isSeen admitted asked
      | warn buttons => exact within_warn inductionHypothesis isSeen asked
      | info => exact within_info inductionHypothesis admitted asked
      | applyEdit uri text =>
          match reply with
          | .applied true => cases asked
          | .applied false => cases asked

/-- Only an edit that was applied inserts a cell. -/
theorem answer_eq_act {dialog : Dialog} {insertion : Insertion}
    (acts : answer window dialog reply = .act insertion) :
    dialog = .applyEdit insertion.uri insertion.text ∧
      reply = .applied true := by
  unfold answer at acts
  split at acts
  · unfold dispatchPinAction at acts
    split_ifs at acts
    exact (insertTopCell_ne_act _ _ acts).elim
  · split_ifs at acts
    exact (insertTopCell_ne_act _ _ acts).elim
  · split_ifs at acts
    exact (insertTopCell_ne_act _ _ acts).elim
  · cases acts
  · cases acts
    exact ⟨rfl, rfl⟩
  · cases acts

/-- A cell is inserted by the last reply, the one of the edit. -/
theorem chosen_of_performs {insertion : Insertion}
    (performs : pinScript.Performs seen (openPinStatusMenu cfg) replies
      insertion) :
    ∃ earlier, replies = earlier ++ [.applied true] ∧
      Chosen cfg earlier insertion.text ∧ Found seen insertion.uri := by
  obtain ⟨earlier, last, dialog, window, rfl, leads, isSeen, admitted, acts⟩ :=
    performs
  obtain ⟨rfl, rfl⟩ := answer_eq_act acts
  obtain ⟨chosen, found⟩ := within_of_leads leads
  exact ⟨earlier, rfl, chosen, found⟩

end

/-! ### The runs -/

section

variable {Version : Type*}

/-- What the conversation got as replies. -/
def repliesTo (events : List (Event Version)) (id : Nat) : List Reply :=
  events.filterMap fun event =>
    match event with
    | .reply other reply => if other = id then some reply else none
    | _ => none

/-- The session was reached by the events up to some point. -/
def Passed (events : List (Event Version)) (session : Session) : Prop :=
  ∃ earlier later, events = earlier ++ later ∧
    (pinSystem Version).exec .initial earlier = some session

/-- The conversation began with a run of the command, and then the config was
this one. -/
def Opened (events : List (Event Version)) (id : Nat) (cfg : RtsConfigSlot) :
    Prop :=
  ∃ earlier later before, events = earlier ++ .openMenu :: later ∧
    (pinSystem Version).exec .initial earlier = some before ∧
    before.desk.nextId = id ∧ before.registry.state = cfg

/-- The window was like this at some point. -/
def Seen (events : List (Event Version)) (window : Window) : Prop :=
  ∃ session, Passed events session ∧ session.window = window

/-- The item shows the chip of the config while a notebook is active; every
cell was inserted by a conversation of its own, whose replies are those that
choose it, into a notebook that was found. -/
structure Audited (events : List (Event Version)) (session : Session) :
    Prop where
  visible : session.item.visible = session.window.active.any Document.isLlmnb
  shown : session.item.visible = true →
    let chip := computePinStatusChip session.registry.state
    session.item =
      { visible := true, text := chip.text, tooltip := chip.tooltip,
        warningBackground := chip.injectionAccepted }
  once : (session.desk.performed.map Prod.fst).Nodup
  chosen : ∀ entry ∈ session.desk.performed, ∃ cfg earlier,
    Opened events entry.1 cfg ∧
      repliesTo events entry.1 = earlier ++ [.applied true] ∧
      Chosen cfg earlier entry.2.text
  found : ∀ entry ∈ session.desk.performed, Found (Seen events) entry.2.uri

/-- The conversations of a session after the events. -/
def Kept (events : List (Event Version)) (session : Session) : Prop :=
  Recorded pinScript (Seen events)
    (fun id first => ∃ cfg, Opened events id cfg ∧
      first = openPinStatusMenu cfg)
    (repliesTo events) session.desk

variable {events : List (Event Version)} {event : Event Version}
  {session next : Session}

theorem Seen.append {window : Window} (isSeen : Seen events window)
    (more : List (Event Version)) : Seen (events ++ more) window := by
  obtain ⟨session, ⟨earlier, later, rfl, ran⟩, same⟩ := isSeen
  exact ⟨session, ⟨earlier, later ++ more, List.append_assoc _ _ _, ran⟩, same⟩

theorem Opened.append {id : Nat} {cfg : RtsConfigSlot}
    (opened : Opened events id cfg) (more : List (Event Version)) :
    Opened (events ++ more) id cfg := by
  obtain ⟨earlier, later, before, rfl, rest⟩ := opened
  exact ⟨earlier, later ++ more, before, List.append_assoc _ _ _, rest⟩

/-- An event that is no reply leaves the replies. -/
theorem repliesTo_append_of_other
    (other : ∀ id reply, event ≠ .reply id reply) :
    repliesTo (events ++ [event]) = repliesTo events := by
  funext id
  unfold repliesTo
  rw [List.filterMap_append]
  cases event with
  | reply id reply => exact (other id reply rfl).elim
  | _ => exact List.append_nil _

theorem repliesTo_append_reply (id : Nat) (reply : Reply) :
    repliesTo (events ++ [.reply id reply]) =
      heard (repliesTo events) id reply := by
  funext other
  unfold repliesTo heard
  rw [List.filterMap_append]
  by_cases same : id = other
  · subst same
    simp
  · rw [if_neg (Ne.symm same)]
    simp [same]

/-- The conversations, after an event that leaves them. -/
theorem Kept.append (kept : Kept events session)
    (other : ∀ id reply, event ≠ .reply id reply)
    (same : next.desk = session.desk) :
    Kept (events ++ [event]) next := by
  unfold Kept
  rw [same, repliesTo_append_of_other other]
  refine Recorded.mono kept (fun _ isSeen => isSeen.append _) ?_
  intro id first begins
  obtain ⟨cfg, opened, isFirst⟩ := begins
  exact ⟨cfg, opened.append _, isFirst⟩

theorem Kept.step (kept : Kept events session)
    (ran : (pinSystem Version).exec .initial events = some session)
    (stepped : session.step event = some next) :
    Kept (events ++ [event]) next := by
  cases event with
  | metadata payload =>
      cases stepped
      exact kept.append (by exact nofun) rfl
  | activate active =>
      cases stepped
      exact kept.append (by exact nofun) rfl
  | documents notebookDocuments =>
      cases stepped
      exact kept.append (by exact nofun) rfl
  | openMenu =>
      cases stepped
      have grown : Kept (events ++ [.openMenu]) session :=
        kept.append (by exact nofun) rfl
      exact Recorded.start grown ⟨session.registry.state,
        ⟨events, [], session, rfl, ran, rfl, rfl⟩, rfl⟩
  | reply id reply =>
      obtain ⟨desk, answered, rfl⟩ := Option.map_eq_some_iff.mp stepped
      have isSeen : Seen events session.window :=
        ⟨session, ⟨events, [], (List.append_nil _).symm, ran⟩, rfl⟩
      have heard := Recorded.reply kept isSeen answered
      unfold Kept
      rw [repliesTo_append_reply]
      refine heard.mono (fun _ isSeen => isSeen.append _) ?_
      intro id first begins
      obtain ⟨cfg, opened, isFirst⟩ := begins
      exact ⟨cfg, opened.append _, isFirst⟩

theorem kept_of_exec
    (ran : (pinSystem Version).exec .initial events = some session) :
    Kept events session := by
  induction events using List.reverseRecOn generalizing session with
  | nil =>
      cases ran
      exact recorded_empty _ _
  | append_singleton events event inductionHypothesis =>
      rw [System.exec_append] at ran
      obtain ⟨last, reached, rest⟩ := Option.bind_eq_some_iff.mp ran
      obtain ⟨final, stepped, same⟩ := Option.bind_eq_some_iff.mp rest
      cases same
      exact (inductionHypothesis reached).step reached stepped

/-! ### The chip of the status bar -/

/-- The item shows the chip while a notebook is active. -/
def Shows (session : Session) : Prop :=
  session.item.visible = session.window.active.any Document.isLlmnb ∧
    (session.item.visible = true →
      let chip := computePinStatusChip session.registry.state
      session.item =
        { visible := true, text := chip.text, tooltip := chip.tooltip,
          warningBackground := chip.injectionAccepted })

theorem shows_refresh (session : Session) (window : Window)
    (registry : PinStatusRegistry) :
    Shows
      { session with
        window := window, registry := registry
        item := session.item.refresh window registry } := by
  unfold Shows StatusBarItem.refresh
  cases isActive : window.active.any Document.isLlmnb with
  | false => exact ⟨rfl, nofun⟩
  | true => exact ⟨rfl, fun _ => rfl⟩

theorem set_of_unchanged {registry : PinStatusRegistry} {cfg : RtsConfigSlot}
    (unchanged : (registry.set cfg).changes = registry.changes) :
    registry.set cfg = registry := by
  unfold PinStatusRegistry.set at unchanged ⊢
  split
  · rfl
  · rename_i changed
    rw [if_neg changed] at unchanged
    exact absurd unchanged (Nat.succ_ne_self _)

/-- A frame that announces no change leaves the config. -/
theorem onNotebookMetadata_of_unchanged {registry : PinStatusRegistry}
    {payload : NotebookMetadataPayload Version}
    (unchanged : (registry.onNotebookMetadata payload).changes =
      registry.changes) :
    registry.onNotebookMetadata payload = registry := by
  unfold PinStatusRegistry.onNotebookMetadata at unchanged ⊢
  split
  · rfl
  · rename_i cfg isConfig
    rw [isConfig] at unchanged
    exact set_of_unchanged unchanged

theorem shows_step (shows : Shows session)
    (stepped : session.step event = some next) : Shows next := by
  cases event with
  | metadata payload =>
      cases stepped
      by_cases unchanged :
          (session.registry.onNotebookMetadata payload).changes =
            session.registry.changes
      · rw [if_pos unchanged, onNotebookMetadata_of_unchanged unchanged]
        exact shows
      · rw [if_neg unchanged]
        exact shows_refresh session session.window _
  | activate active =>
      cases stepped
      exact shows_refresh session { session.window with active := active } _
  | documents notebookDocuments =>
      cases stepped
      exact shows
  | openMenu =>
      cases stepped
      exact shows
  | reply id reply =>
      obtain ⟨desk, answered, rfl⟩ := Option.map_eq_some_iff.mp stepped
      exact shows

/-- In every run the status bar shows the config, and the cells that the menu
inserted are those that the operator chose. -/
theorem cells_chosen
    (ran : (pinSystem Version).exec .initial events = some session) :
    Audited events session := by
  have kept := kept_of_exec ran
  have keeps : ∀ (session : Session) (event : Event Version) (next : Session),
      Shows session → True → session.step event = some next → Shows next :=
    fun _ _ _ holds _ stepped => shows_step holds stepped
  have start : Shows Session.initial := ⟨rfl, by exact nofun⟩
  have shows : Shows session :=
    System.keeps_exec keeps start (fun _ _ => trivial) ran
  refine ⟨shows.1, shows.2, ?_, ?_, ?_⟩
  · exact (List.nodup_append.mp kept.distinct).2.1
  · intro entry isEntry
    obtain ⟨first, ⟨cfg, opened, rfl⟩, performs⟩ :=
      kept.performed entry isEntry
    obtain ⟨earlier, isEarlier, chosen, _⟩ := chosen_of_performs performs
    exact ⟨cfg, earlier, opened, isEarlier, chosen⟩
  · intro entry isEntry
    obtain ⟨first, ⟨cfg, opened, rfl⟩, performs⟩ :=
      kept.performed entry isEntry
    obtain ⟨_, _, _, found⟩ := chosen_of_performs performs
    exact found

/-- The menu is opened twice over: the risk is refused after an explanation,
and in the meantime a pin is set. -/
def refusedMeanwhile : List (Event Nat) :=
  [.activate (some { uri := js "nb", notebookType := NOTEBOOK_TYPE }),
    .openMenu, .openMenu,
    .reply 0 (.chosen (some ACTION_REFUSE_HASH_MODE)),
    .reply 1 (.chosen (some ACTION_SET_PIN)),
    .reply 0 (.chosen (some REFUSE_BUTTON_TELL_ME)),
    .reply 1 (.chosen (some (js "correct horse"))),
    .reply 0 .dismissed, .reply 1 (.applied true),
    .reply 0 (.chosen (some REFUSE_BUTTON_ACCEPT)), .reply 0 (.applied true)]

theorem refusedMeanwhile_audited : ∃ session,
    (pinSystem Nat).exec .initial refusedMeanwhile = some session ∧
      session.desk.performed =
        [(1, { uri := js "nb", text := js "@auth set correct horse" }),
          (0, { uri := js "nb", text := js "@auth refuse" })] ∧
      Audited refusedMeanwhile session :=
  ⟨_, rfl, rfl, cells_chosen rfl⟩

end

end RtsNotebook.Notebook.PinMenu
