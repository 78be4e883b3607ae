import Mathlib.Data.List.Induction
import Mathlib.Data.List.Nodup
import RtsNotebook.Js.Text
import RtsNotebook.Library.Runs

/-!
# The kernel terminals

`KernelTerminal` and the command `llmnb.showKernelTerminal`: a panel listens to
the output of the kernel from the moment it is made, keeps what comes before
the editor opens it, and writes the rest through.  Any number of panels are
listening, and the editor and the extension call them in any order.
-/

namespace RtsNotebook.Notebook.KernelTerminal

open RtsNotebook.Js RtsNotebook.Library

/-- What `writeEmitter` fires: the header banner or some output. -/
inductive Written where
  | banner
  | chunk (text : JsString)
  deriving DecidableEq

/-- The text that the editor is given. -/
def Written.text (sessionId : JsString) : Written → JsString
  | .banner =>
      0x1B :: js "[36m[LLMKernel: " ++ sessionId ++ js "]" ++
        0x1B :: js "[0m" ++ [0x0D, 0x0A]
  | .chunk text => text

/-- `KernelTerminal`, with what it has written.  Whether it has a subscription
is `attached`, and `disposed` is whether its emitters are. -/
structure Terminal where
  attached : Bool
  preopenBuffer : List JsString
  opened : Bool
  disposed : Bool
  written : List Written

/-- The text that the editor has been given. -/
def Terminal.shown (terminal : Terminal) (sessionId : JsString) : JsString :=
  terminal.written.flatMap (Written.text sessionId)

/-- `new KernelTerminal(kernel, sessionId)` -/
def Terminal.new : Terminal where
  attached := false
  preopenBuffer := []
  opened := false
  disposed := false
  written := []

/-- `this.writeEmitter.fire(...)`; an emitter that is disposed fires nothing. -/
def Terminal.fire (terminal : Terminal) (written : Written) : Terminal :=
  if terminal.disposed then
    terminal
  else
    { terminal with written := terminal.written ++ [written] }

/-- The listener that `attach` registers. -/
def Terminal.onPtyData (terminal : Terminal) (chunk : JsString) : Terminal :=
  if terminal.opened then
    terminal.fire (.chunk chunk)
  else
    { terminal with preopenBuffer := terminal.preopenBuffer ++ [chunk] }

/-- `open` -/
def Terminal.open (terminal : Terminal) : Terminal :=
  let replayed := terminal.preopenBuffer.foldl
    (fun current chunk => current.fire (.chunk chunk))
    ({ terminal with opened := true }.fire .banner)
  { replayed with preopenBuffer := [] }

/-- The panels that were made, and `ptyDataListeners`: a panel that listens is
there once. -/
structure Host where
  terminals : List Terminal
  listeners : List Nat

inductive Event where
  | showTerminal
  | attach (panel : Nat)
  | openPanel (panel : Nat)
  | close (panel : Nat)
  | dispose (panel : Nat)
  | data (chunk : JsString)

namespace Host

def initial : Host where
  terminals := []
  listeners := []

/-- One panel changes. -/
def modify (host : Host) (panel : Nat) (change : Terminal → Terminal) : Host :=
  { host with terminals := host.terminals.modify panel change }

/-- `attach` -/
def attach (host : Host) (panel : Nat) : Host :=
  match host.terminals[panel]? with
  | some terminal =>
      if terminal.attached then
        host
      else
        { host.modify panel fun terminal => { terminal with attached := true }
          with listeners := host.listeners ++ [panel] }
  | none => host

/-- `close`; the disposable takes the listener out. -/
def close (host : Host) (panel : Nat) : Host :=
  { host.modify panel fun terminal =>
      { terminal with opened := false, attached := false }
    with listeners := host.listeners.erase panel }

/-- `dispatchPtyData` -/
def dispatchPtyData (host : Host) (chunk : JsString) : Host :=
  host.listeners.foldl
    (fun current panel => current.modify panel (·.onPtyData chunk)) host

def step (host : Host) : Event → Option Host
  | .showTerminal => some
      ({ host with terminals := host.terminals ++ [Terminal.new] }.attach
        host.terminals.length)
  | .attach panel => some (host.attach panel)
  | .openPanel panel => some (host.modify panel Terminal.open)
  | .close panel => some (host.close panel)
  | .dispose panel => some
      ((host.close panel).modify panel fun terminal =>
        { terminal with disposed := true })
  | .data chunk => some (host.dispatchPtyData chunk)

end Host

def system : System Host Event where
  initial := Host.initial
  step := Host.step

/-! ### One panel among the others -/

/-- What an event is to one panel. -/
def Terminal.after (panel : Nat) (terminal : Terminal) : Event → Terminal
  | .showTerminal => terminal
  | .attach other =>
      if other = panel then { terminal with attached := true } else terminal
  | .openPanel other => if other = panel then terminal.open else terminal
  | .close other =>
      if other = panel then { terminal with opened := false, attached := false }
      else terminal
  | .dispose other =>
      if other = panel then
        { terminal with opened := false, attached := false, disposed := true }
      else
        terminal
  | .data chunk =>
      if terminal.attached then terminal.onPtyData chunk else terminal

/-- Each panel that has a subscription is in the list of listeners, once. -/
structure Listening (host : Host) : Prop where
  nodup : host.listeners.Nodup
  attached : ∀ panel, panel ∈ host.listeners ↔
    ∃ terminal, host.terminals[panel]? = some terminal ∧
      terminal.attached = true

@[simp]
theorem fire_attached (terminal : Terminal) (written : Written) :
    (terminal.fire written).attached = terminal.attached := by
  rw [Terminal.fire]
  split
  · rfl
  · rfl

theorem onPtyData_attached (terminal : Terminal) (chunk : JsString) :
    (terminal.onPtyData chunk).attached = terminal.attached := by
  rw [Terminal.onPtyData]
  split
  · exact fire_attached terminal (.chunk chunk)
  · rfl

theorem getElem?_modify_self {host : Host} {panel : Nat} {terminal : Terminal}
    (isPanel : host.terminals[panel]? = some terminal)
    (change : Terminal → Terminal) :
    (host.modify panel change).terminals[panel]? = some (change terminal) := by
  simp [Host.modify, isPanel]

theorem getElem?_modify_other {host : Host} {panel other : Nat}
    (different : other ≠ panel) (change : Terminal → Terminal) :
    (host.modify other change).terminals[panel]? = host.terminals[panel]? := by
  simp [Host.modify, different]

/-- Every listener is called once. -/
theorem getElem?_dispatchPtyData {host : Host} (nodup : host.listeners.Nodup)
    (panel : Nat) (chunk : JsString) :
    (host.dispatchPtyData chunk).terminals[panel]? =
      if panel ∈ host.listeners then
        host.terminals[panel]?.map (·.onPtyData chunk)
      else
        host.terminals[panel]? := by
  have folded : ∀ (listeners : List Nat) (current : Host), listeners.Nodup →
      (listeners.foldl (fun current panel =>
        current.modify panel (·.onPtyData chunk)) current).terminals[panel]? =
        if panel ∈ listeners then
          current.terminals[panel]?.map (·.onPtyData chunk)
        else
          current.terminals[panel]? := by
    intro listeners
    induction listeners with
    | nil => exact fun _ _ => rfl
    | cons first rest inductionHypothesis =>
        intro current nodup
        obtain ⟨notLater, restNodup⟩ := List.nodup_cons.mp nodup
        rw [List.foldl_cons, inductionHypothesis _ restNodup]
        by_cases isFirst : first = panel
        · subst isFirst
          rw [if_neg notLater, if_pos List.mem_cons_self]
          simp [Host.modify]
        · rw [getElem?_modify_other isFirst]
          have same : panel ∈ first :: rest ↔ panel ∈ rest := by
            rw [List.mem_cons, or_iff_right (Ne.symm isFirst)]
          simp only [same]
  exact folded host.listeners host nodup

theorem getElem?_attach {host : Host} {panel : Nat} {terminal : Terminal}
    (isPanel : host.terminals[panel]? = some terminal) (other : Nat) :
    (host.attach other).terminals[panel]? =
      some (terminal.after panel (.attach other)) := by
  rw [Terminal.after, Host.attach]
  by_cases isOther : other = panel
  · subst isOther
    rw [isPanel, if_pos rfl]
    dsimp only
    split
    · next attached =>
        rw [isPanel]
        obtain ⟨_, buffer, opened, disposed, written⟩ := terminal
        cases attached
        rfl
    · exact getElem?_modify_self isPanel _
  · rw [if_neg isOther]
    split
    · split
      · exact isPanel
      · exact (getElem?_modify_other isOther _).trans isPanel
    · exact isPanel

/-- A step does to a panel what the event is to it, whatever the other panels
are. -/
theorem getElem?_step {host next : Host} {event : Event} {panel : Nat}
    {terminal : Terminal} (listening : Listening host)
    (isPanel : host.terminals[panel]? = some terminal)
    (stepped : host.step event = some next) :
    next.terminals[panel]? = some (terminal.after panel event) := by
  cases event with
  | showTerminal =>
      cases stepped
      have isEarlier := (List.getElem?_eq_some_iff.mp isPanel).1
      have isStill : (host.terminals ++ [Terminal.new])[panel]? =
          some terminal :=
        (List.getElem?_append_left isEarlier).trans isPanel
      have added := @getElem?_attach
        { host with terminals := host.terminals ++ [Terminal.new] } panel
        terminal isStill host.terminals.length
      rwa [Terminal.after, if_neg (Nat.ne_of_gt isEarlier)] at added
  | attach other =>
      cases stepped
      exact getElem?_attach isPanel other
  | openPanel other =>
      cases stepped
      rw [Terminal.after]
      split
      · next isOther =>
          subst isOther
          exact getElem?_modify_self isPanel _
      · next different =>
          exact (getElem?_modify_other different _).trans isPanel
  | close other =>
      cases stepped
      rw [Terminal.after]
      split
      · next isOther =>
          subst isOther
          exact getElem?_modify_self isPanel _
      · next different =>
          exact (getElem?_modify_other different _).trans isPanel
  | dispose other =>
      cases stepped
      rw [Terminal.after]
      split
      · next isOther =>
          subst isOther
          exact getElem?_modify_self (getElem?_modify_self isPanel _) _
      · next different =>
          exact (getElem?_modify_other different _).trans
            ((getElem?_modify_other different _).trans isPanel)
  | data chunk =>
      cases stepped
      rw [getElem?_dispatchPtyData listening.nodup, isPanel, Terminal.after]
      have listens : panel ∈ host.listeners ↔ terminal.attached = true := by
        rw [listening.attached, isPanel]
        exact ⟨fun ⟨_, same, attached⟩ => Option.some.inj same ▸ attached,
          fun attached => ⟨terminal, rfl, attached⟩⟩
      simp only [listens, Option.map_some]
      split
      · rfl
      · rfl

/-- A panel whose subscription does not change keeps its place. -/
theorem Listening.modify {host : Host} (listening : Listening host)
    (panel : Nat) {change : Terminal → Terminal}
    (keeps : ∀ terminal, (change terminal).attached = terminal.attached) :
    Listening (host.modify panel change) where
  nodup := listening.nodup
  attached := fun other => by
    rw [Host.modify, listening.attached, List.getElem?_modify]
    by_cases isOther : panel = other
    · subst isOther
      cases host.terminals[panel]? with
      | none => simp
      | some terminal => simp [keeps]
    · simp [isOther]

theorem Listening.attach {host : Host} (listening : Listening host)
    (panel : Nat) : Listening (host.attach panel) := by
  rw [Host.attach]
  split
  · next terminal isPanel =>
      split
      · exact listening
      · next notAttached =>
          have absent : panel ∉ host.listeners := by
            intro listens
            obtain ⟨found, isFound, attached⟩ :=
              (listening.attached panel).mp listens
            cases isPanel.symm.trans isFound
            exact notAttached attached
          refine ⟨?_, fun other => ?_⟩
          · exact List.nodup_append.mpr ⟨listening.nodup,
              List.nodup_singleton panel, by
                intro first isFirst second isSecond same
                cases List.mem_singleton.mp isSecond
                exact absent (same ▸ isFirst)⟩
          · rw [List.mem_append, List.mem_singleton, listening.attached]
            by_cases isOther : panel = other
            · subst isOther
              simp [Host.modify, isPanel]
            · have notOther : ¬ other = panel := Ne.symm isOther
              simp [Host.modify, isOther, notOther]
  · exact listening

theorem Listening.close {host : Host} (listening : Listening host)
    (panel : Nat) : Listening (host.close panel) where
  nodup := listening.nodup.erase panel
  attached := fun other => by
    rw [Host.close, listening.nodup.mem_erase_iff, listening.attached]
    by_cases isOther : panel = other
    · subst isOther
      cases isPanel : host.terminals[panel]? with
      | none => simp [Host.modify, isPanel]
      | some terminal => simp [Host.modify, isPanel]
    · have notOther : ¬ other = panel := Ne.symm isOther
      simp [Host.modify, isOther, notOther]

theorem Listening.dispatchPtyData {host : Host} (listening : Listening host)
    (chunk : JsString) : Listening (host.dispatchPtyData chunk) := by
  have folded : ∀ (listeners : List Nat) (current : Host), Listening current →
      Listening (listeners.foldl (fun current panel =>
        current.modify panel (·.onPtyData chunk)) current) := by
    intro listeners
    induction listeners with
    | nil => exact fun _ => id
    | cons first rest inductionHypothesis =>
        intro current listening
        exact inductionHypothesis _
          (listening.modify first fun terminal =>
            onPtyData_attached terminal chunk)
  exact folded host.listeners host listening

theorem open_attached (terminal : Terminal) :
    terminal.open.attached = terminal.attached := by
  have folded : ∀ (chunks : List JsString) (current : Terminal),
      (chunks.foldl (fun current chunk => current.fire (.chunk chunk))
        current).attached = current.attached := by
    intro chunks
    induction chunks with
    | nil => exact fun _ => rfl
    | cons chunk rest inductionHypothesis =>
        exact fun current => (inductionHypothesis _).trans (fire_attached _ _)
  exact (folded terminal.preopenBuffer _).trans (fire_attached _ _)

theorem Listening.add {host : Host} (listening : Listening host) :
    Listening
      { host with terminals := host.terminals ++ [Terminal.new] } where
  nodup := listening.nodup
  attached := fun panel => by
    rw [listening.attached]
    constructor
    · rintro ⟨terminal, isPanel, attached⟩
      have isEarlier := (List.getElem?_eq_some_iff.mp isPanel).1
      exact ⟨terminal, (List.getElem?_append_left isEarlier).trans isPanel,
        attached⟩
    · rintro ⟨terminal, isPanel, attached⟩
      by_cases isEarlier : panel < host.terminals.length
      · exact ⟨terminal,
          (List.getElem?_append_left isEarlier).symm.trans isPanel, attached⟩
      · have isNew := List.mem_of_getElem? ((List.getElem?_append_right
          (Nat.le_of_not_lt isEarlier)).symm.trans isPanel)
        rw [List.mem_singleton.mp isNew] at attached
        cases attached

theorem Listening.step {host next : Host} {event : Event}
    (listening : Listening host) (stepped : host.step event = some next) :
    Listening next := by
  cases event with
  | showTerminal =>
      cases stepped
      exact listening.add.attach host.terminals.length
  | attach panel =>
      cases stepped
      exact listening.attach panel
  | openPanel panel =>
      cases stepped
      exact listening.modify panel open_attached
  | close panel =>
      cases stepped
      exact listening.close panel
  | dispose panel =>
      cases stepped
      exact (listening.close panel).modify panel fun _ => rfl
  | data chunk =>
      cases stepped
      exact listening.dispatchPtyData chunk

/-- In a run each panel goes its own way. -/
theorem getElem?_run {host next : Host} {events : List Event} {panel : Nat}
    {terminal : Terminal} (listening : Listening host)
    (isPanel : host.terminals[panel]? = some terminal)
    (run : system.exec host events = some next) :
    Listening next ∧ next.terminals[panel]? =
      some (events.foldl (Terminal.after panel) terminal) := by
  induction events generalizing host terminal with
  | nil =>
      cases run
      exact ⟨listening, isPanel⟩
  | cons event rest inductionHypothesis =>
      obtain ⟨middle, stepped, run⟩ := Option.bind_eq_some_iff.mp run
      exact inductionHypothesis (listening.step stepped)
        (getElem?_step listening isPanel stepped) run

theorem listening_run {host : Host} {events : List Event}
    (run : system.exec Host.initial events = some host) : Listening host :=
  System.keeps_exec
    (fun _ _ _ listening _ stepped => listening.step stepped)
    ⟨List.nodup_nil, fun panel => by simp [Host.initial]⟩
    (fun _ _ => trivial) run

/-- A panel that the command has just made. -/
def Terminal.listening : Terminal :=
  { Terminal.new with attached := true }

/-! ### What a panel writes -/

/-- The output among the events. -/
def dataOf (events : List Event) : List JsString :=
  events.filterMap fun event =>
    match event with
    | .data chunk => some chunk
    | _ => none

/-- The output among what was written. -/
def chunksOf (written : List Written) : List JsString :=
  written.filterMap fun entry =>
    match entry with
    | .banner => none
    | .chunk text => some text

/-- The event ends the subscription of a panel. -/
def Ends (panel : Nat) (event : Event) : Prop :=
  event = .close panel ∨ event = .dispose panel

/-- What a panel that listens has of the output so far. -/
structure Mirrors (panel : Nat) (events : List Event) (terminal : Terminal) :
    Prop where
  attached : terminal.attached = true
  live : terminal.disposed = false
  opened : terminal.opened = true ↔ .openPanel panel ∈ events
  buffer : terminal.opened = true → terminal.preopenBuffer = []
  output : chunksOf terminal.written ++ terminal.preopenBuffer = dataOf events
  closed : terminal.opened = false → terminal.written = []

theorem foldl_fire {terminal : Terminal} (live : terminal.disposed = false)
    (chunks : List JsString) :
    chunks.foldl (fun current chunk => current.fire (.chunk chunk)) terminal =
      { terminal with
        written := terminal.written ++ chunks.map Written.chunk } := by
  induction chunks generalizing terminal with
  | nil => simp
  | cons chunk rest inductionHypothesis =>
      have fired : terminal.fire (.chunk chunk) =
          { terminal with written := terminal.written ++ [.chunk chunk] } := by
        rw [Terminal.fire, live]
        rfl
      rw [List.foldl_cons, fired]
      refine Eq.trans (inductionHypothesis ?_) ?_
      · exact live
      · simp

/-- Opening a panel writes the banner and what was kept. -/
theorem open_live {terminal : Terminal} (live : terminal.disposed = false) :
    terminal.open =
      { terminal with
        opened := true
        preopenBuffer := []
        written := terminal.written ++
          .banner :: terminal.preopenBuffer.map Written.chunk } := by
  have fired : ({ terminal with opened := true } : Terminal).fire .banner =
      { terminal with
        opened := true
        written := terminal.written ++ [.banner] } := by
    rw [Terminal.fire, live]
    rfl
  have replayed : terminal.preopenBuffer.foldl
      (fun current chunk => current.fire (.chunk chunk))
      (({ terminal with opened := true } : Terminal).fire .banner) =
        { terminal with
          opened := true
          written := terminal.written ++ [.banner] ++
            terminal.preopenBuffer.map Written.chunk } := by
    rw [fired]
    refine foldl_fire ?_ _
    exact live
  rw [Terminal.open, replayed]
  simp

@[simp]
theorem chunksOf_map (chunks : List JsString) :
    chunksOf (chunks.map Written.chunk) = chunks := by
  induction chunks with
  | nil => rfl
  | cons chunk rest inductionHypothesis =>
      exact congrArg (chunk :: ·) inductionHypothesis

theorem chunksOf_append (first second : List Written) :
    chunksOf (first ++ second) = chunksOf first ++ chunksOf second :=
  List.filterMap_append

theorem dataOf_snoc (events : List Event) (event : Event) :
    dataOf (events ++ [event]) = dataOf events ++ dataOf [event] :=
  List.filterMap_append

/-- One more event that does not end the subscription. -/
theorem Mirrors.after {panel : Nat} {events : List Event}
    {terminal : Terminal} (mirrors : Mirrors panel events terminal)
    {event : Event} (stays : ¬ Ends panel event) :
    Mirrors panel (events ++ [event]) (terminal.after panel event) := by
  have sameOpened (other : Event) (notOpen : other ≠ .openPanel panel) :
      .openPanel panel ∈ events ++ [other] ↔ .openPanel panel ∈ events := by
    rw [List.mem_append, List.mem_singleton,
      or_iff_left (Ne.symm notOpen)]
  have unchanged (other : Event) (notOpen : other ≠ .openPanel panel)
      (noData : dataOf [other] = []) :
      Mirrors panel (events ++ [other]) terminal :=
    ⟨mirrors.attached, mirrors.live,
      mirrors.opened.trans (sameOpened other notOpen).symm, mirrors.buffer, by
        rw [dataOf_snoc, noData, List.append_nil]
        exact mirrors.output, mirrors.closed⟩
  cases event with
  | showTerminal => exact unchanged .showTerminal nofun rfl
  | attach other =>
      have same : terminal.after panel (.attach other) = terminal := by
        obtain ⟨_, buffer, opened, disposed, written⟩ := terminal
        cases mirrors.attached
        exact ite_self _
      rw [same]
      exact unchanged (.attach other) nofun rfl
  | openPanel other =>
      rw [Terminal.after]
      by_cases isOther : other = panel
      · subst isOther
        rw [if_pos rfl, open_live mirrors.live]
        refine ⟨mirrors.attached, mirrors.live, ?_, fun _ => rfl, ?_, nofun⟩
        · exact ⟨fun _ => List.mem_append_right _ List.mem_cons_self,
            fun _ => rfl⟩
        · have banner : chunksOf (.banner ::
              terminal.preopenBuffer.map Written.chunk) =
                terminal.preopenBuffer := chunksOf_map _
          rw [dataOf_snoc, ← mirrors.output, chunksOf_append, banner]
          rfl
      · rw [if_neg isOther]
        exact unchanged (.openPanel other)
          (fun same => isOther (Event.openPanel.inj same)) rfl
  | close other =>
      rw [Terminal.after,
        if_neg fun same => stays (Or.inl (congrArg Event.close same))]
      exact unchanged (.close other) nofun rfl
  | dispose other =>
      rw [Terminal.after,
        if_neg fun same => stays (Or.inr (congrArg Event.dispose same))]
      exact unchanged (.dispose other) nofun rfl
  | data chunk =>
      rw [Terminal.after, if_pos mirrors.attached, Terminal.onPtyData]
      have opened := mirrors.opened.trans (sameOpened (.data chunk) nofun).symm
      have heard : dataOf (events ++ [.data chunk]) =
          dataOf events ++ [chunk] := dataOf_snoc events _
      split
      · next isOpened =>
          have output := mirrors.output
          rw [mirrors.buffer isOpened, List.append_nil] at output
          rw [Terminal.fire, mirrors.live, if_neg Bool.false_ne_true]
          refine ⟨mirrors.attached, rfl, opened, mirrors.buffer, ?_,
            fun isClosed => (Bool.false_ne_true
              (isClosed.symm.trans isOpened)).elim⟩
          rw [chunksOf_append, output, mirrors.buffer isOpened, heard]
          exact List.append_nil _
      · next notOpened =>
          refine ⟨mirrors.attached, mirrors.live, opened,
            fun isOpened => absurd isOpened notOpened, ?_, mirrors.closed⟩
          rw [heard, ← mirrors.output]
          exact (List.append_assoc _ _ _).symm

theorem mirrors_foldl {panel : Nat} {events : List Event}
    (stays : ∀ event ∈ events, ¬ Ends panel event) :
    Mirrors panel events (events.foldl (Terminal.after panel)
      Terminal.listening) := by
  induction events using List.reverseRecOn with
  | nil => exact ⟨rfl, rfl, ⟨nofun, nofun⟩, nofun, rfl, fun _ => rfl⟩
  | append_singleton earlier event inductionHypothesis =>
      rw [List.foldl_append]
      have before := inductionHypothesis fun other isOther =>
        stays other (List.mem_append_left _ isOther)
      exact before.after
        (stays event (List.mem_append_right _ List.mem_cons_self))

theorem after_opened {panel : Nat} {event : Event} {terminal : Terminal}
    (mirrors : terminal.attached = true ∧ terminal.disposed = false ∧
      terminal.opened = true)
    (stays : ¬ Ends panel event) (notOpened : .openPanel panel ≠ event) :
    terminal.after panel event =
      { terminal with
        written := terminal.written ++
          (dataOf [event]).map Written.chunk } := by
  have unchanged : terminal =
      { terminal with written := terminal.written ++ [] } := by
    rw [List.append_nil]
  obtain ⟨attached, live, opened⟩ := mirrors
  cases event with
  | showTerminal => exact unchanged
  | attach other =>
      refine Eq.trans ?_ unchanged
      obtain ⟨_, buffer, opened, disposed, written⟩ := terminal
      cases attached
      exact ite_self _
  | openPanel other =>
      rw [Terminal.after,
        if_neg fun same => notOpened (congrArg Event.openPanel same.symm)]
      exact unchanged
  | close other =>
      rw [Terminal.after,
        if_neg fun same => stays (Or.inl (congrArg Event.close same))]
      exact unchanged
  | dispose other =>
      rw [Terminal.after,
        if_neg fun same => stays (Or.inr (congrArg Event.dispose same))]
      exact unchanged
  | data chunk =>
      rw [Terminal.after, if_pos attached, Terminal.onPtyData, if_pos opened,
        Terminal.fire, live, if_neg Bool.false_ne_true]
      rfl

/-- A panel that is open writes the output through. -/
theorem foldl_opened {panel : Nat} {events : List Event} {terminal : Terminal}
    (mirrors : terminal.attached = true ∧ terminal.disposed = false ∧
      terminal.opened = true)
    (stays : ∀ event ∈ events, ¬ Ends panel event)
    (notOpened : .openPanel panel ∉ events) :
    events.foldl (Terminal.after panel) terminal =
      { terminal with
        written := terminal.written ++ (dataOf events).map Written.chunk } := by
  induction events generalizing terminal with
  | nil => simp [dataOf]
  | cons event rest inductionHypothesis =>
      rw [List.forall_mem_cons] at stays
      rw [List.mem_cons, not_or] at notOpened
      have after := after_opened mirrors stays.1 notOpened.1
      have split : dataOf (event :: rest) = dataOf [event] ++ dataOf rest :=
        List.filterMap_append (l := [event])
      rw [List.foldl_cons, after, split]
      refine Eq.trans (inductionHypothesis ?_ stays.2 notOpened.2) ?_
      · exact mirrors
      · simp

/-- A panel that is opened once writes the banner and then all output. -/
theorem written_of_openedOnce {panel : Nat} {first second : List Event}
    (stays : ∀ event ∈ first ++ .openPanel panel :: second, ¬ Ends panel event)
    (notBefore : .openPanel panel ∉ first)
    (notAfter : .openPanel panel ∉ second) :
    ((first ++ .openPanel panel :: second).foldl (Terminal.after panel)
      Terminal.listening).written =
        .banner :: (dataOf (first ++ .openPanel panel :: second)).map
          Written.chunk := by
  have before := mirrors_foldl fun event isEvent =>
    stays event (List.mem_append_left _ isEvent)
  have notOpened := Bool.eq_false_iff.mpr
    (fun opened => notBefore (before.opened.mp opened))
  have buffered := before.output
  rw [before.closed notOpened] at buffered
  have output : dataOf (first ++ .openPanel panel :: second) =
      dataOf first ++ dataOf second := List.filterMap_append
  have later : ∀ event ∈ second, ¬ Ends panel event := fun event isEvent =>
    stays event (List.mem_append_right _ (List.mem_cons_of_mem _ isEvent))
  rw [List.foldl_append, List.foldl_cons, Terminal.after, if_pos rfl]
  have unwritten := before.closed notOpened
  generalize first.foldl (Terminal.after panel) Terminal.listening = terminal
    at before buffered unwritten ⊢
  have opens := open_live before.live
  have opened : terminal.open.attached = true ∧
      terminal.open.disposed = false ∧ terminal.open.opened = true := by
    rw [opens]
    exact ⟨before.attached, before.live, rfl⟩
  rw [foldl_opened opened later notAfter, opens, unwritten, output,
    List.map_append, ← buffered]
  rfl

theorem shown_of_written {terminal : Terminal} {chunks : List JsString}
    (written : terminal.written = .banner :: chunks.map Written.chunk)
    (sessionId : JsString) :
    terminal.shown sessionId =
      Written.text sessionId .banner ++ chunks.flatten := by
  rw [Terminal.shown, written, List.flatMap_cons, List.flatMap_map,
    List.flatten_eq_flatMap]
  rfl

/-- A panel that no longer listens. -/
structure Silent (heard : List JsString) (terminal : Terminal) : Prop where
  detached : terminal.attached = false
  output : chunksOf terminal.written ++ terminal.preopenBuffer <+: heard

theorem open_disposed {terminal : Terminal}
    (disposed : terminal.disposed = true) :
    terminal.open = { terminal with opened := true, preopenBuffer := [] } := by
  have fires (written : Written) :
      ({ terminal with opened := true } : Terminal).fire written =
        { terminal with opened := true } :=
    if_pos disposed
  have folded : ∀ chunks : List JsString,
      chunks.foldl (fun current chunk => current.fire (.chunk chunk))
        { terminal with opened := true } =
          { terminal with opened := true } := by
    intro chunks
    induction chunks with
    | nil => rfl
    | cons chunk rest inductionHypothesis =>
        rw [List.foldl_cons, fires]
        exact inductionHypothesis
  rw [Terminal.open, fires, folded]

theorem Silent.after {panel : Nat} {heard : List JsString}
    {terminal : Terminal} (silent : Silent heard terminal) {event : Event}
    (notAttach : event ≠ .attach panel) :
    Silent heard (terminal.after panel event) := by
  cases event with
  | showTerminal => exact silent
  | attach other =>
      rw [Terminal.after,
        if_neg fun same => notAttach (congrArg Event.attach same)]
      exact silent
  | openPanel other =>
      rw [Terminal.after]
      split
      · cases disposed : terminal.disposed with
        | true =>
            rw [open_disposed disposed]
            refine ⟨silent.detached, ?_⟩
            rw [List.append_nil]
            exact (List.prefix_append _ _).trans silent.output
        | false =>
            have banner : chunksOf (.banner ::
                terminal.preopenBuffer.map Written.chunk) =
                  terminal.preopenBuffer := chunksOf_map _
            rw [open_live disposed]
            refine ⟨silent.detached, ?_⟩
            rw [List.append_nil, chunksOf_append, banner]
            exact silent.output
      · exact silent
  | close other =>
      rw [Terminal.after]
      split
      · exact ⟨rfl, silent.output⟩
      · exact silent
  | dispose other =>
      rw [Terminal.after]
      split
      · exact ⟨rfl, silent.output⟩
      · exact silent
  | data chunk =>
      rw [Terminal.after, silent.detached, if_neg Bool.false_ne_true]
      exact silent

theorem silent_foldl {panel : Nat} {heard : List JsString}
    {events : List Event} {terminal : Terminal}
    (silent : Silent heard terminal) (notAttached : .attach panel ∉ events) :
    Silent heard (events.foldl (Terminal.after panel) terminal) := by
  induction events generalizing terminal with
  | nil => exact silent
  | cons event rest inductionHypothesis =>
      rw [List.mem_cons, not_or] at notAttached
      exact inductionHypothesis (silent.after (Ne.symm notAttached.1))
        notAttached.2

/-- The event that ends the subscription keeps what there is. -/
theorem Mirrors.ends {panel : Nat} {events : List Event} {terminal : Terminal}
    (mirrors : Mirrors panel events terminal) {ending : Event}
    (ends : Ends panel ending) :
    Silent (dataOf events) (terminal.after panel ending) := by
  have kept : chunksOf terminal.written ++ terminal.preopenBuffer <+:
      dataOf events :=
    ⟨[], (List.append_nil _).trans mirrors.output⟩
  rcases ends with rfl | rfl
  · rw [Terminal.after, if_pos rfl]
    exact ⟨rfl, kept⟩
  · rw [Terminal.after, if_pos rfl]
    exact ⟨rfl, kept⟩

/-- A panel that the command shows has all output of the kernel from then on,
in order and once: what it has written and what it keeps for the editor.  Once
open it keeps nothing, and opened once it has written the banner before all
output.  When it is closed or disposed it is no longer called, and writes only
what it had kept. -/
theorem terminal_mirrors {before middle : List Event} {host next : Host}
    (reached : system.exec Host.initial before = some host)
    (run : system.exec host (.showTerminal :: middle) = some next)
    (stays : ∀ event ∈ middle, ¬ Ends host.terminals.length event) :
    ∃ terminal, next.terminals[host.terminals.length]? = some terminal ∧
      chunksOf terminal.written ++ terminal.preopenBuffer = dataOf middle ∧
      (.openPanel host.terminals.length ∈ middle →
        terminal.preopenBuffer = []) ∧
      (∀ first second,
        middle = first ++ .openPanel host.terminals.length :: second →
        .openPanel host.terminals.length ∉ first →
        .openPanel host.terminals.length ∉ second →
          terminal.written = .banner :: (dataOf middle).map Written.chunk ∧
            ∀ sessionId, terminal.shown sessionId =
              Written.text sessionId .banner ++ (dataOf middle).flatten) ∧
      ∀ ending rest final, Ends host.terminals.length ending →
        .attach host.terminals.length ∉ rest →
        system.exec next (ending :: rest) = some final →
          host.terminals.length ∉ final.listeners ∧
            ∃ silent, final.terminals[host.terminals.length]? = some silent ∧
              chunksOf silent.written <+: dataOf middle := by
  obtain ⟨shown, stepped, run⟩ := Option.bind_eq_some_iff.mp run
  have showing : host.step .showTerminal = some shown := stepped
  have listening := (listening_run reached).step showing
  have isShown : shown.terminals[host.terminals.length]? =
      some Terminal.listening := by
    cases showing
    simp [Host.attach, Host.modify, Terminal.listening, Terminal.new]
  obtain ⟨nextListening, isPanel⟩ := getElem?_run listening isShown run
  have mirrors := mirrors_foldl stays
  refine ⟨_, isPanel, mirrors.output,
    fun opens => mirrors.buffer (mirrors.opened.mpr opens), ?_, ?_⟩
  · intro first second same notBefore notAfter
    subst same
    have written := written_of_openedOnce stays notBefore notAfter
    exact ⟨written, shown_of_written written⟩
  · intro ending rest final ends notAttached run
    obtain ⟨finalListening, isFinal⟩ := getElem?_run nextListening isPanel run
    have silent := silent_foldl (mirrors.ends ends) notAttached
    refine ⟨fun listens => ?_, _, isFinal,
      (List.prefix_append _ _).trans silent.output⟩
    obtain ⟨terminal, isTerminal, attached⟩ :=
      (finalListening.attached _).mp listens
    cases isFinal.symm.trans isTerminal
    exact Bool.false_ne_true (silent.detached.symm.trans attached)

/-- Output before and after the panel is opened. -/
theorem bootAndReady_mirrored :
    ∃ next terminal,
      system.exec Host.initial
          [.showTerminal, .data (js "boot"), .openPanel 0, .data (js "ready")] =
        some next ∧
      next.terminals[0]? = some terminal ∧
      terminal.written =
        [.banner, .chunk (js "boot"), .chunk (js "ready")] := by
  have stays : ∀ event ∈
      [Event.data (js "boot"), .openPanel 0, .data (js "ready")],
        ¬ Ends 0 event := by
    simp [Ends]
  obtain ⟨terminal, isPanel, _, _, once, _⟩ :=
    @terminal_mirrors [] _ Host.initial _ rfl rfl stays
  refine ⟨_, terminal, rfl, isPanel, ?_⟩
  exact (once [.data (js "boot")] [.data (js "ready")] rfl (by simp)
    (by simp)).1

end RtsNotebook.Notebook.KernelTerminal
