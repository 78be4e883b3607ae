import RtsNotebook.Library.Runs
import RtsNotebook.Sidebar.Search.Totals

/-!
# A session of the search view

The webview of the search, its provider and the notebook editor.  The webview
debounces its input and sends searches and navigations; the provider answers a
search, runs the last one again when the editor changes, and lets
`llmnb.revealCell` select the cell of a navigation, which changes the editor
once more when the selection is cleared.  Messages travel in queues, and a
change of the editor queues a microtask.

The view is not closed here, and one notebook editor has the notebook type.
-/

namespace RtsNotebook.Sidebar.Search

open RtsNotebook.Js RtsNotebook.Js.RegExp RtsNotebook.Library

/-- A message of the webview. -/
inductive ToHost where
  | ready
  | search (options : SearchOptions)
  | navigate (cellId : JsString)

/-- `emptyOptions()`, with which the inputs of the webview begin too. -/
def emptyOptions : SearchOptions where
  query := []
  caseSensitive := false
  wholeWord := false
  regex := false
  scope := .all

/-- The state of the webview (`RendererState` and the inputs), the messages
under way, the variables of the provider, and the editor with the flashes that
are still to fade. -/
structure SearchSession where
  options : SearchOptions
  debouncing : Bool
  results : SearchResultsMessage
  active : Nat
  toHost : List ToHost
  toWebview : List SearchResultsMessage
  lastOptions : Option SearchOptions
  microtasks : Nat
  notebook : Option (List NotebookCell)
  selections : List (Nat × Nat)
  fades : List Nat

/-- What happens in a session: input in the webview and its debounced search,
a step to another match and a click on one, the arrival of a message, a
microtask, a change of the notebook or of the selection, and the end of a
flash. -/
inductive SearchEvent where
  | input (options : SearchOptions)
  | debounced
  | navigateBy (delta : Int)
  | click (index : Nat)
  | hostReceives
  | webviewReceives
  | microtask
  | changeNotebook (notebook : Option (List NotebookCell))
  | changeSelection (selections : List (Nat × Nat))
  | fade

/-- `findCellIndexByCellId` -/
def findCellIndexByCellId (cells : List NotebookCell) (cellId : JsString) :
    Option Nat :=
  if cellId = [] then
    none
  else
    cells.findIdx? fun cell => cellId ∈ candidateCellIds cell

/-- The set of `readActiveContext`. -/
def selectedIndices (selections : List (Nat × Nat)) : List Nat :=
  selections.flatMap fun range =>
    (List.range (range.2 - range.1)).map fun offset => range.1 + offset

namespace SearchSession

def initial : SearchSession where
  options := emptyOptions
  debouncing := false
  results := noResults none
  active := 0
  toHost := [.ready]
  toWebview := []
  lastOptions := none
  microtasks := 0
  notebook := none
  selections := []
  fades := []

section

variable (engine : Engine) (parse : JsString → Option Json)

/-- The results of a search at the moment. -/
def found (session : SearchSession) (options : SearchOptions) :
    SearchResultsMessage :=
  findMatches engine parse session.notebook
    (selectedIndices session.selections) options

def postResults (session : SearchSession) (options : SearchOptions) :
    SearchSession :=
  { session with
    toWebview := session.toWebview ++ [session.found engine parse options] }

def runIfReady (session : SearchSession) : SearchSession :=
  match session.lastOptions with
  | none => session
  | some options =>
      if options.query.length = 0 then
        session
      else
        { session with microtasks := session.microtasks + 1 }

/-- The editor takes over selections, and says so where they are others. -/
def select (session : SearchSession) (selections : List (Nat × Nat)) :
    SearchSession :=
  if session.selections = selections then
    session
  else
    { session with selections := selections }.runIfReady

/-- `runRevealCellCommand` -/
def reveal (session : SearchSession) (cellId : JsString) : SearchSession :=
  match session.notebook.bind fun cells =>
      findCellIndexByCellId cells cellId with
  | none => session
  | some index =>
      let selected := session.select [(index, index + 1)]
      { selected with fades := selected.fades ++ [index] }

/-- `handleMessage` -/
def handleMessage (session : SearchSession) : ToHost → SearchSession
  | .ready =>
      { session with lastOptions := some emptyOptions }.postResults engine parse
        emptyOptions
  | .search options =>
      { session with lastOptions := some options }.postResults engine parse
        options
  | .navigate cellId =>
      if cellId = [] then session else session.reveal cellId

/-- `revealActive` -/
def revealActive (session : SearchSession) : SearchSession :=
  match session.results.matchList[session.active]? with
  | none => session
  | some current =>
      { session with toHost := session.toHost ++ [.navigate current.cellId] }

/-- `navigateBy` -/
def navigateBy (session : SearchSession) (delta : Int) : SearchSession :=
  if session.results.matchList.length = 0 then
    session
  else
    let n : Int := session.results.matchList.length
    { session with
      active :=
        (((session.active + delta).tmod n + n).tmod n).toNat }.revealActive

/-- The listener for `results`. -/
def onResults (session : SearchSession) (results : SearchResultsMessage) :
    SearchSession :=
  { session with results := results, active := 0 }

/-- The document of every cell has a URI. -/
def HaveUris (notebook : Option (List NotebookCell)) : Prop :=
  ∀ cells, notebook = some cells → ∀ cell ∈ cells, cell.uri ≠ []

/-- One event; an event that cannot happen is refused. -/
def step (session : SearchSession) : SearchEvent → Option SearchSession
  | .input options =>
      some { session with options := options, debouncing := true }
  | .debounced =>
      if session.debouncing then
        some
          { session with
            debouncing := false
            toHost := session.toHost ++ [.search session.options] }
      else
        none
  | .navigateBy delta => some (session.navigateBy delta)
  | .click index =>
      if index < session.results.matchList.length then
        some { session with active := index }.revealActive
      else
        none
  | .hostReceives =>
      match session.toHost with
      | [] => none
      | message :: rest =>
          some ({ session with toHost := rest }.handleMessage engine parse
            message)
  | .webviewReceives =>
      match session.toWebview with
      | [] => none
      | results :: rest =>
          some ({ session with toWebview := rest }.onResults results)
  | .microtask =>
      match session.lastOptions, session.microtasks with
      | some options, more + 1 =>
          some ({ session with microtasks := more }.postResults engine parse
            options)
      | _, _ => none
  | .changeNotebook notebook =>
      some { session with notebook := notebook }.runIfReady
  | .changeSelection selections => some (session.select selections)
  | .fade =>
      match session.fades with
      | [] => none
      | index :: rest =>
          some ({ session with fades := rest }.select [(index, index)])

/-- The session as a system of events. -/
def system : System SearchSession SearchEvent where
  initial := initial
  step := step engine parse

end

end SearchSession

/-! ### The cells of the results -/

section

variable {engine : Engine} {parse : JsString → Option Json}
variable {options : SearchOptions} {selected : List Nat}

theorem findMatches_of_noQuery (noQuery : options.query.length = 0)
    (notebook : Option (List NotebookCell)) :
    findMatches engine parse notebook selected options = noResults none := by
  have built : buildSearchRegex engine options = .empty := by
    rw [buildSearchRegex, List.length_eq_zero_iff.mp noQuery]
    rfl
  cases notebook with
  | none =>
      rfl
  | some cells =>
      rw [findMatches, built]

/-- Every match names the cell that it is in. -/
def NamesCells (cells : List NotebookCell) (matchList : List Match) : Prop :=
  ∀ hit ∈ matchList, ∃ cell ∈ cells, hit.cellId = primaryCellId cell

theorem namesCells_pushMatch {cells : List NotebookCell}
    {found : List Match} (named : NamesCells cells found)
    (matchList : List Match) (before : NamesCells cells matchList) :
    NamesCells cells (found.foldl pushMatch matchList) := by
  induction found generalizing matchList with
  | nil =>
      exact before
  | cons first rest inductionHypothesis =>
      rw [NamesCells, List.forall_mem_cons] at named
      apply inductionHypothesis named.2
      rw [pushMatch]
      split
      · exact before
      · intro hit isHit
        rcases List.mem_append.mp isHit with earlier | now
        · exact before hit earlier
        · rw [List.mem_singleton.mp now]
          exact named.1

theorem namesCells_searchCell {regex : Expression} {cells : List NotebookCell}
    {progress : Progress} (before : NamesCells cells progress.matchList)
    {entry : NotebookCell × Nat} (isCell : entry.1 ∈ cells) :
    NamesCells cells
      (searchCell parse regex selected options progress entry).matchList := by
  rw [searchCell]
  split
  · exact before
  · simp only
    split
    · exact before
    · apply namesCells_pushMatch _ _ before
      intro hit isHit
      obtain ⟨found, -, rfl⟩ := List.mem_map.mp isHit
      exact ⟨entry.1, isCell, rfl⟩

theorem namesCells_findMatches (cells : List NotebookCell) :
    NamesCells cells
      (findMatches engine parse (some cells) selected options).matchList := by
  have none_named : NamesCells cells [] := fun hit isHit => nomatch isHit
  rw [findMatches]
  split
  · exact none_named
  · exact none_named
  · next regex built =>
      have isCell : ∀ entry ∈ cells.zipIdx, entry.1 ∈ cells :=
        fun entry isEntry => List.fst_mem_of_mem_zipIdx isEntry
      exact List.foldlRecOn cells.zipIdx
        (searchCell parse regex selected options)
        (motive := fun progress : Progress =>
          NamesCells cells progress.matchList)
        none_named fun _ before entry isEntry =>
          namesCells_searchCell before (isCell entry isEntry)

theorem primaryCellId_ne_nil {cell : NotebookCell} (hasUri : cell.uri ≠ []) :
    primaryCellId cell ≠ [] := by
  have nonempty : ∀ id ∈ candidateCellIds cell, id ≠ [] := by
    intro id isId
    rw [candidateCellIds] at isId
    simp only [List.mem_append, Option.mem_toList, Option.filter_eq_some_iff,
      List.mem_singleton, decide_eq_true_eq] at isId
    rcases isId with (⟨-, named⟩ | ⟨-, named⟩) | rfl
    · exact named
    · exact named
    · exact hasUri
  apply nonempty
  rw [primaryCellId]
  cases ids : candidateCellIds cell with
  | nil =>
      rw [candidateCellIds] at ids
      simp at ids
  | cons first rest =>
      exact List.mem_cons_self

theorem primaryCellId_mem (cell : NotebookCell) :
    primaryCellId cell ∈ candidateCellIds cell := by
  rw [primaryCellId]
  cases ids : candidateCellIds cell with
  | nil =>
      rw [candidateCellIds] at ids
      simp at ids
  | cons first rest =>
      exact List.mem_cons_self

/-- `revealCell` finds a cell for every match. -/
theorem exists_findCellIndex {cells : List NotebookCell}
    (haveUris : ∀ cell ∈ cells, cell.uri ≠ []) {hit : Match}
    (isHit : hit ∈
      (findMatches engine parse (some cells) selected options).matchList) :
    ∃ index, findCellIndexByCellId cells hit.cellId = some index := by
  obtain ⟨cell, isCell, named⟩ := namesCells_findMatches cells hit isHit
  rw [findCellIndexByCellId, named,
    if_neg (primaryCellId_ne_nil (haveUris cell isCell))]
  apply Option.isSome_iff_exists.mp
  rw [List.findIdx?_isSome, List.any_eq_true]
  exact ⟨cell, isCell, decide_eq_true (primaryCellId_mem cell)⟩

end

/-! ### What is shown -/

namespace SearchSession

/-- The search that a message asks for. -/
def asked : ToHost → Option SearchOptions
  | .ready => some emptyOptions
  | .search options => some options
  | .navigate _ => none

/-- The last search of the webview, received or not. -/
def lastAsked (session : SearchSession) : Option SearchOptions :=
  (session.toHost.filterMap asked).getLast?.or session.lastOptions

/-- The last results of the provider, received or not. -/
def lastPosted (session : SearchSession) : SearchResultsMessage :=
  session.toWebview.getLast?.getD session.results

section

variable (engine : Engine) (parse : JsString → Option Json)

/-- The results of the last search of the provider at the moment. -/
def current (session : SearchSession) : SearchResultsMessage :=
  session.lastOptions.elim (noResults none) (session.found engine parse)

/-- What every event keeps. -/
structure Consistent (session : SearchSession) : Prop where
  sent : session.debouncing = false →
    session.lastAsked = some session.options
  fresh : 0 < session.microtasks ∨
    session.lastPosted = session.current engine parse
  inRange : session.active = 0 ∨
    session.active < session.results.matchList.length

end

variable {engine : Engine} {parse : JsString → Option Json}
variable {session : SearchSession}

theorem consistent_initial : Consistent engine parse initial :=
  ⟨fun _ => rfl, Or.inr rfl, Or.inl rfl⟩

theorem lastPosted_append (session : SearchSession)
    (posted : SearchResultsMessage) :
    lastPosted { session with toWebview := session.toWebview ++ [posted] } =
      posted := by
  rw [lastPosted, List.getLast?_concat, Option.getD_some]

theorem lastAsked_append (session : SearchSession) (message : ToHost) :
    lastAsked { session with toHost := session.toHost ++ [message] } =
      (asked message).or session.lastAsked := by
  rw [lastAsked, List.filterMap_append]
  cases search : asked message with
  | none =>
      rw [List.filterMap_cons_none search, List.filterMap_nil,
        List.append_nil, Option.none_or, lastAsked]
  | some options =>
      rw [List.filterMap_cons_some search, List.filterMap_nil,
        List.getLast?_concat, Option.some_or, Option.some_or]

theorem lastAsked_cons {message : ToHost} {rest : List ToHost}
    (queued : session.toHost = message :: rest) :
    session.lastAsked =
      (rest.filterMap asked).getLast?.or
        ((asked message).or session.lastOptions) := by
  rw [lastAsked, queued]
  cases search : asked message with
  | none =>
      rw [List.filterMap_cons_none search, Option.none_or]
  | some options =>
      rw [List.filterMap_cons_some search, List.getLast?_cons]
      cases (rest.filterMap asked).getLast? <;> rfl

/-- A change of the editor queues a search, or the results are those of an
empty query whatever the editor shows. -/
theorem runIfReady_cases (engine : Engine)
    (parse : JsString → Option Json) (session : SearchSession)
    (notebook : Option (List NotebookCell)) (selections : List (Nat × Nat)) :
    let changed :=
      { session with notebook := notebook, selections := selections }
    (∃ options, session.lastOptions = some options ∧
      changed.runIfReady =
        { changed with microtasks := session.microtasks + 1 }) ∨
    (changed.runIfReady = changed ∧
      changed.current engine parse = noResults none ∧
      session.current engine parse = noResults none) := by
  intro changed
  cases last : session.lastOptions with
  | none =>
      refine Or.inr ⟨?_, ?_, ?_⟩
      · simp only [changed, runIfReady, last]
      · simp only [changed, current, last, Option.elim_none]
      · rw [current, last, Option.elim_none]
  | some options =>
      by_cases noQuery : options.query.length = 0
      · refine Or.inr ⟨?_, ?_, ?_⟩
        · simp only [changed, runIfReady, last, if_pos noQuery]
        · simp only [changed, current, last, Option.elim_some]
          exact findMatches_of_noQuery noQuery _
        · rw [current, last, Option.elim_some]
          exact findMatches_of_noQuery noQuery _
      · refine Or.inl ⟨options, rfl, ?_⟩
        simp only [changed, runIfReady, last, if_neg noQuery]

theorem Consistent.changed (consistent : Consistent engine parse session)
    (notebook : Option (List NotebookCell)) (selections : List (Nat × Nat)) :
    Consistent engine parse
      (runIfReady
        { session with notebook := notebook, selections := selections }) := by
  rcases runIfReady_cases engine parse session notebook
      selections with ⟨options, -, queued⟩ | ⟨unchanged, now, before⟩
  · rw [queued]
    exact ⟨consistent.sent, Or.inl (Nat.succ_pos _), consistent.inRange⟩
  · rw [unchanged]
    refine ⟨consistent.sent, consistent.fresh.imp_right fun fresh => ?_,
      consistent.inRange⟩
    rw [now, ← before, ← fresh]
    rfl

theorem Consistent.select (consistent : Consistent engine parse session)
    (selections : List (Nat × Nat)) :
    Consistent engine parse (session.select selections) := by
  rw [SearchSession.select]
  split
  · exact consistent
  · exact consistent.changed session.notebook selections

theorem Consistent.reveal (consistent : Consistent engine parse session)
    (cellId : JsString) :
    Consistent engine parse (session.reveal cellId) := by
  rw [SearchSession.reveal]
  split
  · exact consistent
  · next index _ =>
      have selected := consistent.select [(index, index + 1)]
      exact ⟨selected.sent, selected.fresh, selected.inRange⟩

/-- A search is answered at once. -/
theorem consistent_answered (session : SearchSession)
    {options : SearchOptions}
    (sent : session.debouncing = false →
      (session.toHost.filterMap asked).getLast?.or (some options) =
        some session.options)
    (inRange : session.active = 0 ∨
      session.active < session.results.matchList.length) :
    Consistent engine parse
      ({ session with lastOptions := some options }.postResults engine parse
        options) :=
  ⟨sent, Or.inr (lastPosted_append _ _), inRange⟩

theorem consistent_received {message : ToHost} {rest : List ToHost}
    (consistent : Consistent engine parse session)
    (queued : session.toHost = message :: rest) :
    Consistent engine parse
      ({ session with toHost := rest }.handleMessage engine parse message) := by
  have sent : session.debouncing = false →
      (rest.filterMap asked).getLast?.or
        ((asked message).or session.lastOptions) = some session.options :=
    fun settled => (lastAsked_cons queued).symm.trans (consistent.sent settled)
  cases message with
  | ready =>
      exact consistent_answered { session with toHost := rest }
        sent consistent.inRange
  | search options =>
      exact consistent_answered { session with toHost := rest }
        sent consistent.inRange
  | navigate cellId =>
      have dequeued : Consistent engine parse
          { session with toHost := rest } :=
        ⟨sent, consistent.fresh, consistent.inRange⟩
      rw [handleMessage]
      split
      · exact dequeued
      · exact dequeued.reveal cellId

theorem Consistent.revealActive
    (consistent : Consistent engine parse session) :
    Consistent engine parse session.revealActive := by
  rw [SearchSession.revealActive]
  split
  · exact consistent
  · refine ⟨fun settled => ?_, consistent.fresh, consistent.inRange⟩
    rw [lastAsked_append]
    exact consistent.sent settled

theorem navigated_lt (active delta : Int) {length : Nat}
    (nonempty : length ≠ 0) :
    (((active + delta).tmod length + length).tmod length).toNat < length := by
  have positive : (0 : Int) < length := by
    omega
  have nonneg : 0 ≤ (active + delta).tmod length + length := by
    have bound := Int.lt_tmod_of_pos (active + delta) positive
    omega
  have inRange := Int.emod_lt_of_pos
    ((active + delta).tmod length + length) positive
  rw [Int.tmod_eq_emod_of_nonneg nonneg]
  omega

theorem consistent_step {event : SearchEvent} {next : SearchSession}
    (consistent : Consistent engine parse session)
    (stepped : step engine parse session event = some next) :
    Consistent engine parse next := by
  cases event with
  | input options =>
      obtain rfl := Option.some.inj stepped
      refine ⟨fun settled => ?_, consistent.fresh, consistent.inRange⟩
      cases settled
  | debounced =>
      rw [step, Option.ite_none_right_eq_some] at stepped
      obtain rfl := Option.some.inj stepped.2
      exact ⟨fun _ => lastAsked_append _ _, consistent.fresh,
        consistent.inRange⟩
  | navigateBy delta =>
      obtain rfl := Option.some.inj stepped
      rw [SearchSession.navigateBy]
      split
      · exact consistent
      · next nonempty =>
          apply Consistent.revealActive
          exact ⟨consistent.sent, consistent.fresh,
            Or.inr (navigated_lt _ _ nonempty)⟩
  | click index =>
      rw [step, Option.ite_none_right_eq_some] at stepped
      obtain ⟨inRange, stepped⟩ := stepped
      obtain rfl := Option.some.inj stepped
      apply Consistent.revealActive
      exact ⟨consistent.sent, consistent.fresh, Or.inr inRange⟩
  | hostReceives =>
      rw [step] at stepped
      split at stepped
      · cases stepped
      · next message rest queued =>
          obtain rfl := Option.some.inj stepped
          exact consistent_received consistent queued
  | webviewReceives =>
      rw [step] at stepped
      split at stepped
      · cases stepped
      · next results rest queued =>
          obtain rfl := Option.some.inj stepped
          refine ⟨consistent.sent, consistent.fresh.imp_right fun fresh => ?_,
            Or.inl rfl⟩
          rw [lastPosted, queued, List.getLast?_cons] at fresh
          exact fresh
  | microtask =>
      rw [step] at stepped
      split at stepped
      · next options more last queued =>
          obtain rfl := Option.some.inj stepped
          refine ⟨consistent.sent, Or.inr ?_, consistent.inRange⟩
          rw [postResults, lastPosted_append]
          simp only [current, last, Option.elim_some]
          rfl
      · cases stepped
  | changeNotebook notebook =>
      obtain rfl := Option.some.inj stepped
      exact consistent.changed notebook session.selections
  | changeSelection selections =>
      obtain rfl := Option.some.inj stepped
      exact consistent.select selections
  | fade =>
      rw [step] at stepped
      split at stepped
      · cases stepped
      · next index rest _ =>
          obtain rfl := Option.some.inj stepped
          apply Consistent.select
          exact ⟨consistent.sent, consistent.fresh, consistent.inRange⟩

/-- A cell with a source. -/
def sourceCell (source uri : JsString) : NotebookCell where
  source := source
  uri := uri
  metadata := none
  outputs := []

/-- The webview is ready, two cells open, and a text is searched. -/
def openAndSearch : List SearchEvent :=
  [.hostReceives, .webviewReceives,
    .changeNotebook (some [sourceCell (js "aba") (js "c:1"),
      sourceCell (js "a") (js "c:2")]),
    .input (inputSearch (js "a") false false), .debounced, .hostReceives,
    .webviewReceives]

/-- A step to the next match, with what follows until its cell no longer
flashes. -/
def stepToNext : List SearchEvent :=
  [.navigateBy 1, .hostReceives, .microtask, .webviewReceives, .fade,
    .microtask, .webviewReceives]

/-- The session after some events. -/
def after (events : List SearchEvent) : SearchSession :=
  ((system plainEngine fun _ => none).exec initial events).getD initial

/-- Nothing is under way. -/
def AtRest (session : SearchSession) : Prop :=
  session.debouncing = false ∧ session.toHost = [] ∧
    session.toWebview = [] ∧ session.microtasks = 0


/-- Whenever nothing is under way, the webview shows the results that its own
inputs have in the notebook as it is, in the cells selected as they are. -/
theorem shows_current {events : List SearchEvent} {session : SearchSession}
    (run : (system engine parse).exec initial events = some session)
    (atRest : session.AtRest) :
    session.results =
      findMatches engine parse session.notebook
        (selectedIndices session.selections) session.options := by
  have consistent : Consistent engine parse session :=
    System.keeps_exec (P := Consistent engine parse)
      (fun _ _ _ before (_ : True) stepped => consistent_step before stepped)
      consistent_initial (fun _ _ => trivial) run
  obtain ⟨settled, received, shown, idle⟩ := atRest
  have sent := consistent.sent settled
  rw [lastAsked, received, List.filterMap_nil, List.getLast?_nil,
    Option.none_or] at sent
  have fresh := consistent.fresh.resolve_left (by omega)
  rw [lastPosted, shown, List.getLast?_nil, Option.getD_none, current, sent,
    Option.elim_some] at fresh
  exact fresh

theorem openAndSearch_shown :
    let session := after openAndSearch
    session.results.matchList.length = 3 ∧
      session.results =
        findMatches plainEngine (fun _ => none) session.notebook
          (selectedIndices session.selections) session.options :=
  ⟨by decide,
    @shows_current plainEngine (fun _ => none) openAndSearch
      (after openAndSearch) rfl ⟨rfl, rfl, rfl, rfl⟩⟩

/-! ### The active match -/

/-- Something that is still to come makes the first match the active one: a
navigation, the end of a flash, a search, or results. -/
def Resetting (session : SearchSession) : Prop :=
  (∃ cells, session.notebook = some cells ∧
    ∃ cellId index, ToHost.navigate cellId ∈ session.toHost ∧
      findCellIndexByCellId cells cellId = some index) ∨
  (∃ index ∈ session.fades, session.selections = [(index, index + 1)]) ∨
  0 < session.microtasks ∨
  session.toWebview ≠ []

/-- What every event keeps, as long as the cells have URIs. -/
structure Returning (engine : Engine) (parse : JsString → Option Json)
    (session : SearchSession) : Prop where
  consistent : Consistent engine parse session
  haveUris : HaveUris session.notebook
  resetting : session.active = 0 ∨ session.Resetting

/-- Where another match is active and nothing posts results, those shown are
the ones of a query in the notebook. -/
theorem Consistent.shows_query (consistent : Consistent engine parse session)
    (another : session.active ≠ 0) (idle : session.microtasks = 0)
    (received : session.toWebview = []) :
    ∃ options cells, session.lastOptions = some options ∧
      options.query.length ≠ 0 ∧ session.notebook = some cells ∧
      session.results =
        findMatches engine parse (some cells)
          (selectedIndices session.selections) options := by
  have fresh := consistent.fresh.resolve_left (by omega)
  rw [lastPosted, received, List.getLast?_nil, Option.getD_none] at fresh
  have nonempty : session.results ≠ noResults none := by
    intro empty
    have inRange := consistent.inRange.resolve_left another
    rw [empty] at inRange
    exact Nat.not_lt_zero _ inRange
  rw [current] at fresh
  cases last : session.lastOptions with
  | none =>
      rw [last] at fresh
      exact absurd fresh nonempty
  | some options =>
      rw [last, Option.elim_some, found] at fresh
      refine ⟨options, ?_⟩
      cases shown : session.notebook with
      | none =>
          rw [shown] at fresh
          exact absurd fresh nonempty
      | some cells =>
          rw [shown] at fresh
          refine ⟨cells, rfl, fun noQuery => nonempty ?_, rfl, fresh⟩
          rw [fresh, findMatches_of_noQuery noQuery]

/-- A change of the editor runs the search again. -/
theorem Consistent.resetting_changed
    (consistent : Consistent engine parse session)
    (notebook : Option (List NotebookCell)) (selections : List (Nat × Nat)) :
    session.active = 0 ∨
      (runIfReady { session with
        notebook := notebook, selections := selections }).Resetting := by
  by_cases first : session.active = 0
  · exact Or.inl first
  · right
    rcases runIfReady_cases engine parse session
        notebook selections with ⟨options, -, queued⟩ | ⟨unchanged, -, before⟩
    · rw [queued]
      exact Or.inr (Or.inr (Or.inl (Nat.succ_pos _)))
    · rw [unchanged]
      by_cases posted : 0 < session.microtasks ∨ session.toWebview ≠ []
      · exact Or.inr (Or.inr posted)
      · rw [not_or, not_not] at posted
        exfalso
        have inRange := consistent.inRange.resolve_left first
        have fresh := consistent.fresh.resolve_left posted.1
        rw [lastPosted, posted.2, List.getLast?_nil, Option.getD_none,
          before] at fresh
        rw [fresh] at inRange
        exact Nat.not_lt_zero _ inRange

@[simp]
theorem runIfReady_active (session : SearchSession) :
    session.runIfReady.active = session.active := by
  rw [runIfReady]
  split
  · rfl
  · split <;> rfl

@[simp]
theorem runIfReady_notebook (session : SearchSession) :
    session.runIfReady.notebook = session.notebook := by
  rw [runIfReady]
  split
  · rfl
  · split <;> rfl

theorem select_cases (session : SearchSession)
    (selections : List (Nat × Nat)) :
    (session.selections = selections ∧ session.select selections = session) ∨
      (session.selections ≠ selections ∧
        session.select selections =
          runIfReady { session with selections := selections }) := by
  rw [SearchSession.select]
  split
  · next same => exact Or.inl ⟨same, rfl⟩
  · next others => exact Or.inr ⟨others, rfl⟩

theorem select_active (session : SearchSession)
    (selections : List (Nat × Nat)) :
    (session.select selections).active = session.active := by
  rcases select_cases session selections with ⟨-, same⟩ | ⟨-, others⟩
  · rw [same]
  · rw [others, runIfReady_active]

theorem select_notebook (session : SearchSession)
    (selections : List (Nat × Nat)) :
    (session.select selections).notebook = session.notebook := by
  rcases select_cases session selections with ⟨-, same⟩ | ⟨-, others⟩
  · rw [same]
  · rw [others, runIfReady_notebook]

/-- Other selections than those there were run the search again. -/
theorem Consistent.resetting_select
    (consistent : Consistent engine parse session)
    {selections : List (Nat × Nat)}
    (others : session.selections ≠ selections) :
    (session.select selections).active = 0 ∨
      (session.select selections).Resetting := by
  rw [select_active]
  rcases select_cases session selections with ⟨same, -⟩ | ⟨-, changed⟩
  · exact absurd same others
  · rw [changed]
    exact consistent.resetting_changed session.notebook selections

/-- The command of a navigation selects the cell until its flash fades. -/
theorem Consistent.resetting_reveal
    (consistent : Consistent engine parse session) {cellId : JsString}
    {cells : List NotebookCell} {index : Nat}
    (shown : session.notebook = some cells)
    (isFound : findCellIndexByCellId cells cellId = some index) :
    (session.reveal cellId).active = 0 ∨
      (session.reveal cellId).Resetting := by
  have revealed : session.reveal cellId =
      { session.select [(index, index + 1)] with
        fades := (session.select [(index, index + 1)]).fades ++ [index] } := by
    rw [SearchSession.reveal, shown, Option.bind_some, isFound]
  rw [revealed]
  by_cases same : session.selections = [(index, index + 1)]
  · refine Or.inr (Or.inr (Or.inl ⟨index, ?_, ?_⟩))
    · exact List.mem_append_right _ List.mem_cons_self
    · rw [SearchSession.select, if_pos same]
      exact same
  · rcases consistent.resetting_select same with first | resetting
    · exact Or.inl first
    · right
      rcases resetting with navigates | ⟨fading, isFading, flashed⟩ | posted
      · exact Or.inl navigates
      · exact Or.inr (Or.inl
          ⟨fading, List.mem_append_left _ isFading, flashed⟩)
      · exact Or.inr (Or.inr posted)

/-- The cell that `llmnb.revealCell` finds. -/
def locate (session : SearchSession) (cellId : JsString) : Option Nat :=
  session.notebook.bind fun cells => findCellIndexByCellId cells cellId

theorem locate_nil (session : SearchSession) : session.locate [] = none := by
  rw [locate]
  cases session.notebook <;> rfl

/-- A navigation that finds no cell changes nothing. -/
theorem handleMessage_of_noCell {cellId : JsString}
    (noCell : session.locate cellId = none) :
    session.handleMessage engine parse (.navigate cellId) = session := by
  rw [handleMessage]
  split
  · rfl
  · rw [locate] at noCell
    rw [SearchSession.reveal, noCell]

theorem handleMessage_of_located {cellId : JsString} {index : Nat}
    (located : session.locate cellId = some index) :
    session.handleMessage engine parse (.navigate cellId) =
      session.reveal cellId := by
  rw [handleMessage, if_neg]
  rintro rfl
  rw [locate_nil] at located
  cases located

/-- A navigation that finds no cell is no reason to wait for. -/
theorem resetting_tail {cellId : JsString} {rest : List ToHost}
    (queued : session.toHost = .navigate cellId :: rest)
    (noCell : session.locate cellId = none)
    (resetting : session.Resetting) :
    Resetting { session with toHost := rest } := by
  rcases resetting with ⟨cells, shown, named, index, sent, isFound⟩ | others
  · rw [queued, List.mem_cons] at sent
    rcases sent with now | later
    · obtain rfl := ToHost.navigate.inj now
      rw [locate, shown, Option.bind_some, isFound] at noCell
      cases noCell
    · exact Or.inl ⟨cells, shown, named, index, later, isFound⟩
  · exact Or.inr others

theorem resetting_posted {options : SearchOptions} :
    (session.postResults engine parse options).Resetting :=
  Or.inr (Or.inr (Or.inr (List.append_ne_nil_of_right_ne_nil _
    (List.cons_ne_nil _ _))))

theorem Returning.received {message : ToHost} {rest : List ToHost}
    (returning : Returning engine parse session)
    (queued : session.toHost = message :: rest) :
    let next :=
      { session with toHost := rest }.handleMessage engine parse message
    next.active = 0 ∨ next.Resetting := by
  cases message with
  | ready =>
      exact Or.inr resetting_posted
  | search options =>
      exact Or.inr resetting_posted
  | navigate cellId =>
      cases located : session.locate cellId with
      | none =>
          intro next
          have unchanged : next = { session with toHost := rest } :=
            handleMessage_of_noCell located
          rw [unchanged]
          exact returning.resetting.imp_right
            (resetting_tail queued located)
      | some index =>
          intro next
          have revealed : next =
              { session with toHost := rest }.reveal cellId :=
            handleMessage_of_located located
          have consistent : Consistent engine parse
              { session with toHost := rest } :=
            ⟨fun settled => (lastAsked_cons queued).symm.trans
                (returning.consistent.sent settled),
              returning.consistent.fresh, returning.consistent.inRange⟩
          obtain ⟨cells, shown, isFound⟩ :=
            Option.bind_eq_some_iff.mp located
          rw [revealed]
          exact consistent.resetting_reveal shown isFound

/-- A step to a match sends a navigation that finds its cell. -/
theorem resetting_revealActive (engine : Engine)
    (parse : JsString → Option Json)
    (consistent : Consistent engine parse session)
    (haveUris : HaveUris session.notebook) :
    session.revealActive.active = 0 ∨ session.revealActive.Resetting := by
  rw [SearchSession.revealActive]
  split
  · next noMatch =>
      left
      rw [List.getElem?_eq_none_iff] at noMatch
      rcases consistent.inRange with first | inRange
      · exact first
      · omega
  · next hit isActive =>
      by_cases first : session.active = 0
      · exact Or.inl first
      · right
        by_cases posted : 0 < session.microtasks ∨ session.toWebview ≠ []
        · exact Or.inr (Or.inr posted)
        · rw [not_or, not_not] at posted
          obtain ⟨options, cells, -, -, shown, results⟩ :=
            consistent.shows_query first (by omega) posted.2
          have isHit := List.mem_of_getElem? isActive
          rw [results] at isHit
          obtain ⟨index, isFound⟩ :=
            exists_findCellIndex (haveUris cells shown) isHit
          exact Or.inl ⟨cells, shown, hit.cellId, index,
            List.mem_append_right _ List.mem_cons_self, isFound⟩

/-- The step of a notebook keeps the URIs of the cells. -/
def KeepsUris : SearchEvent → Prop
  | .changeNotebook notebook => HaveUris notebook
  | _ => True

theorem handleMessage_notebook (session : SearchSession) (message : ToHost) :
    (session.handleMessage engine parse message).notebook =
      session.notebook := by
  cases message with
  | ready =>
      rfl
  | search options =>
      rfl
  | navigate cellId =>
      rw [handleMessage]
      split
      · rfl
      · rw [SearchSession.reveal]
        split
        · rfl
        · exact select_notebook _ _

theorem haveUris_step {event : SearchEvent} {next : SearchSession}
    (haveUris : HaveUris session.notebook) (keepsUris : KeepsUris event)
    (stepped : step engine parse session event = some next) :
    HaveUris next.notebook := by
  cases event with
  | changeNotebook notebook =>
      obtain rfl := Option.some.inj stepped
      rw [runIfReady_notebook]
      exact keepsUris
  | changeSelection selections =>
      obtain rfl := Option.some.inj stepped
      rw [select_notebook]
      exact haveUris
  | input options =>
      obtain rfl := Option.some.inj stepped
      exact haveUris
  | debounced =>
      rw [step, Option.ite_none_right_eq_some] at stepped
      obtain rfl := Option.some.inj stepped.2
      exact haveUris
  | navigateBy delta =>
      obtain rfl := Option.some.inj stepped
      rw [SearchSession.navigateBy]
      split
      · exact haveUris
      · simp only [SearchSession.revealActive]
        split <;> exact haveUris
  | click index =>
      rw [step, Option.ite_none_right_eq_some] at stepped
      obtain rfl := Option.some.inj stepped.2
      simp only [SearchSession.revealActive]
      split <;> exact haveUris
  | hostReceives =>
      rw [step] at stepped
      split at stepped
      · cases stepped
      · obtain rfl := Option.some.inj stepped
        rw [handleMessage_notebook]
        exact haveUris
  | webviewReceives =>
      rw [step] at stepped
      split at stepped
      · cases stepped
      · obtain rfl := Option.some.inj stepped
        exact haveUris
  | microtask =>
      rw [step] at stepped
      split at stepped
      · obtain rfl := Option.some.inj stepped
        exact haveUris
      · cases stepped
  | fade =>
      rw [step] at stepped
      split at stepped
      · cases stepped
      · obtain rfl := Option.some.inj stepped
        rw [select_notebook]
        exact haveUris

theorem resetting_step {event : SearchEvent} {next : SearchSession}
    (returning : Returning engine parse session)
    (stepped : step engine parse session event = some next) :
    next.active = 0 ∨ next.Resetting := by
  have resetting := returning.resetting
  have consistent := returning.consistent
  cases event with
  | input options =>
      obtain rfl := Option.some.inj stepped
      exact resetting
  | debounced =>
      rw [step, Option.ite_none_right_eq_some] at stepped
      obtain rfl := Option.some.inj stepped.2
      refine resetting.imp_right fun resetting => ?_
      rcases resetting with
        ⟨cells, shown, cellId, index, sent, isFound⟩ | others
      · exact Or.inl ⟨cells, shown, cellId, index,
          List.mem_append_left _ sent, isFound⟩
      · exact Or.inr others
  | navigateBy delta =>
      obtain rfl := Option.some.inj stepped
      rw [SearchSession.navigateBy]
      split
      · exact resetting
      · next nonempty =>
          refine resetting_revealActive engine parse
            ?_ returning.haveUris
          exact ⟨consistent.sent, consistent.fresh,
            Or.inr (navigated_lt _ _ nonempty)⟩
  | click index =>
      rw [step, Option.ite_none_right_eq_some] at stepped
      obtain ⟨inRange, stepped⟩ := stepped
      obtain rfl := Option.some.inj stepped
      refine resetting_revealActive engine parse
        ?_ returning.haveUris
      exact ⟨consistent.sent, consistent.fresh, Or.inr inRange⟩
  | hostReceives =>
      rw [step] at stepped
      split at stepped
      · cases stepped
      · next message rest queued =>
          obtain rfl := Option.some.inj stepped
          exact returning.received queued
  | webviewReceives =>
      rw [step] at stepped
      split at stepped
      · cases stepped
      · obtain rfl := Option.some.inj stepped
        exact Or.inl rfl
  | microtask =>
      rw [step] at stepped
      split at stepped
      · obtain rfl := Option.some.inj stepped
        exact Or.inr resetting_posted
      · cases stepped
  | changeNotebook notebook =>
      obtain rfl := Option.some.inj stepped
      rw [runIfReady_active]
      exact consistent.resetting_changed notebook session.selections
  | changeSelection selections =>
      obtain rfl := Option.some.inj stepped
      by_cases same : session.selections = selections
      · rw [SearchSession.select, if_pos same]
        exact resetting
      · exact consistent.resetting_select same
  | fade =>
      rw [step] at stepped
      split at stepped
      · cases stepped
      · next index rest flashing =>
          obtain rfl := Option.some.inj stepped
          have faded : Consistent engine parse
              { session with fades := rest } :=
            ⟨consistent.sent, consistent.fresh, consistent.inRange⟩
          by_cases same : session.selections = [(index, index)]
          · -- A cleared selection is nobody's flash.
            rw [SearchSession.select, if_pos same]
            refine resetting.imp_right fun resetting => ?_
            rcases resetting with navigates | ⟨fading, -, flashed⟩ | posted
            · exact Or.inl navigates
            · rw [same, List.cons_eq_cons, Prod.mk.injEq] at flashed
              omega
            · exact Or.inr (Or.inr posted)
          · exact faded.resetting_select same

theorem Returning.step {event : SearchEvent} {next : SearchSession}
    (returning : Returning engine parse session)
    (keepsUris : KeepsUris event)
    (stepped : step engine parse session event = some next) :
    Returning engine parse next :=
  ⟨consistent_step returning.consistent stepped,
    haveUris_step returning.haveUris keepsUris stepped,
    resetting_step returning stepped⟩

end SearchSession

end RtsNotebook.Sidebar.Search
