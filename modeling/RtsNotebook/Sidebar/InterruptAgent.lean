import RtsNotebook.Library.Runs
import RtsNotebook.Notebook.InterruptButton
import RtsNotebook.Sidebar.AgentsTree

/-!
# Stopping an agent from the sidebar

The stop button of an agent row and `llmnb.sidebar.interruptAgent`: the row is
as it was rendered, the run to stop is looked up again at the click, and the
command of the cells ships the interrupt.  The zone may have changed between
the two.
-/

namespace RtsNotebook.Sidebar.Agents

open RtsNotebook.Js RtsNotebook.Library RtsNotebook.Messaging
open RtsNotebook.Notebook.CellBadge (InterruptCell)
open RtsNotebook.Notebook.InterruptButton
  (Session buildInterruptEnvelope clickedAgent? clickedCell button_hidden)

/-- `InterruptTarget` -/
structure InterruptTarget where
  cellId : JsString
  runId : Option Json

/-- `resolveInterruptTarget`, given what the lookup finds. -/
def resolveInterruptTarget (active : Option Json) : Option InterruptTarget :=
  active.bind fun frame =>
    (nonEmptyText? frame (js "cell_id")).map fun cellId =>
      { cellId := cellId
        runId :=
          match frame.member? (js "run_id") with
          | some .null => none
          | runId => runId }

/-- `node?.agentId` -/
def AgentsNode.agentId? : AgentsNode → Option JsString
  | .agent agentId => some agentId
  | .agentDetail agentId _ _ => some agentId
  | _ => none

/-- The sidebar command: the arguments with which it runs
`llmnb.interruptCell`, if it does. -/
def interruptArgs? (dateParse : DateParse) (snapshot : Option RtsSnapshot)
    (node : AgentsNode) : Option Json :=
  (node.agentId?.filter fun agentId => agentId ≠ []).bind fun agentId =>
    (resolveInterruptTarget
      (getActiveRunFrame dateParse agentId snapshot)).map fun target =>
        .object
          [(js "agent_id", .string agentId),
            (js "cell_id", .string target.cellId)]

/-- The metadata of the active zone, the rows of the root as they were last
rendered, and the session of the interrupt button of the cells. -/
structure AgentsView where
  snapshot : Option RtsSnapshot
  shown : List (AgentsNode × TreeItem)
  session : Session

/-- The active zone changes, the editor renders the tree, the stop button of a
row is clicked, or something happens to the cells. -/
inductive ViewEvent (Version : Type*) where
  | change (snapshot : Option RtsSnapshot)
  | render
  | stop (row : Nat)
  | cells (event : Notebook.InterruptButton.Event Version)

namespace AgentsView

variable {Version : Type*} (dateParse : DateParse) (uriClass : UriClass)

def initial : AgentsView where
  snapshot := none
  shown := []
  session := .initial

/-- The rows of the root; one that cannot be made is not there. -/
def rows (snapshot : Option RtsSnapshot) : List (AgentsNode × TreeItem) :=
  ((getChildren? dateParse snapshot none).getD []).filterMap fun node =>
    (getTreeItem? dateParse uriClass snapshot node).map fun item =>
      (node, item)

/-- The stop button is there where the menu has it, by the context value. -/
def step (view : AgentsView) : ViewEvent Version → Option AgentsView
  | .change snapshot => some { view with snapshot := snapshot }
  | .render =>
      some { view with shown := rows dateParse uriClass view.snapshot }
  | .stop row =>
      match view.shown[row]? with
      | none => none
      | some (node, item) =>
          if item.contextValue = some AGENT_RUNNING_CONTEXT_VALUE then
            match interruptArgs? dateParse view.snapshot node with
            | none => some view
            | some args => some
                { view with
                  session := view.session.step
                    (.click (some args) :
                      Notebook.InterruptButton.Event Version) }
          else
            none
  | .cells event => some { view with session := view.session.step event }

end AgentsView

def agentsSystem (Version : Type*) (dateParse : DateParse)
    (uriClass : UriClass) : System AgentsView (ViewEvent Version) where
  initial := .initial
  step := AgentsView.step dateParse uriClass

/-! ### The run to stop -/

section

variable {dateParse : DateParse} {agentId : JsString}

/-- The frames of the agent that are in flight. -/
def liveFrames (agentId : JsString) (snapshot : Option RtsSnapshot) :
    List Json :=
  ((snapshot.map frameValues).getD []).filter (isLive agentId)

/-- The frame is in flight and started last, not before 1970, the first of
those that started when it did. -/
def StartedLast (dateParse : DateParse) (agentId : JsString)
    (snapshot : Option RtsSnapshot) (frame : Json) : Prop :=
  IsFirst (startedAtMs dateParse) (-1) (liveFrames agentId snapshot) frame

theorem foldl_consider_eq (frames : List Json) (best : Best) :
    frames.foldl (Best.consider dateParse agentId) best =
      let kept := (frames.filter (isLive agentId)).foldl
        (Kept.improve (startedAtMs dateParse)) ⟨best.frame, best.startedAt⟩
      ⟨kept.item, kept.rank⟩ := by
  induction frames generalizing best with
  | nil => rfl
  | cons frame rest inductionHypothesis =>
      rw [List.foldl_cons, inductionHypothesis, Best.consider_eq]
      by_cases live : isLive agentId frame = true
      · rw [List.filter_cons_of_pos live, List.foldl_cons, Kept.improve]
        by_cases later : best.startedAt < startedAtMs dateParse frame
        · rw [if_pos ⟨live, later⟩, if_pos later]
        · rw [if_neg fun both => later both.2, if_neg later]
      · rw [List.filter_cons_of_neg live, if_neg fun both => live both.1]

theorem getActiveRunFrame_iff {snapshot : Option RtsSnapshot} {frame : Json} :
    getActiveRunFrame dateParse agentId snapshot = some frame ↔
      StartedLast dateParse agentId snapshot frame := by
  have folded : getActiveRunFrame dateParse agentId snapshot =
      ((liveFrames agentId snapshot).foldl
        (Kept.improve (startedAtMs dateParse)) ⟨none, -1⟩).item := by
    rw [getActiveRunFrame, liveFrames]
    cases snapshot with
    | none => rfl
    | some snapshot =>
        rw [Option.bind_some, Option.map_some, Option.getD_some, frameValues]
        split
        · rfl
        · rw [foldl_consider_eq]
  rw [folded]
  exact kept_iff_isFirst

theorem filter_of_named (named : agentId ≠ []) :
    ((some agentId).filter fun agentId => agentId ≠ []) = some agentId :=
  Option.filter_eq_some_iff.mpr ⟨rfl, decide_eq_true named⟩

/-- Where the sidebar command sends the interrupt. -/
theorem interruptArgs?_eq_some_iff {snapshot : Option RtsSnapshot}
    {args : Json} :
    interruptArgs? dateParse snapshot (.agent agentId) = some args ↔
      agentId ≠ [] ∧ ∃ frame cellId,
        StartedLast dateParse agentId snapshot frame ∧
          nonEmptyText? frame (js "cell_id") = some cellId ∧
          args = .object [(js "agent_id", .string agentId),
            (js "cell_id", .string cellId)] := by
  constructor
  · intro sent
    obtain ⟨other, isAgent, sent⟩ := Option.bind_eq_some_iff.mp sent
    obtain ⟨same, named⟩ := Option.filter_eq_some_iff.mp isAgent
    cases same
    obtain ⟨target, resolved, same⟩ := Option.map_eq_some_iff.mp sent
    obtain ⟨frame, active, isTarget⟩ := Option.bind_eq_some_iff.mp resolved
    obtain ⟨cellId, isCell, sameTarget⟩ := Option.map_eq_some_iff.mp isTarget
    refine ⟨of_decide_eq_true named, frame, cellId,
      getActiveRunFrame_iff.mp active, isCell, ?_⟩
    rw [← same, ← sameTarget]
  · intro found
    obtain ⟨named, frame, cellId, started, isCell, rfl⟩ := found
    have active := getActiveRunFrame_iff.mpr started
    rw [interruptArgs?, AgentsNode.agentId?, filter_of_named named,
      Option.bind_some, resolveInterruptTarget, active, Option.bind_some,
      isCell]
    rfl

theorem clickedAgent?_of_args (named : agentId ≠ []) (cellId : JsString) :
    clickedAgent? (some (.object [(js "agent_id", .string agentId),
      (js "cell_id", .string cellId)])) = some agentId := by
  have read : clickedAgent? (some (.object [(js "agent_id", .string agentId),
      (js "cell_id", .string cellId)])) =
        (some agentId).filter fun agentId => agentId ≠ [] := rfl
  rw [read, filter_of_named named]

end

/-! ### Runs of the view -/

namespace AgentsView

section

variable {Version : Type*} {dateParse : DateParse} {uriClass : UriClass}
  {view next final : AgentsView}

/-- What the stop button of a row does. -/
theorem step_stop_eq_some {row : Nat}
    (stopped : step dateParse uriClass view
      (.stop row : ViewEvent Version) = some next) :
    ∃ node item, view.shown[row]? = some (node, item) ∧
      item.contextValue = some AGENT_RUNNING_CONTEXT_VALUE ∧
      next = (interruptArgs? dateParse view.snapshot node).elim view
        fun args => { view with
          session := view.session.step
            (.click (some args) : Notebook.InterruptButton.Event Version) } := by
  rw [step] at stopped
  split at stopped
  · cases stopped
  · next node item isRow =>
      by_cases running : item.contextValue = some AGENT_RUNNING_CONTEXT_VALUE
      · rw [if_pos running] at stopped
        refine ⟨node, item, isRow, running, ?_⟩
        cases sent : interruptArgs? dateParse view.snapshot node with
        | none =>
            rw [sent] at stopped
            exact (Option.some.inj stopped).symm
        | some args =>
            rw [sent] at stopped
            exact (Option.some.inj stopped).symm
      · rw [if_neg running] at stopped
        cases stopped

/-- What a step does to the session of the cells: nothing, or one event, a
snapshot only where the cells have had it. -/
theorem session_step {event : ViewEvent Version}
    (stepped : step dateParse uriClass view event = some next) :
    ∃ events : List (Notebook.InterruptButton.Event Version),
      next.session = events.foldl Session.step view.session ∧
      ∀ agentId, ∀ happened ∈ events, happened.Reports agentId →
        event = .cells happened := by
  cases event with
  | change snapshot =>
      cases stepped
      exact ⟨[], rfl, nofun⟩
  | render =>
      cases stepped
      exact ⟨[], rfl, nofun⟩
  | stop row =>
      obtain ⟨node, item, _, _, rfl⟩ := step_stop_eq_some stepped
      cases interruptArgs? dateParse view.snapshot node with
      | none => exact ⟨[], rfl, nofun⟩
      | some args =>
          refine ⟨[.click (some args)], rfl, ?_⟩
          intro agentId happened isEvent reports
          cases List.mem_singleton.mp isEvent
          exact reports.elim
  | cells event =>
      cases stepped
      refine ⟨[event], rfl, ?_⟩
      intro agentId happened isEvent reports
      rw [List.mem_singleton.mp isEvent]

/-- What a run does to the session of the cells. -/
theorem session_exec {events : List (ViewEvent Version)}
    (run : (agentsSystem Version dateParse uriClass).exec view events =
      some final) :
    ∃ inner : List (Notebook.InterruptButton.Event Version),
      final.session = inner.foldl Session.step view.session ∧
      ∀ agentId, ∀ happened ∈ inner, happened.Reports agentId →
        .cells happened ∈ events := by
  induction events generalizing view with
  | nil =>
      cases run
      exact ⟨[], rfl, nofun⟩
  | cons event rest inductionHypothesis =>
      obtain ⟨next, stepped, ran⟩ := Option.bind_eq_some_iff.mp run
      obtain ⟨first, sameFirst, reportedFirst⟩ := session_step stepped
      obtain ⟨others, sameOthers, reportedOthers⟩ := inductionHypothesis ran
      refine ⟨first ++ others, ?_, ?_⟩
      · rw [List.foldl_append, ← sameFirst, sameOthers]
      · intro agentId happened isEvent reports
        rcases List.mem_append.mp isEvent with isFirst | isOther
        · rw [reportedFirst agentId happened isFirst reports]
          exact List.mem_cons_self
        · exact List.mem_cons_of_mem _
            (reportedOthers agentId happened isOther reports)

/-- The rows that are shown are those of the last rendering. -/
theorem shown_of_rendered {before : List (ViewEvent Version)}
    (reached : (agentsSystem Version dateParse uriClass).exec .initial before =
      some view) :
    view.shown = [] ∨
      ∃ earlier rendered later, before = earlier ++ .render :: later ∧
        .render ∉ later ∧
        (agentsSystem Version dateParse uriClass).exec .initial earlier =
          some rendered ∧
        view.shown = rows dateParse uriClass rendered.snapshot := by
  induction before using List.reverseRecOn generalizing view with
  | nil =>
      cases reached
      exact Or.inl rfl
  | append_singleton events event inductionHypothesis =>
      rw [System.exec_append] at reached
      obtain ⟨last, ran, stepped⟩ := Option.bind_eq_some_iff.mp reached
      obtain ⟨_, stepped, same⟩ := Option.bind_eq_some_iff.mp stepped
      cases same
      -- All but a rendering leave the rows, and keep the last rendering.
      have kept (same : view.shown = last.shown) (other : event ≠ .render) :
          view.shown = [] ∨
            ∃ earlier rendered later,
              events ++ [event] = earlier ++ .render :: later ∧
              .render ∉ later ∧
              (agentsSystem Version dateParse uriClass).exec .initial earlier =
                some rendered ∧
              view.shown = rows dateParse uriClass rendered.snapshot := by
        rw [same]
        rcases inductionHypothesis ran with none | rendered
        · exact Or.inl none
        · obtain ⟨earlier, rendered, later, rfl, noRender, atRender, rows⟩ :=
            rendered
          refine Or.inr ⟨earlier, rendered, later ++ [event],
            List.append_assoc _ _ _, ?_, atRender, rows⟩
          intro isRender
          rcases List.mem_append.mp isRender with isLater | isEvent
          · exact noRender isLater
          · exact other (List.mem_singleton.mp isEvent).symm
      cases event with
      | change snapshot =>
          cases stepped
          exact kept rfl nofun
      | render =>
          cases stepped
          exact Or.inr ⟨events, last, [], rfl, nofun, ran, rfl⟩
      | stop row =>
          have stopped : step dateParse uriClass last
              (.stop row : ViewEvent Version) = some view := stepped
          obtain ⟨node, item, _, _, rfl⟩ := step_stop_eq_some stopped
          refine kept ?_ nofun
          cases interruptArgs? dateParse last.snapshot node <;> rfl
      | cells event =>
          cases stepped
          exact kept rfl nofun

end

end AgentsView

section

variable {dateParse : DateParse} {uriClass : UriClass}
  {snapshot : Option RtsSnapshot} {node : AgentsNode} {item : TreeItem}

/-- The context value of a row with a stop button. -/
theorem contextValue_running_iff {agentId : JsString}
    (built : buildAgentItem? dateParse uriClass agentId snapshot = some item) :
    item.contextValue = some AGENT_RUNNING_CONTEXT_VALUE ↔
      hasInFlightRun dateParse agentId snapshot = true := by
  obtain ⟨tooltip, _, built⟩ := Option.bind_eq_some_iff.mp built
  obtain ⟨zoneId, _, built⟩ := Option.bind_eq_some_iff.mp built
  obtain ⟨resourceUri, _, built⟩ := Option.bind_eq_some_iff.mp built
  obtain ⟨firstCellId, _, same⟩ := Option.bind_eq_some_iff.mp built
  cases same
  have idle : AGENT_CONTEXT_VALUE ≠ AGENT_RUNNING_CONTEXT_VALUE := by decide
  cases hasInFlightRun dateParse agentId snapshot with
  | false => exact ⟨fun same => absurd (Option.some.inj same) idle, nofun⟩
  | true => exact ⟨fun _ => rfl, fun _ => rfl⟩

/-- A row of the root with a stop button is the row of an agent that has a run
in flight. -/
theorem agent_of_running
    (isRow : (node, item) ∈ AgentsView.rows dateParse uriClass snapshot)
    (running : item.contextValue = some AGENT_RUNNING_CONTEXT_VALUE) :
    ∃ agentId ∈ agentIdsOf snapshot, node = .agent agentId ∧
      hasInFlightRun dateParse agentId snapshot = true := by
  obtain ⟨other, isNode, made⟩ := List.mem_filterMap.mp isRow
  obtain ⟨_, isItem, same⟩ := Option.map_eq_some_iff.mp made
  cases same
  rw [getChildren?, Option.getD_some] at isNode
  split at isNode
  · cases List.mem_singleton.mp isNode
    cases isItem
    cases running
  · obtain ⟨agentId, isAgent, rfl⟩ := List.mem_map.mp isNode
    exact ⟨agentId,
      (List.mem_insertionSort fun first second => first ≤ second).mp isAgent,
      rfl, (contextValue_running_iff isItem).mp running⟩

end

/-- A click on the stop button of a row, in any run.  The row is that of an
agent that the zone had, with a run in flight, when the editor rendered the
rows last.  The click ships one interrupt, for the agent and the cell of the
run that started last of those in flight now, and hides the interrupt buttons
of the agent's cells until a snapshot reports on the agent; or it does nothing,
and then no such run has a cell. -/
theorem stop_interrupts {Version : Type*} {dateParse : DateParse}
    {uriClass : UriClass} {before after : List (ViewEvent Version)}
    {row : Nat} {view next final : AgentsView}
    (reached : (agentsSystem Version dateParse uriClass).exec .initial before =
      some view)
    (stopped : (agentsSystem Version dateParse uriClass).step view (.stop row) =
      some next)
    (run : (agentsSystem Version dateParse uriClass).exec next after =
      some final) :
    ∃ agentId item, view.shown[row]? = some (.agent agentId, item) ∧
      (∃ earlier rendered later, before = earlier ++ .render :: later ∧
        .render ∉ later ∧
        (agentsSystem Version dateParse uriClass).exec .initial earlier =
          some rendered ∧
        agentId ∈ agentIdsOf rendered.snapshot ∧
        hasInFlightRun dateParse agentId rendered.snapshot = true) ∧
      ((∃ frame cellId, StartedLast dateParse agentId view.snapshot frame ∧
          nonEmptyText? frame (js "cell_id") = some cellId ∧
          next.session.outbound =
            view.session.outbound ++ [buildInterruptEnvelope agentId cellId] ∧
          ∀ cell : InterruptCell, cell.applicable = true →
            cell.agentId = some agentId →
            (∀ event, .cells event ∈ after → ¬ event.Reports agentId) →
              final.session.button cell = none) ∨
        (next = view ∧ (agentId = [] ∨
          ∀ frame, StartedLast dateParse agentId view.snapshot frame →
            nonEmptyText? frame (js "cell_id") = none))) := by
  have clicked : AgentsView.step dateParse uriClass view
      (.stop row : ViewEvent Version) = some next := stopped
  obtain ⟨node, item, isRow, running, same⟩ :=
    AgentsView.step_stop_eq_some clicked
  obtain ⟨earlier, rendered, later, split, noRender, atRender, shown⟩ :
      ∃ earlier rendered later, before = earlier ++ .render :: later ∧
        .render ∉ later ∧
        (agentsSystem Version dateParse uriClass).exec .initial earlier =
          some rendered ∧
        view.shown =
          AgentsView.rows dateParse uriClass rendered.snapshot := by
    rcases AgentsView.shown_of_rendered reached with none | rendered
    · rw [none] at isRow
      cases isRow
    · exact rendered
  have isMember := List.mem_of_getElem? isRow
  rw [shown] at isMember
  obtain ⟨agentId, isAgent, rfl, inFlight⟩ := agent_of_running isMember running
  refine ⟨agentId, item, isRow,
    ⟨earlier, rendered, later, split, noRender, atRender, isAgent, inFlight⟩, ?_⟩
  cases sent : interruptArgs? dateParse view.snapshot (.agent agentId) with
  | none =>
      rw [sent, Option.elim_none] at same
      refine Or.inr ⟨same, ?_⟩
      by_cases named : agentId = []
      · exact Or.inl named
      · refine Or.inr fun frame started => ?_
        cases isCell : nonEmptyText? frame (js "cell_id") with
        | none => rfl
        | some cellId =>
            have found := interruptArgs?_eq_some_iff.mpr
              ⟨named, frame, cellId, started, isCell, rfl⟩
            rw [sent] at found
            cases found
  | some args =>
      obtain ⟨named, frame, cellId, started, isCell, rfl⟩ :=
        interruptArgs?_eq_some_iff.mp sent
      have names := clickedAgent?_of_args named cellId
      rw [sent, Option.elim_some] at same
      refine Or.inl ⟨frame, cellId, started, isCell, ?_, ?_⟩
      · rw [same]
        simp only [Session.step, names]
        rfl
      · intro cell applicable bound noReport
        obtain ⟨former, sameFormer, _⟩ := AgentsView.session_exec reached
        obtain ⟨inner, sameInner, reported⟩ := AgentsView.session_exec run
        have whole : final.session = Session.run
            (former ++ .click (some (.object
              [(js "agent_id", .string agentId),
                (js "cell_id", .string cellId)])) :: inner) := by
          rw [sameInner, same, sameFormer, Session.run, List.foldl_append,
            List.foldl_cons]
          rfl
        rw [whole]
        exact button_hidden applicable bound names
          fun event isInner reports =>
            noReport event (reported agentId event isInner reports) reports

/-- A zone whose agent has a run in flight in a cell. -/
def runningZone : RtsSnapshot :=
  [(js "zone", .object
    [(js "agents", .object [(js "alpha", .object [])]),
      (js "run_frames", .object
        [(js "run", .object
          [(js "executor_id", .string (js "alpha")),
            (js "cell_id", .string (js "cell"))])])])]

theorem runningZone_interrupted :
    ∃ view next agentId,
      (agentsSystem Unit (fun _ => none) splittingUris).exec .initial
        [.change (some runningZone), .render] = some view ∧
      (agentsSystem Unit (fun _ => none) splittingUris).step view (.stop 0) =
        some next ∧
      ∃ frame cellId,
        StartedLast (fun _ => none) agentId view.snapshot frame ∧
        nonEmptyText? frame (js "cell_id") = some cellId ∧
        next.session.outbound =
          view.session.outbound ++ [buildInterruptEnvelope agentId cellId] := by
  obtain ⟨agentId, item, isRow, _, either⟩ :=
    @stop_interrupts Unit (fun _ => none) splittingUris
      [.change (some runningZone), .render] [] 0 _ _ _ rfl rfl rfl
  refine ⟨_, _, agentId, rfl, rfl, ?_⟩
  rcases either with ⟨frame, cellId, started, isCell, shipped, _⟩ | ⟨same, _⟩
  · exact ⟨frame, cellId, started, isCell, shipped⟩
  · exact absurd (congrArg (fun view => view.session.outbound.length) same)
      (by decide)

end RtsNotebook.Sidebar.Agents
