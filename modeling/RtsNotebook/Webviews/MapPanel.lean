import RtsNotebook.Messaging.Router
import Mathlib.Data.List.Induction

/-!
# The panel of the map view

The host side of the map view: `MapViewPanel`, of which one is open at a time,
and the `llmnb.openMapView` command, which connects it with the router.  The
command shows the open panel again if there is one, but registers a map
observer and an edit listener each time, and these stay until the extension
is deactivated.

A webview that is hidden loses what it has been sent and receives nothing; the
panel sends its last layout and its last graph again when it is shown.
-/

namespace RtsNotebook.Webviews.MapPanel

open RtsNotebook.Js RtsNotebook.Messaging

/-- `MapViewPanel`, with the messages that its webview holds: the last layout
and the last graph that it has received since it was loaded. -/
structure Panel where
  disposed : Bool
  visible : Bool
  lastLayout : Option Json
  lastGraph : Option Json
  shownLayout : Option Json
  shownGraph : Option Json
  editListeners : Nat

/-- The panels in the order in which they were created, the panel that
`MapViewPanel.current` names, the panels that the map observers of the router
forward to, and the payloads of the edits that have been enqueued. -/
structure Host where
  panels : List Panel
  current : Option Nat
  mapObservers : List Nat
  outbox : List Json

/-- What reaches the host: the command, an envelope of the kernel, and from a
panel a message of its webview, a change of its visibility and its
closing. -/
inductive Event where
  | openMapView
  | route (envelope : Json)
  | webviewMessage (panel : Nat) (raw : Json)
  | viewState (panel : Nat) (visible : Bool)
  | closeTab (panel : Nat)

namespace Panel

def fresh : Panel where
  disposed := false
  visible := true
  lastLayout := none
  lastGraph := none
  shownLayout := none
  shownGraph := none
  editListeners := 0

/-- `postToWebview` of a layout. -/
def postLayout (panel : Panel) (payload : Json) : Panel :=
  if panel.visible then
    { panel with shownLayout := some payload }
  else
    panel

/-- `postToWebview` of a graph. -/
def postGraph (panel : Panel) (payload : Json) : Panel :=
  if panel.visible then
    { panel with shownGraph := some payload }
  else
    panel

/-- A property of the value can be read: it is neither `undefined` nor
`null`. -/
def readable : Option Json → Bool
  | none => false
  | some .null => false
  | some _ => true

/-- `payload.tree.id` does not throw. -/
def hasTree (payload : Json) : Bool :=
  readable (payload.member? (js "tree"))

/-- `payload.nodes.length` and `payload.edges.length` do not throw. -/
def hasGraph (payload : Json) : Bool :=
  readable (payload.member? (js "nodes")) &&
    readable (payload.member? (js "edges"))

/-- The panel, and whether the call throws: the log line before the post reads
the payload. -/
def applyLayoutUpdate (payload : Json) (panel : Panel) : Panel × Bool :=
  if panel.disposed then
    (panel, false)
  else
    let panel := { panel with lastLayout := some payload }
    if hasTree payload then
      (panel.postLayout payload, false)
    else
      (panel, true)

def applyAgentGraphResponse (payload : Json) (panel : Panel) : Panel × Bool :=
  if panel.disposed then
    (panel, false)
  else
    let panel := { panel with lastGraph := some payload }
    if hasGraph payload then
      (panel.postGraph payload, false)
    else
      (panel, true)

/-- The webview is loaded anew where it was hidden, and the listener sends the
last state to it. -/
def onDidChangeViewState (panel : Panel) (visible : Bool) : Panel :=
  if visible then
    let panel :=
      if panel.visible then
        panel
      else
        { panel with visible := true, shownLayout := none, shownGraph := none }
    { panel with
      shownLayout := panel.lastLayout.or panel.shownLayout
      shownGraph := panel.lastGraph.or panel.shownGraph }
  else
    { panel with visible := false, shownLayout := none, shownGraph := none }

end Panel

/-- `handleWebviewMessage`: the payload that the emitter fires. -/
def handleWebviewMessage (raw : Json) : Option Json :=
  if isObject raw && ((raw.member? (js "type")).bind Json.asString?).isSome then
    match raw.member? (js "type"), raw.member? (js "payload") with
    | some (.string type), some payload =>
        if type = js "layout.edit" ∧ isObject payload then
          if ((payload.member? (js "operation")).bind Json.asString?).isSome ∧
              ((payload.member? (js "parameters")).map isObject).getD false then
            some payload
          else
            none
        else
          none
    | _, _ => none
  else
    none

/-- The loop of the router over its map observers; an exception ends it. -/
def dispatch (apply : Panel → Panel × Bool) :
    List Nat → List Panel → List Panel
  | [], panels => panels
  | id :: rest, panels =>
      match panels[id]? with
      | none => dispatch apply rest panels
      | some panel =>
          let applied := apply panel
          let panels := panels.set id applied.1
          if applied.2 then panels else dispatch apply rest panels

namespace Host

def initial : Host where
  panels := []
  current := none
  mapObservers := []
  outbox := []

/-- Change a panel that is not disposed. -/
def update (host : Host) (id : Nat) (change : Panel → Panel) : Host :=
  match host.panels[id]? with
  | none => host
  | some panel =>
      if panel.disposed then
        host
      else
        { host with panels := host.panels.set id (change panel) }

/-- `MapViewPanel.current`, unless it is disposed. -/
def liveCurrent (host : Host) : Option Nat :=
  host.current.filter fun id =>
    ((host.panels[id]?).map fun panel => !panel.disposed).getD false

/-- `MapViewPanel.show` -/
def «show» (host : Host) : Host × Nat :=
  match host.liveCurrent with
  | some id => (host, id)
  | none =>
      ({ host with
          panels := host.panels ++ [Panel.fresh]
          current := some host.panels.length },
        host.panels.length)

/-- The `llmnb.openMapView` command. -/
def openMapView (host : Host) : Host :=
  let shown := host.show
  { shown.1.update shown.2 fun panel =>
      { panel with editListeners := panel.editListeners + 1 } with
    mapObservers := shown.1.mapObservers ++ [shown.2] }

/-- The two cases of `route` that the map observers listen to. -/
def route (host : Host) (envelope : Json) : Host :=
  match (Entry.route envelope).delivery? with
  | some ⟨.onLayoutUpdate, payload⟩ =>
      { host with
        panels := dispatch (Panel.applyLayoutUpdate payload) host.mapObservers
          host.panels }
  | some ⟨.onAgentGraphResponse, payload⟩ =>
      { host with
        panels := dispatch (Panel.applyAgentGraphResponse payload)
          host.mapObservers host.panels }
  | _ => host

/-- A message of a webview: every edit listener of the panel enqueues an
envelope. -/
def webviewMessage (host : Host) (id : Nat) (raw : Json) : Host :=
  match host.panels[id]?, handleWebviewMessage raw with
  | some panel, some payload =>
      if panel.disposed then
        host
      else
        { host with
          outbox := host.outbox ++
            List.replicate panel.editListeners payload }
  | _, _ => host

/-- `dispose` of a panel. -/
def dispose (host : Host) (id : Nat) : Host :=
  match host.panels[id]? with
  | none => host
  | some panel =>
      if panel.disposed then
        host
      else
        { host with
          panels := host.panels.set id
            { panel with
              disposed := true
              editListeners := 0 }
          current := if host.current = some id then none else host.current }

def step (host : Host) : Event → Host
  | .openMapView => host.openMapView
  | .route envelope => host.route envelope
  | .webviewMessage panel raw => host.webviewMessage panel raw
  | .viewState panel visible =>
      host.update panel fun panel => panel.onDidChangeViewState visible
  | .closeTab panel => host.dispose panel

/-- The host after a run of events. -/
def run (events : List Event) : Host :=
  events.foldl step initial

end Host

/-! ### Loops over the observers -/

section

variable {apply : Panel → Panel × Bool}

theorem set_eq_self {panels : List Panel} {id : Nat} {panel : Panel}
    (found : panels[id]? = some panel) : panels.set id panel = panels := by
  obtain ⟨bound, rfl⟩ := List.getElem?_eq_some_iff.mp found
  exact List.set_getElem_self bound

/-- The call does nothing to all panels but one. -/
def Spares (apply : Panel → Panel × Bool) (id : Nat) (panels : List Panel) :
    Prop :=
  ∀ other old, panels[other]? = some old → other ≠ id → apply old = (old, false)

/-- A loop that finds nothing left to do leaves the panels alone. -/
theorem dispatch_eq_self {id : Nat} {panel : Panel} {panels : List Panel}
    (repeats : (apply panel).1 = panel) (found : panels[id]? = some panel)
    (spares : Spares apply id panels) (observers : List Nat) :
    dispatch apply observers panels = panels := by
  induction observers with
  | nil =>
      rfl
  | cons first rest inductionHypothesis =>
      rw [dispatch]
      by_cases same : first = id
      · rw [same, found]
        simp only [repeats, set_eq_self found, inductionHypothesis, ite_self]
      · cases isPanel : panels[first]? with
        | none =>
            exact inductionHypothesis
        | some old =>
            simp only [spares first old isPanel same, set_eq_self isPanel,
              inductionHypothesis, ite_self]

/-- Where the call does nothing to the other panels, and nothing more when it
is repeated, the loop calls it on one panel. -/
theorem dispatch_eq_set {id : Nat} {panel : Panel} {observers : List Nat}
    {panels : List Panel}
    (repeats : (apply (apply panel).1).1 = (apply panel).1)
    (found : panels[id]? = some panel) (spares : Spares apply id panels)
    (observes : id ∈ observers) :
    dispatch apply observers panels = panels.set id (apply panel).1 := by
  induction observers with
  | nil =>
      cases observes
  | cons first rest inductionHypothesis =>
      rw [dispatch]
      by_cases same : first = id
      · have bound : id < panels.length :=
          (List.getElem?_eq_some_iff.mp found).1
        have stays :
            dispatch apply rest (panels.set id (apply panel).1) =
              panels.set id (apply panel).1 := by
          apply dispatch_eq_self repeats (List.getElem?_set_self bound)
          intro other old isOther different
          rw [List.getElem?_set_ne (Ne.symm different)] at isOther
          exact spares other old isOther different
        rw [same, found]
        simp only [stays, ite_self]
      · have later : id ∈ rest := by
          rcases List.mem_cons.mp observes with isFirst | later
          · exact absurd isFirst.symm same
          · exact later
        cases isPanel : panels[first]? with
        | none =>
            exact inductionHypothesis later
        | some old =>
            simp only [spares first old isPanel same, set_eq_self isPanel,
              Bool.false_eq_true, if_false]
            exact inductionHypothesis later

end

/-! ### What a panel remembers -/

namespace Event

def isOpen : Event → Bool
  | openMapView => true
  | _ => false

/-- The payload of a layout that the router hands to the map observers. -/
def layoutOf? : Event → Option Json
  | route envelope =>
      match (Entry.route envelope).delivery? with
      | some ⟨.onLayoutUpdate, payload⟩ => some payload
      | _ => none
  | _ => none

/-- The payload of a graph that the router hands to the map observers. -/
def graphOf? : Event → Option Json
  | route envelope =>
      match (Entry.route envelope).delivery? with
      | some ⟨.onAgentGraphResponse, payload⟩ => some payload
      | _ => none
  | _ => none

end Event

/-- What a panel holds after some events: one listener for each command, and the
last layout and the last graph, which its webview shows as long as no payload
has broken the loop of the router. -/
structure Panel.Holds (panel : Panel) (after : List Event) : Prop where
  live : panel.disposed = false
  listeners : panel.editListeners = after.countP Event.isOpen
  layout : panel.lastLayout = (after.filterMap Event.layoutOf?).getLast?
  graph : panel.lastGraph = (after.filterMap Event.graphOf?).getLast?
  showsLayout : panel.visible = true →
    (∀ payload ∈ after.filterMap Event.layoutOf?, Panel.hasTree payload) →
      panel.shownLayout = panel.lastLayout
  showsGraph : panel.visible = true →
    (∀ payload ∈ after.filterMap Event.graphOf?, Panel.hasGraph payload) →
      panel.shownGraph = panel.lastGraph

/-- The one live panel of the host, which has been opened by the first of some
events. -/
structure Live (host : Host) (id : Nat) (panel : Panel) (after : List Event) :
    Prop where
  current : host.current = some id
  found : host.panels[id]? = some panel
  others : ∀ other, ∀ old : Panel, host.panels[other]? = some old →
    other ≠ id → old.disposed = true
  observes : id ∈ host.mapObservers
  holds : panel.Holds after

/-- No panel of the host is live. -/
structure Closed (host : Host) : Prop where
  current : host.current = none
  disposed : ∀ other : Nat, ∀ old : Panel, host.panels[other]? = some old →
    old.disposed = true

theorem Panel.applyLayoutUpdate_of_live {panel : Panel}
    (live : panel.disposed = false) (payload : Json) :
    panel.applyLayoutUpdate payload =
      ({ panel with
          lastLayout := some payload
          shownLayout :=
            if hasTree payload = true ∧ panel.visible = true then
              some payload
            else
              panel.shownLayout },
        !hasTree payload) := by
  rw [applyLayoutUpdate, live, if_neg Bool.false_ne_true]
  cases hasTree payload with
  | false =>
      rfl
  | true =>
      obtain ⟨disposed, visible⟩ := panel
      cases live
      cases visible <;> rfl

theorem Panel.applyAgentGraphResponse_of_live {panel : Panel}
    (live : panel.disposed = false) (payload : Json) :
    panel.applyAgentGraphResponse payload =
      ({ panel with
          lastGraph := some payload
          shownGraph :=
            if hasGraph payload = true ∧ panel.visible = true then
              some payload
            else
              panel.shownGraph },
        !hasGraph payload) := by
  rw [applyAgentGraphResponse, live, if_neg Bool.false_ne_true]
  cases hasGraph payload with
  | false =>
      rfl
  | true =>
      obtain ⟨disposed, visible⟩ := panel
      cases live
      cases visible <;> rfl

theorem Panel.applyLayoutUpdate_of_disposed (payload : Json) (panel : Panel)
    (disposed : panel.disposed = true) :
    panel.applyLayoutUpdate payload = (panel, false) :=
  if_pos disposed

theorem Panel.applyAgentGraphResponse_of_disposed (payload : Json)
    (panel : Panel) (disposed : panel.disposed = true) :
    panel.applyAgentGraphResponse payload = (panel, false) :=
  if_pos disposed

theorem Panel.applyLayoutUpdate_twice {panel : Panel}
    (live : panel.disposed = false) (payload : Json) :
    ((panel.applyLayoutUpdate payload).1.applyLayoutUpdate payload).1 =
      (panel.applyLayoutUpdate payload).1 := by
  rw [applyLayoutUpdate_of_live live, applyLayoutUpdate_of_live (by exact live)]
  simp only [Panel.mk.injEq, true_and, and_true]
  split <;> rfl

theorem Panel.applyAgentGraphResponse_twice {panel : Panel}
    (live : panel.disposed = false) (payload : Json) :
    ((panel.applyAgentGraphResponse payload).1.applyAgentGraphResponse
        payload).1 =
      (panel.applyAgentGraphResponse payload).1 := by
  rw [applyAgentGraphResponse_of_live live,
    applyAgentGraphResponse_of_live (by exact live)]
  simp only [Panel.mk.injEq, true_and, and_true]
  split <;> rfl

namespace Panel.Holds

open Panel

variable {panel : Panel} {after : List Event} {event : Event}

/-- An event that brings nothing to the panel. -/
theorem skip (holds : panel.Holds after) (notOpen : event.isOpen = false)
    (noLayout : event.layoutOf? = none) (noGraph : event.graphOf? = none) :
    panel.Holds (after ++ [event]) := by
  obtain ⟨live, listeners, layout, graph, showsLayout, showsGraph⟩ := holds
  have layouts : (after ++ [event]).filterMap Event.layoutOf? =
      after.filterMap Event.layoutOf? := by
    simp [noLayout]
  have graphs : (after ++ [event]).filterMap Event.graphOf? =
      after.filterMap Event.graphOf? := by
    simp [noGraph]
  refine ⟨live, ?_, ?_, ?_, ?_, ?_⟩
  · simp [listeners, notOpen]
  · rw [layouts, layout]
  · rw [graphs, graph]
  · rw [layouts]
    exact showsLayout
  · rw [graphs]
    exact showsGraph

theorem afterOpen (holds : panel.Holds after) :
    Panel.Holds { panel with editListeners := panel.editListeners + 1 }
      (after ++ [.openMapView]) := by
  obtain ⟨live, listeners, layout, graph, showsLayout, showsGraph⟩ := holds
  refine ⟨live, ?_, ?_, ?_, ?_, ?_⟩
  · simp [listeners, Event.isOpen]
  · simpa [Event.layoutOf?] using layout
  · simpa [Event.graphOf?] using graph
  · simpa [Event.layoutOf?] using showsLayout
  · simpa [Event.graphOf?] using showsGraph

theorem changeViewState (holds : panel.Holds after) (id : Nat)
    (visible : Bool) :
    (panel.onDidChangeViewState visible).Holds
      (after ++ [.viewState id visible]) := by
  obtain ⟨live, listeners, layout, graph, showsLayout, showsGraph⟩ := holds
  refine skip ?_ rfl rfl rfl
  rw [onDidChangeViewState]
  cases visible with
  | false =>
      refine ⟨live, listeners, layout, graph, ?_, ?_⟩
      · intro visible
        cases visible
      · intro visible
        cases visible
  | true =>
      cases seen : panel.visible with
      | true =>
          refine ⟨live, listeners, layout, graph, ?_, ?_⟩
          · intro _ allHaveTrees
            change panel.lastLayout.or panel.shownLayout = panel.lastLayout
            rw [showsLayout seen allHaveTrees]
            exact Option.or_self
          · intro _ allHaveGraphs
            change panel.lastGraph.or panel.shownGraph = panel.lastGraph
            rw [showsGraph seen allHaveGraphs]
            exact Option.or_self
      | false =>
          refine ⟨live, listeners, layout, graph, ?_, ?_⟩
          · exact fun _ _ => Option.or_none
          · exact fun _ _ => Option.or_none

theorem afterLayout (holds : panel.Holds after) {payload : Json}
    (brings : event.layoutOf? = some payload)
    (notOpen : event.isOpen = false) (noGraph : event.graphOf? = none) :
    (applyLayoutUpdate payload panel).1.Holds (after ++ [event]) := by
  obtain ⟨live, listeners, layout, graph, showsLayout, showsGraph⟩ := holds
  have layouts : (after ++ [event]).filterMap Event.layoutOf? =
      after.filterMap Event.layoutOf? ++ [payload] := by
    simp [brings]
  have graphs : (after ++ [event]).filterMap Event.graphOf? =
      after.filterMap Event.graphOf? := by
    simp [noGraph]
  rw [applyLayoutUpdate_of_live live]
  refine ⟨live, ?_, ?_, ?_, ?_, ?_⟩
  · simp [listeners, notOpen]
  · rw [layouts, List.getLast?_concat]
  · rw [graphs, graph]
  · intro visible allHaveTrees
    rw [layouts] at allHaveTrees
    have own := allHaveTrees payload (by simp)
    exact if_pos ⟨own, visible⟩
  · rw [graphs]
    exact showsGraph

theorem afterGraph (holds : panel.Holds after) {payload : Json}
    (brings : event.graphOf? = some payload)
    (notOpen : event.isOpen = false) (noLayout : event.layoutOf? = none) :
    (applyAgentGraphResponse payload panel).1.Holds (after ++ [event]) := by
  obtain ⟨live, listeners, layout, graph, showsLayout, showsGraph⟩ := holds
  have layouts : (after ++ [event]).filterMap Event.layoutOf? =
      after.filterMap Event.layoutOf? := by
    simp [noLayout]
  have graphs : (after ++ [event]).filterMap Event.graphOf? =
      after.filterMap Event.graphOf? ++ [payload] := by
    simp [brings]
  rw [applyAgentGraphResponse_of_live live]
  refine ⟨live, ?_, ?_, ?_, ?_, ?_⟩
  · simp [listeners, notOpen]
  · rw [layouts, layout]
  · rw [graphs, List.getLast?_concat]
  · rw [layouts]
    exact showsLayout
  · intro visible allHaveGraphs
    rw [graphs] at allHaveGraphs
    have own := allHaveGraphs payload (by simp)
    exact if_pos ⟨own, visible⟩

end Panel.Holds

/-! ### One event -/

namespace Live

variable {host : Host} {id : Nat} {panel : Panel} {after : List Event}

/-- The live panel changes, and the other panels stay as they are. -/
theorem replace (alive : Live host id panel after) {changed : Panel}
    {later : List Event} (holds : changed.Holds later) {observers : List Nat}
    (observes : id ∈ observers) (outbox : List Json) :
    Live ⟨host.panels.set id changed, host.current, observers, outbox⟩ id
      changed later where
  current := alive.current
  found :=
    List.getElem?_set_self (List.getElem?_eq_some_iff.mp alive.found).1
  others := by
    intro other old isOther different
    rw [List.getElem?_set_ne (Ne.symm different)] at isOther
    exact alive.others other old isOther different
  observes := observes
  holds := holds

theorem update_eq (alive : Live host id panel after)
    (change : Panel → Panel) :
    host.update id change =
      { host with panels := host.panels.set id (change panel) } := by
  rw [Host.update, alive.found]
  exact if_neg (by rw [alive.holds.live]; exact Bool.false_ne_true)

theorem liveCurrent_eq (alive : Live host id panel after) :
    host.liveCurrent = some id := by
  rw [Host.liveCurrent, alive.current, Option.filter_some]
  exact if_pos (by rw [alive.found]; simp [alive.holds.live])

theorem openMapView (alive : Live host id panel after) :
    Live host.openMapView id
      { panel with editListeners := panel.editListeners + 1 }
      (after ++ [.openMapView]) := by
  rw [Host.openMapView, Host.show, alive.liveCurrent_eq]
  simp only [alive.update_eq]
  exact alive.replace alive.holds.afterOpen
    (List.mem_append_left _ alive.observes) host.outbox

/-- A loop over the map observers reaches the live panel alone. -/
theorem dispatch_eq (alive : Live host id panel after)
    {apply : Panel → Panel × Bool}
    (repeats : (apply (apply panel).1).1 = (apply panel).1)
    (spares : ∀ old : Panel, old.disposed = true → apply old = (old, false)) :
    dispatch apply host.mapObservers host.panels =
      host.panels.set id (apply panel).1 :=
  dispatch_eq_set repeats alive.found
    (fun other old isOther different =>
      spares old (alive.others other old isOther different))
    alive.observes

theorem route (alive : Live host id panel after) (envelope : Json) :
    ∃ changed, Live (host.route envelope) id changed
      (after ++ [.route envelope]) := by
  have live := alive.holds.live
  cases delivered : (Entry.route envelope).delivery? with
  | none =>
      rw [Host.route, delivered]
      exact ⟨panel, { alive with
        holds := alive.holds.skip rfl (by simp [Event.layoutOf?, delivered])
          (by simp [Event.graphOf?, delivered]) }⟩
  | some delivery =>
      obtain ⟨hook, payload⟩ := delivery
      rw [Host.route, delivered]
      cases hook with
      | onLayoutUpdate =>
          have holds := alive.holds.afterLayout
            (by simp [Event.layoutOf?, delivered] :
              (Event.route envelope).layoutOf? = some payload) rfl
            (by simp [Event.graphOf?, delivered])
          simp only [alive.dispatch_eq (Panel.applyLayoutUpdate_twice live payload)
            (Panel.applyLayoutUpdate_of_disposed payload)]
          exact ⟨_, alive.replace holds alive.observes host.outbox⟩
      | onAgentGraphResponse =>
          have holds := alive.holds.afterGraph
            (by simp [Event.graphOf?, delivered] :
              (Event.route envelope).graphOf? = some payload) rfl
            (by simp [Event.layoutOf?, delivered])
          simp only [alive.dispatch_eq (Panel.applyAgentGraphResponse_twice live payload)
            (Panel.applyAgentGraphResponse_of_disposed payload)]
          exact ⟨_, alive.replace holds alive.observes host.outbox⟩
      | _ =>
          exact ⟨panel, { alive with
            holds := alive.holds.skip rfl (by simp [Event.layoutOf?, delivered])
              (by simp [Event.graphOf?, delivered]) }⟩

/-- Nothing but its own closing ends a panel. -/
theorem step (alive : Live host id panel after) {event : Event}
    (stays : event ≠ .closeTab id) :
    ∃ changed, Live (host.step event) id changed (after ++ [event]) := by
  cases event with
  | openMapView =>
      exact ⟨_, alive.openMapView⟩
  | route envelope =>
      exact alive.route envelope
  | webviewMessage other raw =>
      have holds : panel.Holds (after ++ [.webviewMessage other raw]) :=
        alive.holds.skip rfl rfl rfl
      rw [Host.step, Host.webviewMessage]
      split
      · split
        · exact ⟨panel, { alive with holds := holds }⟩
        · exact ⟨panel, { alive with holds := holds }⟩
      · exact ⟨panel, { alive with holds := holds }⟩
  | viewState other visible =>
      rw [Host.step]
      by_cases same : other = id
      · rw [same, alive.update_eq]
        exact ⟨_, alive.replace (alive.holds.changeViewState id visible)
          alive.observes host.outbox⟩
      · have holds : panel.Holds (after ++ [.viewState other visible]) :=
          alive.holds.skip rfl rfl rfl
        rw [Host.update]
        split
        · exact ⟨panel, { alive with holds := holds }⟩
        · next old isOther =>
            rw [if_pos (alive.others other old isOther same)]
            exact ⟨panel, { alive with holds := holds }⟩
  | closeTab other =>
      have different : other ≠ id := by
        rintro rfl
        exact stays rfl
      have holds : panel.Holds (after ++ [.closeTab other]) :=
        alive.holds.skip rfl rfl rfl
      rw [Host.step, Host.dispose]
      split
      · exact ⟨panel, { alive with holds := holds }⟩
      · next old isOther =>
          rw [if_pos (alive.others other old isOther different)]
          exact ⟨panel, { alive with holds := holds }⟩

/-- The closing of the panel leaves none. -/
theorem closeTab (alive : Live host id panel after) :
    Closed (host.step (.closeTab id)) := by
  have notDisposed : ¬ panel.disposed = true := by
    rw [alive.holds.live]
    exact Bool.false_ne_true
  rw [Host.step, Host.dispose, alive.found]
  simp only
  rw [if_neg notDisposed]
  constructor
  · exact if_pos alive.current
  · intro other old isOther
    by_cases same : id = other
    · cases same
      have bound := (List.getElem?_eq_some_iff.mp alive.found).1
      rw [List.getElem?_set_self bound] at isOther
      cases isOther
      rfl
    · rw [List.getElem?_set_ne same] at isOther
      exact alive.others other old isOther (Ne.symm same)

end Live

namespace Closed

variable {host : Host}

theorem update_eq (closed : Closed host) (id : Nat) (change : Panel → Panel) :
    host.update id change = host := by
  rw [Host.update]
  split
  · rfl
  · next panel found => exact if_pos (closed.disposed id panel found)

/-- The loop of the router does nothing to disposed panels. -/
theorem dispatch_eq (closed : Closed host) {apply : Panel → Panel × Bool}
    (spares : ∀ old : Panel, old.disposed = true → apply old = (old, false))
    (observers : List Nat) :
    dispatch apply observers host.panels = host.panels := by
  induction observers with
  | nil =>
      rfl
  | cons first rest inductionHypothesis =>
      rw [dispatch]
      cases isPanel : host.panels[first]? with
      | none =>
          exact inductionHypothesis
      | some old =>
          have disposed := closed.disposed first old isPanel
          simp only [spares old disposed, set_eq_self isPanel,
            inductionHypothesis, ite_self]

/-- The command opens a panel where there is none. -/
theorem openMapView (closed : Closed host) :
    ∃ panel, Live host.openMapView host.panels.length panel [.openMapView] := by
  have nothing : host.liveCurrent = none := by
    rw [Host.liveCurrent, closed.current, Option.filter_none]
  have found : (host.panels ++ [Panel.fresh])[host.panels.length]? =
      some Panel.fresh := by
    rw [List.getElem?_append_right (Nat.le_refl _), Nat.sub_self]
    rfl
  have opened : host.openMapView =
      { panels := (host.panels ++ [Panel.fresh]).set host.panels.length
          { Panel.fresh with editListeners := 1 }
        current := some host.panels.length
        mapObservers := host.mapObservers ++ [host.panels.length]
        outbox := host.outbox } := by
    rw [Host.openMapView, Host.show, nothing]
    simp only [Host.update, found]
    rfl
  rw [opened]
  refine ⟨{ Panel.fresh with editListeners := 1 }, rfl, ?_, ?_, ?_, ?_⟩
  · exact List.getElem?_set_self (by simp)
  · intro other old isOther different
    rw [List.getElem?_set_ne (Ne.symm different)] at isOther
    have bound : other < host.panels.length := by
      have within := (List.getElem?_eq_some_iff.mp isOther).1
      rw [List.length_append, List.length_singleton] at within
      omega
    rw [List.getElem?_append_left bound] at isOther
    exact closed.disposed other old isOther
  · simp
  · exact ⟨rfl, rfl, rfl, rfl, fun _ _ => rfl, fun _ _ => rfl⟩

/-- Nothing but the command opens a panel. -/
theorem step (closed : Closed host) {event : Event}
    (notOpen : event ≠ .openMapView) : Closed (host.step event) := by
  cases event with
  | openMapView =>
      exact absurd rfl notOpen
  | route envelope =>
      rw [Host.step, Host.route]
      split
      · rw [closed.dispatch_eq (Panel.applyLayoutUpdate_of_disposed _)]
        exact closed
      · rw [closed.dispatch_eq (Panel.applyAgentGraphResponse_of_disposed _)]
        exact closed
      · exact closed
  | webviewMessage id raw =>
      rw [Host.step, Host.webviewMessage]
      split
      · split
        · exact closed
        · exact ⟨closed.current, closed.disposed⟩
      · exact closed
  | viewState id visible =>
      rw [Host.step, closed.update_eq]
      exact closed
  | closeTab id =>
      rw [Host.step, Host.dispose]
      split
      · exact closed
      · next panel found =>
          rw [if_pos (closed.disposed id panel found)]
          exact closed

end Closed

/-! ### Runs -/

theorem run_append (events : List Event) (event : Event) :
    Host.run (events ++ [event]) = (Host.run events).step event := by
  rw [Host.run, List.foldl_append]
  rfl

/-- Every edit listener of the live panel enqueues an edit. -/
theorem Live.outbox_webviewMessage {host : Host} {id : Nat} {panel : Panel}
    {after : List Event} (alive : Live host id panel after) {raw payload : Json}
    (valid : handleWebviewMessage raw = some payload) :
    (host.step (.webviewMessage id raw)).outbox =
      host.outbox ++
        List.replicate (after.countP Event.isOpen) payload := by
  rw [Host.step, Host.webviewMessage, alive.found, valid,
    ← alive.holds.listeners]
  simp only
  rw [if_neg]
  rw [alive.holds.live]
  exact Bool.false_ne_true

/-- At any time at most one panel is live.  It holds the last layout and the
last graph since it was opened, it shows them where it is visible and no
payload has been unreadable, and it enqueues an edit as many times as the
command has been run since. -/
theorem panel_since_opened (events : List Event) :
    Closed (Host.run events) ∨
      ∃ earlier after id panel,
        events = earlier ++ .openMapView :: after ∧
        Closed (Host.run earlier) ∧ .closeTab id ∉ after ∧
        Live (Host.run events) id panel (.openMapView :: after) ∧
        ∀ raw payload, handleWebviewMessage raw = some payload →
          ((Host.run events).step (.webviewMessage id raw)).outbox =
            (Host.run events).outbox ++
              List.replicate (1 + after.countP Event.isOpen) payload := by
  have history : Closed (Host.run events) ∨
      ∃ earlier after id panel,
        events = earlier ++ .openMapView :: after ∧
        Closed (Host.run earlier) ∧ .closeTab id ∉ after ∧
        Live (Host.run events) id panel (.openMapView :: after) := by
    induction events using List.reverseRecOn with
    | nil =>
        exact Or.inl ⟨rfl, fun other old isOther => nomatch isOther⟩
    | append_singleton events event inductionHypothesis =>
        rw [run_append]
        rcases inductionHypothesis with
          closed | ⟨earlier, after, id, panel, rfl, closed, stays, alive⟩
        · by_cases opens : event = .openMapView
          · obtain ⟨panel, alive⟩ := closed.openMapView
            rw [opens]
            exact Or.inr ⟨events, [], _, panel, rfl, closed, by simp, alive⟩
          · exact Or.inl (closed.step opens)
        · by_cases closes : event = .closeTab id
          · rw [closes]
            exact Or.inl alive.closeTab
          · obtain ⟨changed, alive⟩ := alive.step closes
            refine Or.inr ⟨earlier, after ++ [event], id, changed, by simp,
              closed, ?_, alive⟩
            intro member
            rcases List.mem_append.mp member with before | now
            · exact stays before
            · exact closes (List.mem_singleton.mp now).symm
  rcases history with
    closed | ⟨earlier, after, id, panel, split, closed, stays, alive⟩
  · exact Or.inl closed
  · refine Or.inr
      ⟨earlier, after, id, panel, split, closed, stays, alive, ?_⟩
    intro raw payload valid
    rw [alive.outbox_webviewMessage valid, List.countP_cons_of_pos rfl,
      Nat.add_comm]

end RtsNotebook.Webviews.MapPanel
