import RtsNotebook.Library.Latest
import RtsNotebook.Sidebar.ActivityTree
import RtsNotebook.Sidebar.AgentDecorations

/-!
# The tree of agents

`AgentsTreeProvider`: a row for each agent of the active zone, below it what is
known of its session, and its branches where the event log has any.  A row
whose agent has a run in flight offers to stop it.
-/

namespace RtsNotebook.Sidebar.Agents

open RtsNotebook.Js RtsNotebook.Library RtsNotebook.Messaging
open RtsNotebook.Sidebar.Activity (memberOf? textOr?)

/-! ### The nodes -/

/-- The fields of a `branch-agent` node. -/
structure BranchAgent where
  sourceAgentId : JsString
  branchAgentId : JsString
  atTurnId : Option JsString
  caseLabel : Option ForkCase
  deriving DecidableEq

/-- `AgentsNode` -/
inductive AgentsNode where
  | empty (message : JsString)
  | agent (agentId : JsString)
  | agentDetail (agentId label value : JsString)
  | branchesRoot (parentAgentId : JsString)
  | branchAgent (branch : BranchAgent)
  deriving DecidableEq

def AGENTS_EMPTY : JsString :=
  js "No agents in the active notebook. Spawn one with @@spawn."

/-- `snapshot?.zone?.agents?.[agentId]` -/
def agentAt? (snapshot : Option RtsSnapshot) (agentId : JsString) :
    Option Json :=
  (memberOf? (snapshot.bind (List.lookup (js "zone")))
    (js "agents")).bind fun agents => agents.ownMembers.lookup agentId

/-- `Object.keys(agents).sort()` -/
def sortedIds (snapshot : Option RtsSnapshot) : List JsString :=
  (agentIdsOf snapshot).insertionSort fun first second => first ≤ second

/-- `push`: a row for a value that is there and not empty; `none` where it
cannot be converted. -/
def detailRow? (agentId : JsString) (session : Option Json)
    (label : JsString) : Option (List AgentsNode) :=
  match memberOf? session label with
  | none => some []
  | some .null => some []
  | some (.string text) =>
      some (if text = [] then [] else [.agentDetail agentId label text])
  | some value =>
      value.toText?.map fun text => [.agentDetail agentId label text]

/-- `buildSessionDetails` -/
def buildSessionDetails? (agentId : JsString) (session : Option Json) :
    Option (List AgentsNode) :=
  ([js "head_turn_id", js "last_seen_turn_id", js "claude_session_id",
    js "pid"].mapM (detailRow? agentId session)).map fun rows =>
      if rows.flatten = [] then
        [.agentDetail agentId (js "session") (js "(empty)")]
      else
        rows.flatten

section

variable (dateParse : DateParse)

/-- The node of a fork. -/
def branchNode (rec : ForkRecord) : AgentsNode :=
  .branchAgent
    { sourceAgentId := rec.sourceAgentId
      branchAgentId := rec.branchAgentId
      atTurnId := rec.atTurnId
      caseLabel := rec.caseLabel }

/-- `getChildren`; `none` where it throws. -/
def getChildren? (snapshot : Option RtsSnapshot) :
    Option AgentsNode → Option (List AgentsNode)
  | none =>
      some (if agentIdsOf snapshot = [] then [.empty AGENTS_EMPTY]
        else (sortedIds snapshot).map .agent)
  | some (.agent agentId) => do
      let lineage ← buildAgentLineage dateParse snapshot
      let rows ← buildSessionDetails? agentId
        (memberOf? (agentAt? snapshot agentId) (js "session"))
      pure (rows ++ if lineage.childrenOf agentId = [] then []
        else [.branchesRoot agentId])
  | some (.branchesRoot parentAgentId) =>
      (buildAgentLineage dateParse snapshot).map fun lineage =>
        (lineage.childrenOf parentAgentId).map branchNode
  | some _ => some []

/-! ### The items -/

/-- `getAgentStatusBadgeColor` -/
def getAgentStatusBadgeColor (runtimeStatus : Json) : JsString :=
  match runtimeStatus with
  | .string status =>
      if status = js "alive" then js "charts.green"
      else if status = js "idle" then js "charts.blue"
      else if status = js "exited" then js "charts.gray"
      else if status = js "terminated" then js "charts.red"
      else js "foreground"
  | _ => js "foreground"

def AGENT_CONTEXT_VALUE : JsString :=
  js "llmnb.sidebar.agent"

def AGENT_RUNNING_CONTEXT_VALUE : JsString :=
  js "llmnb.sidebar.agent.running"

/-- `isAgentRunningContextValue` -/
def isAgentRunningContextValue (hasInFlight : Bool) : JsString :=
  if hasInFlight then AGENT_RUNNING_CONTEXT_VALUE else AGENT_CONTEXT_VALUE

/-- `session?.runtime_status ?? 'idle'` -/
def statusOf (agent : Option Json) : Json :=
  match memberOf? (memberOf? agent (js "session")) (js "runtime_status") with
  | none => .string (js "idle")
  | some .null => .string (js "idle")
  | some status => status

/-- `firstTurnCellId`; a turn that is `null` throws. -/
def firstTurnCellId? : List Json → Option (Option JsString)
  | [] => some none
  | .null :: _ => none
  | turn :: rest =>
      match nonEmptyText? turn (js "cell_id") with
      | some cellId => some (some cellId)
      | none => firstTurnCellId? rest

/-- `agent?.turns`, where it is an array. -/
def turnsOf (agent : Option Json) : List Json :=
  match memberOf? agent (js "turns") with
  | some (.array turns) => turns
  | _ => []

/-- The loop of `lastActivity` over the frames: the start that is best so far,
as a text, and its time. -/
def considerStart (agentId : JsString) (best : Option JsString × Int)
    (frame : Json) : Option JsString × Int :=
  if isObject frame && isExecutedBy agentId frame then
    match frame.member? (js "started_at") with
    | some (.string startedAt) =>
        if best.2 < startedAtMs dateParse frame then
          (some startedAt, startedAtMs dateParse frame)
        else
          best
    | _ => best
  else
    best

/-- `lastActivity` -/
def lastActivity (agentId : JsString) (snapshot : Option RtsSnapshot)
    (latestTurn : Option Json) : JsString :=
  match latestTurn.bind fun turn => nonEmptyText? turn (js "created_at") with
  | some createdAt => createdAt
  | none =>
      let frames := (snapshot.map frameValues).getD []
      ((frames.foldl (considerStart dateParse agentId) (none, -1)).1.filter
        fun startedAt => startedAt ≠ []).getD [0x2014]

/-- `buildAgentTooltipMarkdown` -/
def buildAgentTooltipMarkdown? (agentId : JsString)
    (snapshot : Option RtsSnapshot) : Option JsString := do
  let agent := agentAt? snapshot agentId
  let turns := turnsOf agent
  let latestTurn := turns.getLast?
  let status ← (statusOf agent).toText?
  let provider :=
    match latestTurn.bind fun turn => nonEmptyText? turn (js "provider") with
    | some name => [js "- provider: " ++ name]
    | none => []
  let inFlight ←
    match getActiveRunFrame dateParse agentId snapshot with
    | some active =>
        (textOr? (js "unknown") (active.member? (js "run_id"))).map
          fun runId => [js "- $(loading~spin) run in flight: " ++ runId]
    | none => some []
  pure (join (js "\n")
    ([js "**" ++ agentId ++ js "**", [], js "- status: " ++ status] ++
      provider ++ [js "- turns: " ++ natDigits turns.length,
        js "- last activity: " ++
          lastActivity dateParse agentId snapshot latestTurn] ++ inFlight))

/-- `shortTurnId` -/
def shortTurnId (turnId : JsString) : JsString :=
  (if js "t_" <+: turnId then turnId.drop 2 else turnId).take 8

/-- `formatLineageDescription` -/
def formatLineageDescription (node : BranchAgent) : JsString :=
  0x2190 :: js " " ++ node.sourceAgentId ++
    (match node.atTurnId with
      | some turnId => js " @ " ++ shortTurnId turnId
      | none => []) ++
    match node.caseLabel with
    | some .A => js " [A]"
    | some .B => js " [B]"
    | none => []

/-- What the editor reads of a `vscode.TreeItem`. -/
structure TreeItem where
  label : JsString
  collapsed : Bool
  icon : Option JsString := none
  iconColor : Option JsString := none
  description : Option Json := none
  contextValue : Option JsString := none
  tooltip : Option JsString := none
  resourceUri : Option Uri := none
  revealCell : Option (JsString × JsString) := none

variable (uriClass : UriClass)

/-- `buildAgentItem` -/
def buildAgentItem? (agentId : JsString) (snapshot : Option RtsSnapshot) :
    Option TreeItem := do
  let agent := agentAt? snapshot agentId
  let inFlight := hasInFlightRun dateParse agentId snapshot
  let tooltip ← buildAgentTooltipMarkdown? dateParse agentId snapshot
  let zoneId ← zoneIdOf? snapshot
  let resourceUri ← agentUri? uriClass zoneId agentId
  let firstCellId ← firstTurnCellId? (turnsOf agent)
  pure
    { label := agentId
      collapsed := true
      icon := some (if inFlight then js "loading~spin" else js "person")
      iconColor := some (getAgentStatusBadgeColor (statusOf agent))
      description := some (statusOf agent)
      contextValue := some (isAgentRunningContextValue inFlight)
      tooltip := some tooltip
      resourceUri := some resourceUri
      revealCell := firstCellId.map fun cellId =>
        (js "Jump to first cell", cellId) }

/-- `buildBranchAgentItem` -/
def buildBranchAgentItem? (node : BranchAgent)
    (snapshot : Option RtsSnapshot) : Option TreeItem := do
  let agent := agentAt? snapshot node.branchAgentId
  let status ← (statusOf agent).toText?
  let firstCellId ← firstTurnCellId? (turnsOf agent)
  pure
    { label := node.branchAgentId
      collapsed := false
      icon := some (js "git-branch")
      iconColor := some (getAgentStatusBadgeColor (statusOf agent))
      description := some (.string (formatLineageDescription node ++
        js " · " ++ status))
      contextValue := some (js "llmnb.sidebar.branchAgent")
      tooltip := some (node.branchAgentId ++ js " (forked from " ++
        node.sourceAgentId ++
        (match node.atTurnId with
          | some turnId => js " at " ++ shortTurnId turnId
          | none => []) ++
        (match node.caseLabel with
          | some .A => js ", case A"
          | some .B => js ", case B"
          | none => []) ++ js ")")
      revealCell := firstCellId.map fun cellId =>
        (js "Jump to branch first cell", cellId) }

/-- `getTreeItem`; `none` where it throws. -/
def getTreeItem? (snapshot : Option RtsSnapshot) :
    AgentsNode → Option TreeItem
  | .empty message => some
      { label := message
        collapsed := false
        icon := some (js "info") }
  | .agent agentId => buildAgentItem? dateParse uriClass agentId snapshot
  | .agentDetail _ label value => some
      { label := label
        collapsed := false
        description := some (.string value)
        tooltip := some value
        contextValue := some (js "llmnb.sidebar.agentDetail") }
  | .branchesRoot parentAgentId =>
      (buildAgentLineage dateParse snapshot).map fun lineage =>
        let count := (lineage.childrenOf parentAgentId).length
        { label := js "Branches"
          collapsed := true
          description := some (.string (if count = 1 then js "1 branch"
            else natDigits count ++ js " branches"))
          icon := some (js "source-control")
          contextValue := some (js "llmnb.sidebar.branchesRoot") }
  | .branchAgent node => buildBranchAgentItem? node snapshot

end

/-! ### The whole tree -/

section

variable (dateParse : DateParse) (snapshot : Option RtsSnapshot)

/-- The rows below an agent, and the rows below these. -/
def expand? (agentId : JsString) :
    Option (List AgentsNode × List AgentsNode) := do
  let rows ← getChildren? dateParse snapshot (some (.agent agentId))
  let below ← rows.mapM fun row => getChildren? dateParse snapshot (some row)
  pure (rows, below.flatten)

/-- The rows below each agent, in the order of the root. -/
def wholeTree? : Option (List (List AgentsNode × List AgentsNode)) :=
  (sortedIds snapshot).mapM (expand? dateParse snapshot)

end

section

variable {dateParse : DateParse} {snapshot : Option RtsSnapshot}
  {lineage : AgentLineage} {agentId : JsString}

/-- The row is one of a session. -/
def AgentsNode.isDetail : AgentsNode → Bool
  | .agentDetail _ _ _ => true
  | _ => false

theorem isDetail_of_detailRow? {session : Option Json} {label : JsString}
    {rows : List AgentsNode}
    (isRow : detailRow? agentId session label = some rows) :
    ∀ row ∈ rows, row.isDetail = true := by
  rw [detailRow?] at isRow
  split at isRow
  · cases isRow
    exact nofun
  · cases isRow
    exact nofun
  · cases isRow
    split
    · exact nofun
    · exact fun row isMember => List.mem_singleton.mp isMember ▸ rfl
  · obtain ⟨text, _, same⟩ := Option.map_eq_some_iff.mp isRow
    cases same
    exact fun row isMember => List.mem_singleton.mp isMember ▸ rfl

/-- There is always a row of the session. -/
theorem buildSessionDetails?_rows {session : Option Json}
    {rows : List AgentsNode}
    (built : buildSessionDetails? agentId session = some rows) :
    rows ≠ [] ∧ ∀ row ∈ rows, row.isDetail = true := by
  obtain ⟨details, mapped, same⟩ := Option.map_eq_some_iff.mp built
  subst same
  split
  · exact ⟨List.cons_ne_nil _ _,
      fun row isMember => List.mem_singleton.mp isMember ▸ rfl⟩
  · next some =>
      refine ⟨some, fun row isMember => ?_⟩
      obtain ⟨part, isPart, isMember⟩ := List.mem_flatten.mp isMember
      obtain ⟨label, _, isRow⟩ :=
        exists_of_mem_right (forall₂_of_mapM mapped) isPart
      exact isDetail_of_detailRow? isRow row isMember

/-- What is below an agent: its session, and its forks where there are any. -/
theorem expand?_eq_some
    (built : buildAgentLineage dateParse snapshot = some lineage)
    {rows below : List AgentsNode}
    (expanded : expand? dateParse snapshot agentId = some (rows, below)) :
    (∃ details, details ≠ [] ∧ (∀ row ∈ details, row.isDetail = true) ∧
      rows = details ++ if lineage.childrenOf agentId = [] then []
        else [.branchesRoot agentId]) ∧
      below = (lineage.childrenOf agentId).map branchNode := by
  obtain ⟨children, areChildren, expanded⟩ :=
    Option.bind_eq_some_iff.mp expanded
  obtain ⟨belowRows, areBelow, same⟩ := Option.bind_eq_some_iff.mp expanded
  cases same
  have unfolded : (buildSessionDetails? agentId
      (memberOf? (agentAt? snapshot agentId) (js "session"))).bind
        (fun rows => some (rows ++ if lineage.childrenOf agentId = [] then []
          else [.branchesRoot agentId])) = some rows := by
    rw [getChildren?, built] at areChildren
    exact areChildren
  obtain ⟨details, isDetails, same⟩ := Option.bind_eq_some_iff.mp unfolded
  cases same
  obtain ⟨notEmpty, areDetails⟩ := buildSessionDetails?_rows isDetails
  refine ⟨⟨details, notEmpty, areDetails, rfl⟩, ?_⟩
  -- A row of the session has no children.
  have leaf : ∀ row ∈ details,
      getChildren? dateParse snapshot (some row) = some [] := by
    intro row isRow
    have isDetail := areDetails row isRow
    cases row with
    | agentDetail agentId label value => rfl
    | empty message => cases isDetail
    | agent agentId => cases isDetail
    | branchesRoot parentAgentId => cases isDetail
    | branchAgent branch => cases isDetail
  have leaves : details.mapM
      (fun row => getChildren? dateParse snapshot (some row)) =
        some (details.map fun _ => []) := by
    have mapped := @mapM_map_eq_some _ _
      (fun row => getChildren? dateParse snapshot (some row)) _ id
      (fun _ => []) details leaf
    rwa [List.map_id] at mapped
  have noRows : (details.map fun _ => ([] : List AgentsNode)).flatten = [] := by
    simp
  rw [List.mapM_append, leaves] at areBelow
  by_cases noFork : lineage.childrenOf agentId = []
  · rw [if_pos noFork] at areBelow
    cases areBelow
    rw [noFork, List.flatten_append, noRows]
    rfl
  · rw [if_neg noFork] at areBelow
    have root : getChildren? dateParse snapshot
        (some (.branchesRoot agentId)) =
          some ((lineage.childrenOf agentId).map branchNode) := by
      rw [getChildren?, built]
      rfl
    rw [List.mapM_cons, root] at areBelow
    cases areBelow
    rw [List.flatten_append, noRows]
    simp

/-- The forks of an agent in the log, in some order. -/
theorem childrenOf_perm
    (built : buildAgentLineage dateParse snapshot = some lineage) :
    (lineage.childrenOf agentId).Perm
      ((forkRecords dateParse snapshot).filter
        fun rec => rec.sourceAgentId = agentId) := by
  rw [childrenOf_eq built, sortBucket]
  exact List.perm_insertionSort _ _

theorem childrenOf_eq_nil_iff
    (built : buildAgentLineage dateParse snapshot = some lineage) :
    lineage.childrenOf agentId = [] ↔
      ¬ ∃ rec ∈ forkRecords dateParse snapshot,
        rec.sourceAgentId = agentId := by
  have same : lineage.childrenOf agentId = [] ↔
      ((forkRecords dateParse snapshot).filter
        fun rec => rec.sourceAgentId = agentId) = [] := by
    rw [← List.length_eq_zero_iff, ← List.length_eq_zero_iff,
      (childrenOf_perm built).length_eq]
  rw [same, List.filter_eq_nil_iff]
  simp

/-- What is below an agent of the whole tree. -/
theorem part_of_expand? {part : List AgentsNode × List AgentsNode}
    (expanded : expand? dateParse snapshot agentId = some part) :
    (∃ details, details ≠ [] ∧ (∀ row ∈ details, row.isDetail = true) ∧
      part.1 = details ++
        if ∃ rec ∈ forkRecords dateParse snapshot,
          rec.sourceAgentId = agentId then [.branchesRoot agentId] else []) ∧
    part.2.Perm
      (((forkRecords dateParse snapshot).filter
        fun rec => rec.sourceAgentId = agentId).map branchNode) := by
  obtain ⟨rows, below⟩ := part
  obtain ⟨lineage, built⟩ : ∃ lineage,
      buildAgentLineage dateParse snapshot = some lineage := by
    obtain ⟨children, areChildren, _⟩ := Option.bind_eq_some_iff.mp expanded
    obtain ⟨lineage, built, _⟩ := Option.bind_eq_some_iff.mp areChildren
    exact ⟨lineage, built⟩
  obtain ⟨⟨details, notEmpty, areDetails, rfl⟩, rfl⟩ :=
    expand?_eq_some built expanded
  refine ⟨⟨details, notEmpty, areDetails, ?_⟩,
    (childrenOf_perm built).map branchNode⟩
  by_cases forked : ∃ rec ∈ forkRecords dateParse snapshot,
      rec.sourceAgentId = agentId
  · rw [if_pos forked,
      if_neg (mt (childrenOf_eq_nil_iff built).mp (not_not.mpr forked))]
  · rw [if_neg forked, if_pos ((childrenOf_eq_nil_iff built).mpr forked)]

theorem below_perm {agentIds : List JsString}
    {tree : List (List AgentsNode × List AgentsNode)}
    (parts : List.Forall₂ (fun agentId part =>
      expand? dateParse snapshot agentId = some part) agentIds tree) :
    (tree.flatMap Prod.snd).Perm
      (agentIds.flatMap fun agentId =>
        ((forkRecords dateParse snapshot).filter
          fun rec => rec.sourceAgentId = agentId).map branchNode) := by
  induction parts with
  | nil => exact List.Perm.refl _
  | cons expanded _ inductionHypothesis =>
      rw [List.flatMap_cons, List.flatMap_cons]
      exact (part_of_expand? expanded).2.append inductionHypothesis

/-- The tree of a snapshot.  Every agent has its row once, in the order of the
ids; below it are rows of its session, and a row for its branches exactly where
the log forks it.  The rows below these are the forks of the agents that are
listed, each fork of the log once. -/
theorem tree_shows_forks (distinct : (agentIdsOf snapshot).Nodup)
    {tree : List (List AgentsNode × List AgentsNode)}
    (whole : wholeTree? dateParse snapshot = some tree) :
    getChildren? dateParse snapshot none =
        some (if agentIdsOf snapshot = [] then [.empty AGENTS_EMPTY]
          else (sortedIds snapshot).map .agent) ∧
    (sortedIds snapshot).Perm (agentIdsOf snapshot) ∧
    (sortedIds snapshot).Pairwise (· ≤ ·) ∧
    List.Forall₂ (fun agentId (part : List AgentsNode × List AgentsNode) =>
        ∃ details, details ≠ [] ∧
          (∀ row ∈ details, row.isDetail = true) ∧
          part.1 = details ++
            if ∃ rec ∈ forkRecords dateParse snapshot,
              rec.sourceAgentId = agentId then [.branchesRoot agentId] else [])
      (sortedIds snapshot) tree ∧
    (tree.flatMap Prod.snd).Perm
      (((forkRecords dateParse snapshot).filter fun rec =>
        rec.sourceAgentId ∈ agentIdsOf snapshot).map branchNode) := by
  have sorted : (sortedIds snapshot).Perm (agentIdsOf snapshot) :=
    List.perm_insertionSort _ _
  have parts := forall₂_of_mapM whole
  refine ⟨rfl, sorted, List.pairwise_insertionSort _ _,
    parts.imp fun agentId part expanded => (part_of_expand? expanded).1, ?_⟩
  have byAgent := below_perm parts
  have regrouped : ((sortedIds snapshot).flatMap fun agentId =>
      ((forkRecords dateParse snapshot).filter
        fun rec => rec.sourceAgentId = agentId).map branchNode) =
      ((sortedIds snapshot).flatMap fun agentId =>
        (forkRecords dateParse snapshot).filter
          fun rec => rec.sourceAgentId = agentId).map branchNode :=
    List.map_flatMap.symm
  have grouped := (flatMap_filter_perm ForkRecord.sourceAgentId
    (forkRecords dateParse snapshot)
    (sorted.nodup_iff.mpr distinct)).map branchNode
  rw [regrouped] at byAgent
  refine byAgent.trans (grouped.trans (List.Perm.of_eq ?_))
  exact congrArg (List.map branchNode) (List.filter_congr fun rec _ =>
    decide_eq_decide.mpr sorted.mem_iff)

end

/-- A zone with two agents, one forked from the other. -/
def branchedZone : Option RtsSnapshot :=
  some [(js "zone", .object
    [(js "agents", .object
      [(js "beta", .object []), (js "alpha", .object [])]),
      (js "event_log", .array
        [forkEnvelope (js "alpha") (js "beta") none])])]

theorem branchedZone_shown :
    ∃ tree, wholeTree? (fun _ => none) branchedZone = some tree ∧
      (tree.flatMap Prod.snd).Perm
        (((forkRecords (fun _ => none) branchedZone).filter fun rec =>
          rec.sourceAgentId ∈ agentIdsOf branchedZone).map branchNode) :=
  ⟨_, rfl, (@tree_shows_forks (fun _ => none) branchedZone (by decide) _
    rfl).2.2.2.2⟩

end RtsNotebook.Sidebar.Agents
