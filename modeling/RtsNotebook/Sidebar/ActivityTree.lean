import Mathlib.Algebra.Order.Ring.Unbundled.Rat
import Mathlib.Data.List.Induction
import Mathlib.Data.List.ReduceOption
import Mathlib.Data.Option.Basic
import RtsNotebook.Library.MappedLists
import RtsNotebook.Sidebar.AgentLineage

/-!
# The activity tree

The rows of the activity view are made from the event log and the run frames of
the active zone, the most recent first and as many as the view has been asked
for.  The rows that it holds back are the oldest, and entries of one time stay
in the order of their sources.
-/

namespace RtsNotebook.Sidebar.Activity

open RtsNotebook.Js RtsNotebook.Library RtsNotebook.Messaging

/-! ### The entries -/

/-- `SynthesizedEntryType` -/
inductive SynthesizedEntryType where
  | agentSpawn
  | agentBranch
  | agentRevert
  | agentStop
  | refMove
  | runStart
  | runEnd
  deriving DecidableEq

inductive EntrySource where
  | eventLogLegacy
  | eventLogEnvelope
  | runFrames
  deriving DecidableEq

/-- `SynthesizedActivityEntry` -/
structure SynthesizedActivityEntry where
  timestampMs : ℚ
  entryType : SynthesizedEntryType
  label : JsString
  cellId : Option Json
  source : EntrySource

/-- `isoToMs`; no date stands for `0`. -/
def isoToMs (dateParse : DateParse) (value : Option Json) : ℚ :=
  match value with
  | some (.string text) =>
      if text = [] then 0 else ((dateParse text).getD 0 : Int)
  | _ => 0

/-- `envelopeTimestampMs` -/
def envelopeTimestampMs (dateParse : DateParse) (env : Json) : ℚ :=
  match env.member? (js "created_at") with
  | some (.string createdAt) => isoToMs dateParse (some (.string createdAt))
  | _ =>
      match env.member? (js "ts") with
      | some (.number (.finite decimal)) => decimalValue decimal
      | some (.string ts) => isoToMs dateParse (some (.string ts))
      | _ => 0

/-- `shortTurn` -/
def shortTurn (turnId : Option Json) : JsString :=
  match turnId with
  | some (.string text) =>
      if text = [] then
        js "?"
      else if js "t_" <+: text then
        (text.drop 2).take 8
      else
        text.take 8
  | _ => js "?"

/-- `${value ?? fallback}`; `none` stands for the `TypeError`. -/
def textOr? (fallback : JsString) : Option Json → Option JsString
  | none => some fallback
  | some .null => some fallback
  | some value => value.toText?

/-- `value?.key` -/
def memberOf? (value : Option Json) (key : JsString) : Option Json :=
  value.bind fun value => value.member? key

/-- The first branch of `classifyEventLogEntry`. -/
def classifyLegacy? (dateParse : DateParse) (entry : Json) :
    Option SynthesizedActivityEntry := do
  let ts := isoToMs dateParse (entry.member? (js "recorded_at"))
  let agent ← textOr? (js "?") (entry.member? (js "agent_id"))
  if hasText entry (js "reason") (js "operator_revert") then
    pure
      { timestampMs := ts
        entryType := .agentRevert
        label := js "revert " ++ agent ++ js " → " ++
          shortTurn (entry.member? (js "to_turn_id"))
        cellId := none
        source := .eventLogLegacy }
  else if hasText entry (js "reason") (js "operator_branch") then
    pure
      { timestampMs := ts
        entryType := .agentBranch
        label := js "branch " ++ agent ++ js " @ " ++
          shortTurn (entry.member? (js "from_turn_id"))
        cellId := none
        source := .eventLogLegacy }
  else do
    let reason ← textOr? (js "unknown") (entry.member? (js "reason"))
    pure
      { timestampMs := ts
        entryType := .refMove
        label := js "ref-move " ++ agent ++ js ": " ++ reason
        cellId := none
        source := .eventLogLegacy }

/-- The second one. -/
def classifyEnvelope? (dateParse : DateParse) (env : Json) :
    Option (Option SynthesizedActivityEntry) :=
  let payload := env.member? (js "payload")
  let params := memberOf? payload (js "parameters")
  let entry (entryType : SynthesizedEntryType) (label : JsString) :
      SynthesizedActivityEntry :=
    { timestampMs := envelopeTimestampMs dateParse env
      entryType := entryType
      label := label
      cellId := memberOf? payload (js "originating_cell_id")
      source := .eventLogEnvelope }
  if !hasText env (js "message_type") (js "operator.action") then
    some none
  else if (memberOf? payload (js "action_type")).bind Json.asString? =
      some (js "agent_spawn") then do
    let agent ← textOr? (js "?") (memberOf? params (js "agent_id"))
    pure (some (entry .agentSpawn (js "spawn " ++ agent)))
  else if (memberOf? payload (js "action_type")).bind Json.asString? =
      some (js "zone_mutate") then
    if (memberOf? params (js "intent_kind")).bind Json.asString? =
        some (js "fork_agent") then
      some (some (entry .agentBranch (js "branch (fork_agent)")))
    else if (memberOf? params (js "intent_kind")).bind Json.asString? =
        some (js "move_agent_head") then
      if (memberOf? params (js "cause")).bind Json.asString? =
          some (js "revert") then
        some (some (entry .agentRevert (js "revert (move_agent_head)")))
      else
        some (some (entry .refMove (js "ref-move (move_agent_head)")))
    else
      some none
  else
    some none

/-- `classifyEventLogEntry` -/
def classifyEventLogEntry (dateParse : DateParse) (entry : Json) :
    Option (Option SynthesizedActivityEntry) :=
  if !isObject entry then
    some none
  else if hasText entry (js "kind") (js "agent_ref_move") then
    (classifyLegacy? dateParse entry).map some
  else
    classifyEnvelope? dateParse entry

/-- The row of a time of a run frame, where the time is known. -/
def frameRow? (ts : ℚ) (entryType : SynthesizedEntryType)
    (label : Option JsString) (rf : Json) :
    Option (List SynthesizedActivityEntry) :=
  if 0 < ts then do
    let label ← label
    pure
      [{ timestampMs := ts
         entryType := entryType
         label := label
         cellId := rf.member? (js "cell_id")
         source := .runFrames }]
  else
    some []

/-- `classifyRunFrame` -/
def classifyRunFrame (dateParse : DateParse) (rf : Json) :
    Option (List SynthesizedActivityEntry) :=
  if !isObject rf then
    some []
  else do
    let started ← frameRow? (isoToMs dateParse (rf.member? (js "started_at")))
      .runStart (do
        let run ← textOr? (js "?") (rf.member? (js "run_id"))
        let executor ← textOr? (js "?") (rf.member? (js "executor_id"))
        pure (js "run start " ++ run ++ js " (" ++ executor ++ js ")")) rf
    let ended ← frameRow? (isoToMs dateParse (rf.member? (js "ended_at")))
      .runEnd (do
        let run ← textOr? (js "?") (rf.member? (js "run_id"))
        let status ← textOr? (js "?") (rf.member? (js "status"))
        pure (js "run end " ++ run ++ js " → " ++ status)) rf
    pure (started ++ ended)

/-- `snapshot.zone?.event_log ?? []`, whose `length` the loop reads. -/
def loggedEntries (snapshot : RtsSnapshot) : List Json :=
  match memberOf? (snapshot.lookup (js "zone")) (js "event_log") with
  | some (.array log) => log
  | _ => []

/-- `Object.values(snapshot.zone?.run_frames ?? {})` -/
def frameValues (snapshot : RtsSnapshot) : List Json :=
  match runFrames snapshot with
  | some frames => frames.ownMembers.map Prod.snd
  | none => []

/-- The entries of a snapshot, as the two loops push them. -/
def gather? (dateParse : DateParse) (snapshot : RtsSnapshot) :
    Option (List SynthesizedActivityEntry) := do
  let logged ← (loggedEntries snapshot).mapM
    (classifyEventLogEntry dateParse)
  let framed ← (frameValues snapshot).mapM (classifyRunFrame dateParse)
  pure (logged.reduceOption ++ framed.flatten)

/-- The order of two entries.  Rounding keeps the sign of a difference. -/
def NotOlder (a b : SynthesizedActivityEntry) : Prop :=
  b.timestampMs - a.timestampMs ≤ 0

instance : DecidableRel NotOlder :=
  fun _ _ => inferInstanceAs (Decidable (_ ≤ _))

/-- `synthesizeActivity` -/
def synthesizeActivity? (dateParse : DateParse) (snapshot : RtsSnapshot) :
    Option (List SynthesizedActivityEntry) :=
  (gather? dateParse snapshot).map fun entries =>
    entries.insertionSort NotOlder

/-! ### The tree -/

/-- `ActivityNode` -/
inductive ActivityNode where
  | empty
  | entry (entry : SynthesizedActivityEntry)
  | loadMore

def DEFAULT_MAX_VISIBLE_ENTRIES : Nat := 500

def LOAD_MORE_STEP : Nat := 200

/-- `getChildren` of the root; `none` stands for the `TypeError`. -/
def getChildren? (dateParse : DateParse) (maxVisible : Nat)
    (active : Option RtsSnapshot) : Option (List ActivityNode) :=
  match active with
  | none => some [.empty]
  | some snapshot => do
      let entries ← synthesizeActivity? dateParse snapshot
      if entries.length = 0 then
        pure [.empty]
      else
        pure ((entries.take maxVisible).map .entry ++
          if maxVisible < entries.length then [.loadMore] else [])

/-- The provider, and the tree that the editor shows of it.  The editor asks
for the rows of a tree that was marked as changed when it comes to it. -/
structure ActivityTree where
  /-- The metadata of `source.getActiveZone()`. -/
  active : Option RtsSnapshot
  maxVisible : Nat
  /-- The source has yet to tell of a change. -/
  untold : Bool
  /-- The editor has yet to ask for the rows. -/
  stale : Bool
  rows : Option (List ActivityNode)

/-- The active zone or its metadata change, the source tells of changes, the
operator asks for older entries, or the editor asks for the rows. -/
inductive ActivityEvent where
  | edit (active : Option RtsSnapshot)
  | onChange
  | loadMore
  | serve

namespace ActivityTree

def initial : ActivityTree where
  active := none
  maxVisible := DEFAULT_MAX_VISIBLE_ENTRIES
  untold := false
  stale := true
  rows := none

def step (dateParse : DateParse) (tree : ActivityTree) :
    ActivityEvent → ActivityTree
  | .edit active => { tree with active := active, untold := true }
  | .onChange => { tree with untold := false, stale := true }
  | .loadMore =>
      { tree with
        maxVisible := tree.maxVisible + LOAD_MORE_STEP
        stale := true }
  | .serve =>
      { tree with
        stale := false
        rows := getChildren? dateParse tree.maxVisible tree.active }

def run (dateParse : DateParse) (events : List ActivityEvent) :
    ActivityTree :=
  events.foldl (step dateParse) initial

end ActivityTree

/-! ### The order of the entries -/

section

variable {entries : List SynthesizedActivityEntry}

theorem notOlder_iff {a b : SynthesizedActivityEntry} :
    NotOlder a b ↔ b.timestampMs ≤ a.timestampMs :=
  sub_nonpos

instance : Std.Total NotOlder :=
  ⟨fun a b => by
    simp only [notOlder_iff]
    exact le_total b.timestampMs a.timestampMs⟩

instance : IsTrans SynthesizedActivityEntry NotOlder :=
  ⟨fun a b c first second => by
    rw [notOlder_iff] at *
    exact le_trans second first⟩

/-- What is shown of some entries, and what is held back. -/
structure Lists (limit : Nat)
    (entries shown hidden : List SynthesizedActivityEntry) : Prop where
  same : (shown ++ hidden).Perm entries
  length : shown.length = min limit entries.length
  newest : (shown ++ hidden).Pairwise fun a b => b.timestampMs ≤ a.timestampMs
  stable : ∀ time,
    (shown ++ hidden).filter (fun entry => entry.timestampMs = time) =
      entries.filter fun entry => entry.timestampMs = time

theorem lists_sorted (limit : Nat)
    (entries : List SynthesizedActivityEntry) :
    Lists limit entries ((entries.insertionSort NotOlder).take limit)
      ((entries.insertionSort NotOlder).drop limit) := by
  have sorted := List.perm_insertionSort NotOlder entries
  constructor
  · rw [List.take_append_drop]
    exact sorted
  · rw [List.length_take, sorted.length_eq]
  · rw [List.take_append_drop]
    exact (List.pairwise_insertionSort NotOlder entries).imp notOlder_iff.mp
  · intro time
    rw [List.take_append_drop]
    apply filter_insertionSort
    intro first second isFirst isSecond
    rw [notOlder_iff, of_decide_eq_true isFirst, of_decide_eq_true isSecond]

/-- The rows of the entries that are shown. -/
def rowsOf (shown hidden : List SynthesizedActivityEntry) :
    List ActivityNode :=
  if shown ++ hidden = [] then
    [.empty]
  else
    shown.map .entry ++ if hidden = [] then [] else [.loadMore]

theorem getChildren?_eq (dateParse : DateParse) (limit : Nat)
    (active : Option RtsSnapshot) :
    getChildren? dateParse limit active =
      (active.elim (some []) (gather? dateParse)).map fun entries =>
        rowsOf ((entries.insertionSort NotOlder).take limit)
          ((entries.insertionSort NotOlder).drop limit) := by
  cases active with
  | none =>
      rw [getChildren?, Option.elim_none, Option.map_some]
      simp [rowsOf]
  | some snapshot =>
      rw [getChildren?, synthesizeActivity?, Option.elim_some]
      cases gather? dateParse snapshot with
      | none => rfl
      | some entries =>
          simp only [Option.map_some, Option.bind_eq_bind, Option.bind_some,
            rowsOf, List.take_append_drop, List.length_eq_zero_iff]
          by_cases isEmpty : entries.insertionSort NotOlder = []
          · rw [if_pos isEmpty, if_pos isEmpty]
            rfl
          · rw [if_neg isEmpty, if_neg isEmpty]
            simp only [List.drop_eq_nil_iff, ← not_lt, ite_not]
            rfl

/-! ### The runs -/

variable {dateParse : DateParse} {tree : ActivityTree}

/-- A tree that is up to date shows what the provider lists. -/
def ActivityTree.Current (dateParse : DateParse) (tree : ActivityTree) :
    Prop :=
  tree.untold = true ∨ tree.stale = true ∨
    tree.rows = getChildren? dateParse tree.maxVisible tree.active

theorem current_step (dateParse : DateParse) (tree : ActivityTree)
    (event : ActivityEvent) : (tree.step dateParse event).Current dateParse :=
  match event with
  | .edit _ => Or.inl rfl
  | .onChange => Or.inr (Or.inl rfl)
  | .loadMore => Or.inr (Or.inl rfl)
  | .serve => Or.inr (Or.inr rfl)

theorem current_run (dateParse : DateParse) (events : List ActivityEvent) :
    (ActivityTree.run dateParse events).Current dateParse := by
  induction events using List.reverseRecOn with
  | nil => exact Or.inr (Or.inl rfl)
  | append_singleton events event _ =>
      rw [ActivityTree.run, List.foldl_append]
      exact current_step dateParse _ event

def ActivityEvent.isLoadMore : ActivityEvent → Bool
  | .loadMore => true
  | _ => false

theorem maxVisible_foldl (dateParse : DateParse) (tree : ActivityTree)
    (events : List ActivityEvent) :
    (events.foldl (ActivityTree.step dateParse) tree).maxVisible =
      tree.maxVisible +
        LOAD_MORE_STEP * events.countP ActivityEvent.isLoadMore := by
  induction events generalizing tree with
  | nil => rfl
  | cons event events inductionHypothesis =>
      rw [List.foldl_cons, inductionHypothesis, List.countP_cons]
      cases event with
      | loadMore =>
          have stepped : (tree.step dateParse .loadMore).maxVisible =
              tree.maxVisible + LOAD_MORE_STEP := rfl
          rw [stepped, if_pos (by rfl), Nat.mul_add]
          omega
      | edit active => rfl
      | onChange => rfl
      | serve => rfl

/-! ### The forks -/

theorem envelopeTimestampMs_eq (noDate : dateParse [] = none) (env : Json) :
    envelopeTimestampMs dateParse env = readTimestampMs dateParse env := by
  have sameText (text : JsString) :
      isoToMs dateParse (some (.string text)) =
        ((dateParse text).getD 0 : Int) := by
    rw [isoToMs]
    split
    · next isEmpty =>
        rw [isEmpty, noDate]
        rfl
    · rfl
  rw [envelopeTimestampMs]
  simp only [sameText]
  rfl

/-- The record of a fork is classified as a branch. -/
theorem classify_of_fork {entry : Json} {record : ForkRecord}
    (isFork : extractForkRecord dateParse entry = some record)
    (noDate : dateParse [] = none) :
    ∃ found, classifyEventLogEntry dateParse entry = some (some found) ∧
      found.entryType = .agentBranch ∧
      found.timestampMs = record.timestampMs := by
  rw [extractForkRecord] at isFork
  simp only [Option.bind_eq_bind, Option.bind_eq_some_iff, Option.pure_def,
    Option.guard_eq_some', Option.filter_eq_some_iff, Option.some.injEq]
    at isFork
  obtain ⟨-, isEntry, -, notLegacy, -, isAction, payload, ⟨isPayload, -⟩, -,
    isMutate, params, ⟨isParams, -⟩, -, isIntent, source, -, branch, -,
    isRecord⟩ := isFork
  rw [hasText, decide_eq_true_iff] at isMutate isIntent
  have notSpawn : js "agent_spawn" ≠ js "zone_mutate" := by decide
  subst isRecord
  have sameTime := envelopeTimestampMs_eq noDate entry
  refine ⟨
    { timestampMs := envelopeTimestampMs dateParse entry
      entryType := .agentBranch
      label := js "branch (fork_agent)"
      cellId := payload.member? (js "originating_cell_id")
      source := .eventLogEnvelope }, ?_, rfl, sameTime⟩
  · rw [classifyEventLogEntry, isEntry, Bool.not_true,
      if_neg Bool.false_ne_true, if_neg (by simpa using notLegacy),
      classifyEnvelope?, isAction, Bool.not_true, if_neg Bool.false_ne_true]
    simp only [memberOf?, isPayload, isParams, Option.bind_some, isMutate,
      isIntent, Option.some.injEq, Ne.symm notSpawn, if_false, if_true]

/-- Every fork of the lineage is among the entries, as a branch of its time. -/
theorem forks_gathered {snapshot : RtsSnapshot}
    (noDate : dateParse [] = none)
    (gathered : gather? dateParse snapshot = some entries)
    {record : ForkRecord}
    (isFork : record ∈ forkRecords dateParse (some snapshot)) :
    ∃ found ∈ entries, found.entryType = .agentBranch ∧
      found.timestampMs = record.timestampMs := by
  obtain ⟨entry, isLogged, extracted⟩ := List.mem_filterMap.mp isFork
  obtain ⟨found, classified, isBranch, sameTime⟩ :=
    classify_of_fork extracted noDate
  have logged : entry ∈ loggedEntries snapshot := by
    rw [eventLog?, Option.bind_some] at isLogged
    rw [loggedEntries, memberOf?]
    split at isLogged <;> simp_all
  rw [gather?] at gathered
  simp only [Option.bind_eq_bind, Option.bind_eq_some_iff] at gathered
  obtain ⟨classes, mapped, framed, -, isEntries⟩ := gathered
  cases isEntries
  obtain ⟨result, isResult, isFound⟩ :=
    exists_of_mem_left (forall₂_of_mapM mapped) logged
  cases classified.symm.trans isFound
  refine ⟨found, List.mem_append_left _ ?_, isBranch, sameTime⟩
  exact List.reduceOption_mem_iff.mpr isResult

/-! ### What the view shows -/

/-- A tree that is up to date shows as many of the newest entries as the
operator has asked for, offers the others, and has a row for every fork of the
lineage. -/
theorem shows_activity {events : List ActivityEvent}
    (noDate : dateParse [] = none)
    (told : (ActivityTree.run dateParse events).untold = false)
    (served : (ActivityTree.run dateParse events).stale = false) :
    let tree := ActivityTree.run dateParse events
    match tree.active.elim (some []) (gather? dateParse) with
    | none => tree.rows = none
    | some entries =>
        (∃ shown hidden,
          Lists (DEFAULT_MAX_VISIBLE_ENTRIES +
              LOAD_MORE_STEP * events.countP ActivityEvent.isLoadMore)
            entries shown hidden ∧
          tree.rows = some (rowsOf shown hidden)) ∧
        ∀ record ∈ forkRecords dateParse tree.active,
          ∃ entry ∈ entries, entry.entryType = .agentBranch ∧
            entry.timestampMs = record.timestampMs := by
  intro tree
  have current : tree.rows =
      getChildren? dateParse tree.maxVisible tree.active := by
    rcases current_run dateParse events with isUntold | isStale | current
    · rw [told] at isUntold
      cases isUntold
    · rw [served] at isStale
      cases isStale
    · exact current
  have limit := maxVisible_foldl dateParse .initial events
  rw [getChildren?_eq] at current
  cases gathered : tree.active.elim (some []) (gather? dateParse) with
  | none => rw [current, gathered, Option.map_none]
  | some entries =>
      refine ⟨⟨_, _, lists_sorted _ entries, ?_⟩, fun record isFork => ?_⟩
      · rw [current, gathered, Option.map_some]
        exact congrArg (fun limit => some (rowsOf
          ((entries.insertionSort NotOlder).take limit)
          ((entries.insertionSort NotOlder).drop limit))) limit
      · cases isActive : tree.active with
        | none =>
            rw [isActive] at isFork
            cases isFork
        | some snapshot =>
            rw [isActive] at isFork gathered
            exact forks_gathered noDate gathered isFork

end

/-- A zone with one fork in its log. -/
def forkedZone : RtsSnapshot :=
  [(js "zone", .object
    [(js "event_log", .array
      [.object
        [(js "message_type", .string (js "operator.action")),
          (js "payload", .object
            [(js "action_type", .string (js "zone_mutate")),
              (js "parameters", .object
                [(js "intent_kind", .string (js "fork_agent")),
                  (js "source_agent_id", .string (js "alpha")),
                  (js "new_agent_id", .string (js "beta"))])])]])])]

/-- The zone is opened, and the rows are asked for. -/
def openForkedZone : List ActivityEvent :=
  [.edit (some forkedZone), .onChange, .serve]

theorem forkedZone_shown :
    let tree := ActivityTree.run (fun _ => none) openForkedZone
    match tree.active.elim (some []) (gather? fun _ => none) with
    | none => tree.rows = none
    | some entries =>
        (∃ shown hidden, Lists (500 + 200 * 0) entries shown hidden ∧
          tree.rows = some (rowsOf shown hidden)) ∧
        ∀ record ∈ forkRecords (fun _ => none) tree.active,
          ∃ entry ∈ entries, entry.entryType = .agentBranch ∧
            entry.timestampMs = record.timestampMs :=
  @shows_activity (fun _ => none) openForkedZone rfl rfl rfl

example : (forkRecords (fun _ => none) (some forkedZone)).length = 1 := by
  decide

end RtsNotebook.Sidebar.Activity
