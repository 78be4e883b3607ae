import RtsNotebook.Library.OrderedMap
import RtsNotebook.Library.Runs
import RtsNotebook.Sidebar.AgentCondition
import RtsNotebook.Sidebar.AgentUri

/-!
# The decorations of the agent rows

`AgentDecorationProvider`: it remembers the condition that it has last announced
for every URI, and on a change of the sidebar source announces the URIs
whose condition is another one.  The editor asks for the decoration of a URI
when it is announced, and at other times.

`uri.toString()`, the key of the memo, is the URI itself here.  The editor has
the decoration that it was given last.
-/

namespace RtsNotebook.Sidebar

open RtsNotebook.Js RtsNotebook.Library

deriving instance DecidableEq for Uri

section

variable (uriClass : UriClass) (dateParse : DateParse)

/-- `snapshot?.zone?.zone_id ?? 'zone'`, as `encodeURIComponent` converts
it. -/
def zoneIdOf? (snapshot : Option RtsSnapshot) : Option JsString :=
  match (snapshot.bind (List.lookup (js "zone"))).bind fun zone =>
      zone.member? (js "zone_id") with
  | none => some (js "zone")
  | some .null => some (js "zone")
  | some zoneId => zoneId.toText?

/-- `Object.keys(snapshot?.zone?.agents ?? {})` -/
def agentIdsOf (snapshot : Option RtsSnapshot) : List JsString :=
  match (snapshot.bind (List.lookup (js "zone"))).bind fun zone =>
      zone.member? (js "agents") with
  | none => []
  | some agents => agents.ownMembers.map Prod.fst

/-- `vscode.Uri.parse(agentResourceUriString(zoneId, agentId))` -/
def agentUri? (zoneId agentId : JsString) : Option Uri :=
  (agentResourceUriString zoneId agentId).bind uriClass.parse

/-- `provideFileDecoration`: no decoration, or the one of the condition; `none`
where it throws. -/
def provideFileDecoration? (snapshot : Option RtsSnapshot) (uri : Uri) :
    Option (Option DecorationSpec) :=
  match decoratedIds uri with
  | none => some none
  | some (_, agentId) =>
      (deriveAgentCondition? dateParse agentId snapshot).map
        (Option.map conditionToDecoration)

/-- `lastCondition` -/
abbrev Memo := OrderedMap Uri (Option AgentCondition)

/-- The variables of the loop of `fireChanged`, and whether it has thrown. -/
structure Changes where
  lastCondition : Memo
  changed : List Uri
  threw : Bool

/-- The loop of `fireChanged` over the agents of the snapshot. -/
def fireLoop (snapshot : Option RtsSnapshot) (zoneId : JsString) :
    List JsString → Memo → List Uri → Changes
  | [], lastCondition, changed => ⟨lastCondition, changed, false⟩
  | agentId :: rest, lastCondition, changed =>
      match agentUri? uriClass zoneId agentId,
          deriveAgentCondition? dateParse agentId snapshot with
      | some uri, some condition =>
          if lastCondition.get uri ≠ some condition then
            fireLoop snapshot zoneId rest (lastCondition.set uri condition)
              (changed ++ [uri])
          else
            fireLoop snapshot zoneId rest lastCondition changed
      | _, _ => ⟨lastCondition, changed, true⟩

/-- `fireChanged`: the memo that it leaves, and the URIs that it announces. -/
def fireChanged (snapshot : Option RtsSnapshot) (lastCondition : Memo) :
    Memo × List Uri :=
  match agentIdsOf snapshot, zoneIdOf? snapshot with
  | [], _ => (lastCondition, [])
  | _, none => (lastCondition, [])
  | agentIds, some zoneId =>
      let changes :=
        fireLoop uriClass dateParse snapshot zoneId agentIds lastCondition []
      (changes.lastCondition, if changes.threw then [] else changes.changed)

/-! ### The provider and the editor -/

/-- The metadata of the active zone and whether the provider has seen it, the
memo, and the decorations that the editor shows. -/
structure Decorated where
  snapshot : Option RtsSnapshot
  seen : Bool
  lastCondition : Memo
  shown : OrderedMap Uri (Option DecorationSpec)

/-- The active zone or its metadata changes; the sidebar source fires; the
editor asks for the decoration of the row of an agent. -/
inductive DecorationEvent where
  | change (snapshot : Option RtsSnapshot)
  | fire
  | ask (agentId : JsString)

namespace Decorated

def initial : Decorated where
  snapshot := none
  seen := true
  lastCondition := .empty
  shown := .empty

/-- The editor asks for a decoration; where the provider throws it has none. -/
def refresh (snapshot : Option RtsSnapshot)
    (shown : OrderedMap Uri (Option DecorationSpec)) (uri : Uri) :
    OrderedMap Uri (Option DecorationSpec) :=
  shown.set uri ((provideFileDecoration? dateParse snapshot uri).getD none)

/-- The editor asks for rows of the active zone that the provider has seen, and
for what is announced. -/
def step (decorated : Decorated) : DecorationEvent → Option Decorated
  | .change snapshot =>
      some { decorated with snapshot := snapshot, seen := false }
  | .fire =>
      let fired :=
        fireChanged uriClass dateParse decorated.snapshot
          decorated.lastCondition
      some
        { decorated with
          seen := true
          lastCondition := fired.1
          shown :=
            fired.2.foldl (refresh dateParse decorated.snapshot)
              decorated.shown }
  | .ask agentId =>
      if decorated.seen ∧ agentId ∈ agentIdsOf decorated.snapshot then
        ((zoneIdOf? decorated.snapshot).bind fun zoneId =>
          agentUri? uriClass zoneId agentId).map fun uri =>
            { decorated with
              shown :=
                refresh dateParse decorated.snapshot decorated.shown uri }
      else
        none

/-- The provider with the editor as a system of events. -/
def system : System Decorated DecorationEvent where
  initial := initial
  step := step uriClass dateParse

end Decorated

end

/-! ### The rows of a snapshot -/

section

variable {uriClass : UriClass} {dateParse : DateParse}

theorem agentUri?_of_plain {zone agent : Identifier} (zonePlain : Plain zone)
    (agentPlain : Plain agent) :
    ∃ uri, agentUri? uriClass zone.text agent.text = some uri ∧
      decoratedIds uri = some (zone.text, agent.text) := by
  have ids : idsOfUri uriClass zone.text agent.text =
      some (zone.text, agent.text) := by
    rcases idsOfUri_eq uriClass zone agent with parsed | ⟨inZone, -⟩
    · rw [parsed, parse_withoutSlash zonePlain.1 agentPlain.1 zone.nonempty
        agent.nonempty, decodeURIComponent_plain zonePlain.2,
        decodeURIComponent_plain agentPlain.2]
      rfl
    · exact absurd inZone zonePlain.1
  rw [idsOfUri] at ids
  obtain ⟨text, isText, ids⟩ := Option.bind_eq_some_iff.mp ids
  obtain ⟨uri, isUri, ids⟩ := Option.bind_eq_some_iff.mp ids
  refine ⟨uri, ?_, ids⟩
  rw [agentUri?, isText, Option.bind_some, isUri]

/-- An agent row whose URI and condition can be computed, and whose ids come
back from its URI. -/
structure Row (uriClass : UriClass) (dateParse : DateParse)
    (snapshot : Option RtsSnapshot) (zoneId agentId : JsString) (uri : Uri)
    (condition : Option AgentCondition) : Prop where
  built : agentUri? uriClass zoneId agentId = some uri
  ids : decoratedIds uri = some (zoneId, agentId)
  condition : deriveAgentCondition? dateParse agentId snapshot = some condition

theorem Row.provided {snapshot : Option RtsSnapshot}
    {zoneId agentId : JsString} {uri : Uri}
    {condition : Option AgentCondition}
    (row : Row uriClass dateParse snapshot zoneId agentId uri condition) :
    provideFileDecoration? dateParse snapshot uri =
      some (condition.map conditionToDecoration) := by
  rw [provideFileDecoration?, row.ids]
  simp only [row.condition, Option.map_some]

/-- The ids of a snapshot have neither a slash nor a percent sign, and its spans
can be read. -/
structure PlainSnapshot (dateParse : DateParse)
    (snapshot : Option RtsSnapshot) : Prop where
  zone : ∃ zone : Identifier, Plain zone ∧
    zoneIdOf? snapshot = some zone.text
  agents : ∀ agentId ∈ agentIdsOf snapshot,
    ∃ agent : Identifier, Plain agent ∧ agent.text = agentId ∧
      (deriveAgentCondition? dateParse agentId snapshot).isSome

theorem PlainSnapshot.exists_row {snapshot : Option RtsSnapshot}
    (plain : PlainSnapshot dateParse snapshot) :
    ∃ zoneId, zoneIdOf? snapshot = some zoneId ∧
      ∀ agentId ∈ agentIdsOf snapshot, ∃ uri condition,
        Row uriClass dateParse snapshot zoneId agentId uri condition := by
  obtain ⟨zone, zonePlain, isZone⟩ := plain.zone
  refine ⟨zone.text, isZone, fun agentId isAgent => ?_⟩
  obtain ⟨agent, agentPlain, rfl, derives⟩ := plain.agents agentId isAgent
  obtain ⟨condition, isCondition⟩ := Option.isSome_iff_exists.mp derives
  obtain ⟨uri, isUri, ids⟩ :=
    @agentUri?_of_plain uriClass zone agent zonePlain agentPlain
  exact ⟨uri, condition, isUri, ids, isCondition⟩

/-! ### The loop of the provider -/

variable {snapshot : Option RtsSnapshot} {zoneId : JsString}

theorem condition_injective : Function.Injective
    (Option.map conditionToDecoration) := by
  apply Option.map_injective
  intro first second same
  cases first <;> cases second <;> first | rfl | exact absurd same (by decide)

/-- The loop announces every URI whose entry it changes, and leaves in the memo
the conditions of all rows. -/
theorem fireLoop_spec {agentIds : List JsString}
    (rows : ∀ agentId ∈ agentIds, ∃ uri condition,
      Row uriClass dateParse snapshot zoneId agentId uri condition)
    (memo : Memo) (changed : List Uri) :
    ∃ after fresh,
      fireLoop uriClass dateParse snapshot zoneId agentIds memo changed =
        ⟨after, changed ++ fresh, false⟩ ∧
      (∀ uri ∈ fresh, ∃ condition, after.get uri = some condition ∧
        provideFileDecoration? dateParse snapshot uri =
          some (condition.map conditionToDecoration)) ∧
      (∀ uri ∉ fresh, after.get uri = memo.get uri) ∧
      ∀ agentId ∈ agentIds, ∃ uri condition,
        Row uriClass dateParse snapshot zoneId agentId uri condition ∧
          after.get uri = some condition := by
  induction agentIds generalizing memo changed with
  | nil =>
      exact ⟨memo, [], by rw [fireLoop, List.append_nil], by simp, by simp,
        by simp⟩
  | cons agentId rest inductionHypothesis =>
      rw [List.forall_mem_cons] at rows
      obtain ⟨uri, condition, row⟩ := rows.1
      rw [fireLoop, row.built, row.condition]
      by_cases announced : memo.get uri ≠ some condition
      · simp only [if_pos announced]
        obtain ⟨after, fresh, passes, announces, keeps, each⟩ :=
          inductionHypothesis rows.2 (memo.set uri condition)
            (changed ++ [uri])
        have own : after.get uri = some condition := by
          by_cases again : uri ∈ fresh
          · obtain ⟨other, isOther, provided⟩ := announces uri again
            rw [row.provided, Option.some.injEq] at provided
            rw [isOther, condition_injective provided]
          · rw [keeps uri again, OrderedMap.get_set_self]
        refine ⟨after, uri :: fresh, ?_, ?_, ?_, ?_⟩
        · rw [passes, List.append_assoc, List.singleton_append]
        · exact List.forall_mem_cons.mpr
            ⟨⟨condition, own, row.provided⟩, announces⟩
        · intro other isOther
          rw [List.mem_cons, not_or] at isOther
          rw [keeps other isOther.2, OrderedMap.get_set_of_ne _ _ isOther.1]
        · exact List.forall_mem_cons.mpr ⟨⟨uri, condition, row, own⟩, each⟩
      · simp only [if_neg announced]
        obtain ⟨after, fresh, passes, announces, keeps, each⟩ :=
          inductionHypothesis rows.2 memo changed
        have own : after.get uri = some condition := by
          by_cases again : uri ∈ fresh
          · obtain ⟨other, isOther, provided⟩ := announces uri again
            rw [row.provided, Option.some.injEq] at provided
            rw [isOther, condition_injective provided]
          · rw [keeps uri again, not_not.mp announced]
        exact ⟨after, fresh, passes, announces, keeps,
          List.forall_mem_cons.mpr ⟨⟨uri, condition, row, own⟩, each⟩⟩

theorem get_foldl_refresh (uris : List Uri)
    (shown : OrderedMap Uri (Option DecorationSpec)) (uri : Uri) :
    (uris.foldl (Decorated.refresh dateParse snapshot) shown).get uri =
      if uri ∈ uris then
        some ((provideFileDecoration? dateParse snapshot uri).getD none)
      else
        shown.get uri := by
  induction uris generalizing shown with
  | nil =>
      rfl
  | cons first rest inductionHypothesis =>
      rw [List.foldl_cons, inductionHypothesis, Decorated.refresh,
        OrderedMap.get_set]
      by_cases same : uri = first
      · simp [same]
      · simp [same]

/-! ### Runs -/

namespace Decorated

/-- The editor shows what the memo holds. -/
def Agrees (decorated : Decorated) : Prop :=
  ∀ uri condition, decorated.lastCondition.get uri = some condition →
    decorated.shown.get uri = some (condition.map conditionToDecoration)

/-- The memo holds the condition of every row. -/
def Covers (uriClass : UriClass) (dateParse : DateParse)
    (decorated : Decorated) : Prop :=
  ∃ zoneId, zoneIdOf? decorated.snapshot = some zoneId ∧
    ∀ agentId ∈ agentIdsOf decorated.snapshot, ∃ uri condition,
      Row uriClass dateParse decorated.snapshot zoneId agentId uri condition ∧
        decorated.lastCondition.get uri = some condition

/-- What holds on every run over plain snapshots. -/
structure Coherent (uriClass : UriClass) (dateParse : DateParse)
    (decorated : Decorated) : Prop where
  plain : PlainSnapshot dateParse decorated.snapshot
  agrees : decorated.Agrees
  covers : decorated.seen = true → decorated.Covers uriClass dateParse

theorem coherent_fire {decorated : Decorated}
    (coherent : Coherent uriClass dateParse decorated) {next : Decorated}
    (stepped : decorated.step uriClass dateParse .fire = some next) :
    Coherent uriClass dateParse next := by
  cases stepped
  obtain ⟨plain, agrees, -⟩ := coherent
  obtain ⟨zoneId, isZone, rows⟩ :=
    @PlainSnapshot.exists_row uriClass dateParse decorated.snapshot plain
  obtain ⟨after, fresh, passes, announces, keeps, each⟩ :=
    fireLoop_spec rows decorated.lastCondition []
  have fired : fireChanged uriClass dateParse decorated.snapshot
      decorated.lastCondition = (after, fresh) := by
    rw [fireChanged, isZone]
    cases agentIds : agentIdsOf decorated.snapshot with
    | nil =>
        rw [agentIds, fireLoop, Changes.mk.injEq, List.nil_append] at passes
        rw [← passes.1, ← passes.2.1]
    | cons first rest =>
        rw [agentIds, List.nil_append] at passes
        simp only [passes, Bool.false_eq_true, if_false]
  refine ⟨plain, ?_, ?_⟩
  · intro uri condition holds
    simp only [fired] at holds ⊢
    rw [get_foldl_refresh]
    by_cases isFresh : uri ∈ fresh
    · obtain ⟨other, isOther, provided⟩ := announces uri isFresh
      rw [isOther, Option.some.injEq] at holds
      rw [if_pos isFresh, provided, holds]
      rfl
    · rw [keeps uri isFresh] at holds
      rw [if_neg isFresh]
      exact agrees uri condition holds
  · intro _
    refine ⟨zoneId, isZone, ?_⟩
    simp only [fired]
    exact each

theorem coherent_ask {decorated : Decorated}
    (coherent : Coherent uriClass dateParse decorated) {agentId : JsString}
    {next : Decorated}
    (stepped : decorated.step uriClass dateParse (.ask agentId) = some next) :
    Coherent uriClass dateParse next := by
  rw [step] at stepped
  split at stepped
  case isFalse =>
    cases stepped
  case isTrue asked =>
    obtain ⟨zoneId, isZone, each⟩ := coherent.covers asked.1
    obtain ⟨uri, condition, row, holds⟩ := each agentId asked.2
    rw [isZone, Option.bind_some, row.built, Option.map_some,
      Option.some.injEq] at stepped
    cases stepped
    refine ⟨coherent.plain, ?_, coherent.covers⟩
    intro other otherCondition otherHolds
    change (OrderedMap.set _ _ _).get other = _
    rw [OrderedMap.get_set, row.provided]
    split
    case isTrue same =>
      change decorated.lastCondition.get other = _ at otherHolds
      rw [same, holds, Option.some.injEq] at otherHolds
      rw [otherHolds]
      rfl
    case isFalse =>
      exact coherent.agrees other otherCondition otherHolds

theorem coherent_initial : Coherent uriClass dateParse initial where
  plain :=
    { zone :=
        ⟨⟨js "zone", by decide, by decide⟩, ⟨by decide, by decide⟩, rfl⟩
      agents := fun _ isAgent => by cases isAgent }
  agrees := fun _ _ holds => by cases holds
  covers := fun _ => ⟨js "zone", rfl, fun _ isAgent => by cases isAgent⟩

/-- A zone with an agent that has been terminated. -/
def terminatedAgent : RtsSnapshot :=
  [(js "zone", .object
    [(js "zone_id", .string (js "z1")),
      (js "agents", .object
        [(js "a1", .object
          [(js "session", .object
            [(js "runtime_status", .string (js "terminated"))])])])])]

theorem terminatedAgent_plain (dateParse : DateParse) :
    PlainSnapshot dateParse (some terminatedAgent) where
  zone := ⟨zoneOne, ⟨by decide, by decide⟩, rfl⟩
  agents := by
    intro agentId isAgent
    have isOne : agentId ∈ [js "a1"] := isAgent
    rw [List.mem_singleton] at isOne
    subst isOne
    exact ⟨⟨js "a1", by decide, by decide⟩, ⟨by decide, by decide⟩, rfl, rfl⟩

end Decorated

end

end RtsNotebook.Sidebar
