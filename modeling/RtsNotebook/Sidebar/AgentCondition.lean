import RtsNotebook.Library.Latest
import RtsNotebook.Sidebar.InFlight
import RtsNotebook.Sidebar.OutputKindLens.MalformedSpans

/-!
# The condition of an agent

`deriveAgentCondition`, the exception state that the decoration of an agent
shows: attention before running before terminated.  An agent needs attention
where the latest of its tagged spans is a question or a decision.

The attribute readers may throw; `none` is then the result.
-/

namespace RtsNotebook.Sidebar

open RtsNotebook.Js RtsNotebook.Library RtsNotebook.Messaging
open RtsNotebook.Sidebar.OutputKindLens (stringAttr? parseNanos)

/-- `AgentCondition` -/
inductive AgentCondition where
  | attention
  | running
  | terminated
  deriving DecidableEq, Repr

def ATTENTION_KINDS : List JsString :=
  [js "question", js "decision"]

/-- `parseNanosToMs`, which repeats the body of `parseNanos`. -/
def parseNanosToMs (dateParse : DateParse) (nanos : Option Json) : Int :=
  parseNanos dateParse nanos

/-- The filter of `latestTaggedSpanKind` over the attributes. -/
def isOtlpAttribute (entry : Json) : Bool :=
  isObject entry && ((entry.member? (js "key")).bind Json.asString?).isSome

/-- The output kind of a span of the agent, with its start. -/
structure KindAt where
  kind : JsString
  ts : Int
  deriving DecidableEq

/-- What the loop of `latestTaggedSpanKind` reads of one entry; entries that it
skips give nothing. -/
def kindAt? (dateParse : DateParse) (agentId : JsString) (raw : Json) :
    Option (Option KindAt) :=
  match raw.member? (js "attributes") with
  | some (.array entries) => do
      let attrs := entries.filter isOtlpAttribute
      let owner ← stringAttr? attrs (js "llmnb.agent_id")
      if owner ≠ agentId then
        pure none
      else
        let kind ← stringAttr? attrs (js "llmnb.output.kind")
        if kind = [] then
          pure none
        else
          pure (some
            { kind := kind
              ts := parseNanosToMs dateParse
                (raw.member? (js "startTimeUnixNano")) })
  | _ => pure none

/-- The variables of the loop. -/
structure BestKind where
  bestKind : Option JsString
  bestTs : Int

/-- The loop over the entries. -/
def bestKindOf? (dateParse : DateParse) (agentId : JsString) :
    List Json → BestKind → Option BestKind
  | [], best => some best
  | raw :: rest, best => do
      match ← kindAt? dateParse agentId raw with
      | none => bestKindOf? dateParse agentId rest best
      | some found =>
          bestKindOf? dateParse agentId rest
            (if best.bestTs ≤ found.ts then ⟨some found.kind, found.ts⟩
            else best)

/-- `snapshot.event_log?.runs`, if it is an array. -/
def loggedRuns? (snapshot : RtsSnapshot) : Option (List Json) :=
  match (snapshot.lookup (js "event_log")).bind fun log =>
      log.member? (js "runs") with
  | some (.array runs) => some runs
  | _ => none

/-- `latestTaggedSpanKind` -/
def latestTaggedSpanKind? (dateParse : DateParse) (agentId : JsString)
    (snapshot : RtsSnapshot) : Option (Option JsString) :=
  match loggedRuns? snapshot with
  | none => some none
  | some runs =>
      (bestKindOf? dateParse agentId runs ⟨none, -1⟩).map BestKind.bestKind

/-- `snapshot.zone?.agents?.[agentId]?.session?.runtime_status` -/
def runtimeStatus? (agentId : JsString) (snapshot : RtsSnapshot) :
    Option Json := do
  let zone ← snapshot.lookup (js "zone")
  let agents ← zone.member? (js "agents")
  let agent ← agents.ownMembers.lookup agentId
  let session ← agent.member? (js "session")
  session.member? (js "runtime_status")

/-- `deriveAgentCondition` -/
def deriveAgentCondition? (dateParse : DateParse) (agentId : JsString)
    (snapshot : Option RtsSnapshot) : Option (Option AgentCondition) :=
  match snapshot with
  | none => some none
  | some snapshot =>
      if agentId = [] then
        some none
      else do
        let latestKind ← latestTaggedSpanKind? dateParse agentId snapshot
        if latestKind.any (· ∈ ATTENTION_KINDS) then
          pure (some .attention)
        else if hasInFlightRunFrame agentId snapshot then
          pure (some .running)
        else if (runtimeStatus? agentId snapshot).bind Json.asString? =
            some (js "terminated") then
          pure (some .terminated)
        else
          pure none

/-- The badge, the color id and the propagation of `conditionToDecoration`. -/
structure DecorationSpec where
  badge : JsString
  colorId : JsString
  propagate : Bool
  deriving DecidableEq

/-- `conditionToDecoration` -/
def conditionToDecoration : AgentCondition → DecorationSpec
  | .attention => ⟨js "!!", js "charts.yellow", true⟩
  | .running => ⟨js "▶", js "charts.green", true⟩
  | .terminated => ⟨js "✗", js "charts.red", true⟩

/-! ### The latest tagged span -/

section

variable {dateParse : DateParse} {agentId : JsString}

/-- The tagged spans of the agent, in the order of the log. -/
def taggedSpans? (dateParse : DateParse) (agentId : JsString)
    (runs : List Json) : Option (List KindAt) :=
  (runs.mapM (kindAt? dateParse agentId)).map List.reduceOption

/-- The variables of the loop, as the item that it keeps. -/
def BestKind.of (kept : Kept KindAt) : BestKind where
  bestKind := kept.item.map KindAt.kind
  bestTs := kept.rank

/-- The loop keeps the best of the tagged spans. -/
theorem bestKindOf?_eq (runs : List Json) (kept : Kept KindAt) :
    bestKindOf? dateParse agentId runs (BestKind.of kept) =
      (taggedSpans? dateParse agentId runs).map fun tagged =>
        BestKind.of (tagged.foldl (Kept.consider KindAt.ts) kept) := by
  induction runs generalizing kept with
  | nil =>
      rfl
  | cons raw rest inductionHypothesis =>
      rw [bestKindOf?, taggedSpans?, List.mapM_cons]
      cases kindAt? dateParse agentId raw with
      | none =>
          rfl
      | some reading =>
          cases reading with
          | none =>
              change bestKindOf? dateParse agentId rest (BestKind.of kept) = _
              rw [inductionHypothesis, taggedSpans?]
              cases rest.mapM (kindAt? dateParse agentId) <;> rfl
          | some found =>
              have considered :
                  (if (BestKind.of kept).bestTs ≤ found.ts then
                    ⟨some found.kind, found.ts⟩
                  else
                    BestKind.of kept) =
                    BestKind.of (kept.consider KindAt.ts found) := by
                rw [Kept.consider]
                by_cases later : kept.rank ≤ found.ts
                · rw [if_pos later, if_pos (by exact later)]
                  rfl
                · rw [if_neg later, if_neg (by exact later)]
              change bestKindOf? dateParse agentId rest (if _ then _ else _) = _
              rw [considered, inductionHypothesis, taggedSpans?]
              cases rest.mapM (kindAt? dateParse agentId) <;> rfl

theorem latestTaggedSpanKind?_eq {snapshot : RtsSnapshot} {runs : List Json}
    (logged : loggedRuns? snapshot = some runs) :
    latestTaggedSpanKind? dateParse agentId snapshot =
      (taggedSpans? dateParse agentId runs).map fun tagged =>
        (tagged.foldl (Kept.consider KindAt.ts) ⟨none, -1⟩).item.map
          KindAt.kind := by
  have start : (⟨none, -1⟩ : BestKind) = BestKind.of ⟨none, -1⟩ := rfl
  rw [latestTaggedSpanKind?, logged]
  simp only [start, bestKindOf?_eq, Option.map_map]
  rfl

theorem attention_of_kind_iff {snapshot : RtsSnapshot} :
    deriveAgentCondition? dateParse agentId (some snapshot) =
        some (some .attention) ↔
      agentId ≠ [] ∧ ∃ kind,
        latestTaggedSpanKind? dateParse agentId snapshot = some (some kind) ∧
          kind ∈ ATTENTION_KINDS := by
  rw [deriveAgentCondition?]
  by_cases noId : agentId = []
  · simp [noId]
  · rw [if_neg noId]
    cases latestTaggedSpanKind? dateParse agentId snapshot with
    | none =>
        simp
    | some latestKind =>
        simp only [Option.bind_eq_bind, Option.bind_some]
        by_cases alarming : latestKind.any (· ∈ ATTENTION_KINDS) = true
        · rw [if_pos alarming]
          cases latestKind with
          | none =>
              cases alarming
          | some kind =>
              have inKinds : kind ∈ ATTENTION_KINDS := by
                simpa using alarming
              simp [noId, inKinds]
        · rw [if_neg alarming]
          constructor
          · intro attention
            split at attention
            · cases attention
            · split at attention <;> cases attention
          · rintro ⟨-, kind, isKind, inKinds⟩
            cases isKind
            exact absurd (by simpa using inKinds) alarming

/-- An agent needs attention exactly where the latest of its tagged spans is a
question or a decision, whatever else is going on. -/
theorem needsAttention_iff (dateParse : DateParse) (agentId : JsString)
    (snapshot : RtsSnapshot) :
    deriveAgentCondition? dateParse agentId (some snapshot) =
        some (some .attention) ↔
      agentId ≠ [] ∧ ∃ runs tagged latest,
        loggedRuns? snapshot = some runs ∧
        taggedSpans? dateParse agentId runs = some tagged ∧
        IsLatest KindAt.ts (-1) tagged latest ∧
        latest.kind ∈ ATTENTION_KINDS := by
  rw [attention_of_kind_iff]
  apply and_congr_right
  intro _
  cases logged : loggedRuns? snapshot with
  | none =>
      rw [latestTaggedSpanKind?, logged]
      simp
  | some runs =>
      rw [latestTaggedSpanKind?_eq logged]
      cases spans : taggedSpans? dateParse agentId runs with
      | none =>
          simp [spans]
      | some tagged =>
          constructor
          · rintro ⟨kind, isKind, inKinds⟩
            rw [Option.map_some, Option.some.injEq] at isKind
            obtain ⟨latest, held, rfl⟩ := Option.map_eq_some_iff.mp isKind
            exact ⟨runs, tagged, latest, rfl, spans,
              kept_iff_isLatest.mp held, inKinds⟩
          · rintro ⟨_, _, latest, isRuns, isTagged, isLatest, inKinds⟩
            cases isRuns
            rw [spans] at isTagged
            cases isTagged
            refine ⟨latest.kind, ?_, inKinds⟩
            rw [Option.map_some, kept_iff_isLatest.mpr isLatest,
              Option.map_some]

end

end RtsNotebook.Sidebar
