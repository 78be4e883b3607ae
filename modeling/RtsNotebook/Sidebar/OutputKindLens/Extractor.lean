import RtsNotebook.Otel.Attrs
import RtsNotebook.Sidebar.InFlight
import RtsNotebook.Sidebar.Search.MatchFinder

/-!
# The spans of the output-kind lens

`output-kind-lens/extractor.ts`: the spans in the run outputs of a notebook,
and what the lens shows of a span that has an output kind.

The functions that read attributes return an option: `none` is the
`TypeError` that nothing catches.
-/

namespace RtsNotebook.Sidebar.OutputKindLens

open RtsNotebook.Js RtsNotebook.Otel
open RtsNotebook.Llmnb (CellKind OutputItem RTS_RUN_MIME)
open RtsNotebook.Sidebar.Search (NotebookCell outputItems decodeItem compress
  primaryCellId)

/-! ### `types.ts` -/

inductive OutputKind where
  | prose
  | code
  | diff
  | patch
  | decision
  | plan
  | artifactRef
  | testResult
  | diagnostic
  | checkpoint
  | question
  | warning
  deriving DecidableEq

def OutputKind.text : OutputKind → JsString
  | prose => js "prose"
  | code => js "code"
  | diff => js "diff"
  | patch => js "patch"
  | decision => js "decision"
  | plan => js "plan"
  | artifactRef => js "artifact_ref"
  | testResult => js "test_result"
  | diagnostic => js "diagnostic"
  | checkpoint => js "checkpoint"
  | question => js "question"
  | warning => js "warning"

def OutputKind.all : List OutputKind :=
  [.prose, .code, .diff, .patch, .decision, .plan, .artifactRef, .testResult,
    .diagnostic, .checkpoint, .question, .warning]

/-- `isKnownOutputKind`, with the kind. -/
def knownOutputKind? (value : JsString) : Option OutputKind :=
  OutputKind.all.find? fun kind => kind.text = value

/-- `TaggedSpan`.  No output kind stands for `OTHER_KIND_KEY`. -/
structure TaggedSpan where
  cellIndex : Nat
  cellId : JsString
  spanId : JsString
  outputKind : Option OutputKind
  agentId : JsString
  snippet : JsString
  timestampMs : Int
  deriving DecidableEq

def SNIPPET_MAX_CHARS : Nat := 80

/-! ### `iterateSpans` -/

/-- An object that `iterateSpans` takes for an `OtlpSpan`. -/
structure OtlpSpan where
  members : List (JsString × Json)
  traceId : JsString
  spanId : JsString
  hasTraceId : members.lookup (js "traceId") = some (.string traceId)
  hasSpanId : members.lookup (js "spanId") = some (.string spanId)

/-- `typeof obj.traceId === 'string' && typeof obj.spanId === 'string'` -/
def spanOf? (members : List (JsString × Json)) : Option OtlpSpan :=
  match hasTraceId : members.lookup (js "traceId"),
      hasSpanId : members.lookup (js "spanId") with
  | some (.string traceId), some (.string spanId) =>
      some { members, traceId, spanId, hasTraceId, hasSpanId }
  | _, _ => none

/-- `Array.isArray(obj[key])` -/
def hasArray (members : List (JsString × Json)) (key : JsString) : Bool :=
  match members.lookup key with
  | some (.array _) => true
  | _ => false

mutual

/-- `iterateSpans` -/
def iterateSpans : Json → List OtlpSpan
  | .array items => iterateItems items
  | .object members =>
      match spanOf? members with
      | some span => [span]
      | none =>
          if hasArray members (js "spans") then
            iterateMember (js "spans") members
          else
            iterateMember (js "scopeSpans") members
  | _ => []

def iterateItems : List Json → List OtlpSpan
  | [] => []
  | item :: rest => iterateSpans item ++ iterateItems rest

/-- The loop over the member of that name, where it is an array. -/
def iterateMember (key : JsString) : List (JsString × Json) → List OtlpSpan
  | [] => []
  | (name, value) :: rest =>
      if name = key then iterateArray value else iterateMember key rest

def iterateArray : Json → List OtlpSpan
  | .array items => iterateItems items
  | _ => []

end

/-! ### `toTaggedSpan` -/

/-- `getStringAttr(span.attributes, key)` of attributes that are an array. -/
def stringAttr? (attributes : List Json) (key : JsString) : Option JsString :=
  getStringAttr? (fun _ => none) (some (.array attributes)) key []

/-- `buildSnippet` of a span that has the attributes. -/
def buildSnippet? (span : OtlpSpan) (attributes : List Json) :
    Option JsString := do
  let emit ← stringAttr? attributes (js "llmnb.emit_content")
  let name :=
    ((span.members.lookup (js "name")).bind Json.asString?).getD []
  let raw :=
    if emit ≠ [] then emit
    else if name ≠ [] then name
    else js "<span:" ++ span.spanId.take 8 ++ js ">"
  let compressed := trim (compress raw)
  pure
    (if SNIPPET_MAX_CHARS < compressed.length then
      compressed.take (SNIPPET_MAX_CHARS - 1) ++ js "…"
    else
      compressed)

/-- The double next to a natural number, an even one where two are equally
near; `none` stands for infinity. -/
def nearestDouble (value : Nat) : Option Nat :=
  let excess := value.log2 + 1 - 53
  let unitInLastPlace := 2 ^ excess
  let whole := value / unitInLastPlace
  let rest := 2 * (value % unitInLastPlace)
  let roundsUp :=
    unitInLastPlace < rest ∨ (unitInLastPlace = rest ∧ whole % 2 = 1)
  let rounded := (if roundsUp then whole + 1 else whole) * unitInLastPlace
  if rounded < 2 ^ 1024 then some rounded else none

/-- `parseNanos` -/
def parseNanos (dateParse : DateParse) (nanos : Option Json) : Int :=
  match nanos with
  | some (.string nanos) =>
      if nanos = [] then
        0
      else if !nanos.all isDigit then
        (dateParse nanos).getD 0
      else if nanos.length ≤ 6 then
        0
      else
        ((digitsValue 10 (nanos.take (nanos.length - 6))).bind
          nearestDouble).getD 0
  | _ => 0

/-- `toTaggedSpan`.  The attributes need not be an array. -/
def toTaggedSpan? (dateParse : DateParse) (cellIndex : Nat)
    (cellId : JsString) (span : OtlpSpan) : Option (Option TaggedSpan) :=
  match span.members.lookup (js "attributes") with
  | some (.array attributes) => do
      let kindRaw ← stringAttr? attributes (js "llmnb.output.kind")
      if kindRaw = [] then
        pure none
      else
        let agentId ← stringAttr? attributes (js "llmnb.agent_id")
        let snippet ← buildSnippet? span attributes
        pure (some
          { cellIndex := cellIndex
            cellId := cellId
            spanId := span.spanId
            outputKind := knownOutputKind? kindRaw
            agentId := agentId
            snippet := snippet
            timestampMs :=
              parseNanos dateParse
                (span.members.lookup (js "startTimeUnixNano")) })
  | _ => some none

/-! ### `extractTaggedSpans` -/

/-- A `vscode.NotebookCell` with its kind. -/
structure LensCell where
  kind : CellKind
  cell : NotebookCell

/-- The payload of one item in the loop of `iterateRunItems`. -/
def runPayload? (parse : JsString → Option Json) (item : OutputItem) :
    Option Json :=
  if item.mime ≠ RTS_RUN_MIME then
    none
  else if decodeItem item = [] then
    none
  else
    parse (decodeItem item)

/-- `iterateRunItems`; `parse` is `JSON.parse`. -/
def iterateRunItems (parse : JsString → Option Json) (cell : NotebookCell) :
    List Json :=
  (outputItems cell).filterMap (runPayload? parse)

/-- A span with the cell that it stands in. -/
structure PlacedSpan where
  cellIndex : Nat
  cellId : JsString
  span : OtlpSpan

/-- The spans of a cell at an index, in the order of the loops. -/
def spansOfCell (parse : JsString → Option Json) (entry : LensCell × Nat) :
    List PlacedSpan :=
  if entry.1.kind = .markup then
    []
  else
    ((iterateRunItems parse entry.1.cell).flatMap iterateSpans).map fun span =>
      ⟨entry.2, primaryCellId entry.1.cell, span⟩

/-- The spans of a notebook, in the order of the loops. -/
def spansOf (parse : JsString → Option Json)
    (notebook : Option (List LensCell)) : List PlacedSpan :=
  (notebook.getD []).zipIdx.flatMap (spansOfCell parse)

/-- `extractTaggedSpans`.  The first span that throws ends it. -/
def extractTaggedSpans? (parse : JsString → Option Json)
    (dateParse : DateParse) (notebook : Option (List LensCell)) :
    Option (List TaggedSpan) :=
  ((spansOf parse notebook).mapM fun placed =>
    toTaggedSpan? dateParse placed.cellIndex placed.cellId placed.span).map
      fun tagged => tagged.filterMap id

end RtsNotebook.Sidebar.OutputKindLens
