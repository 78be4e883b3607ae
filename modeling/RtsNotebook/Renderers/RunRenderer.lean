import RtsNotebook.Messaging.RunMime
import RtsNotebook.Renderers.Components.AgentEmit
import RtsNotebook.Renderers.Components.Conversational
import RtsNotebook.Renderers.Components.Proxied

/-!
# The renderer of run-MIME outputs

`run-renderer.ts`: the dispatch on the payload and on the name of the tool.
The table of tool renderers is an object literal, so that a name also finds
the members of `Object.prototype`, which are called like a renderer.
-/

namespace RtsNotebook.Renderers

open RtsNotebook.Js RtsNotebook.Messaging

variable (runtime : Runtime)

/-- An output item: what `item.json()` gives, and `item.metadata`. -/
structure OutputItem where
  payload : Json
  metadata : Option Json

/-! ### Provenance -/

/-- The fields that `extractProvenanceFromOutputItem` collects. -/
structure Provenance where
  cellId : JsString
  generatedBy : JsString
  generatedAt : Option JsString
  generatorText : Option JsString

def nonempty? (text : JsString) : Option JsString :=
  if text = [] then none else some text

namespace Provenance

def unknown : Provenance where
  cellId := []
  generatedBy := []
  generatedAt := none
  generatorText := none

/-- The fields of the span's attributes. -/
def ofPayload? (payload : Json) : Option Provenance :=
  match payload.member? (js "attributes") with
  | none => some unknown
  | some attrs => do
      let generatedBy ←
        runtime.stringAttr? attrs (js "llmnb.generated_by") []
      let generatedAt ←
        runtime.stringAttr? attrs (js "llmnb.generated_at") []
      let generatorText ←
        runtime.stringAttr? attrs (js "llmnb.generator_text") []
      let cellId ← runtime.stringAttr? attrs (js "llmnb.cell_id") []
      pure
        { cellId := cellId
          generatedBy := generatedBy
          generatedAt := nonempty? generatedAt
          generatorText := nonempty? generatorText }

/-- The fields of the item's metadata, where the span names no generator. -/
def orMetadata (provenance : Provenance) (metadata : Option Json) :
    Provenance :=
  if provenance.generatedBy = [] then
    let rts := metadata.bind fun value => value.member? (js "rts")
    let field? := fun key =>
      ((rts.bind fun value => value.member? key).bind
        Json.asString?).bind nonempty?
    { cellId := (field? (js "cell_id")).getD provenance.cellId
      generatedBy := (field? (js "generated_by")).getD []
      generatedAt :=
        (field? (js "generated_at")).or provenance.generatedAt
      generatorText :=
        (field? (js "generator_text")).or provenance.generatorText }
  else
    provenance

/-- What the chip is rendered from, if there is one. -/
def props? (provenance : Provenance) : Option ProvenanceChipProps :=
  if nonempty : provenance.generatedBy ≠ [] then
    some
      { cellId := provenance.cellId
        generatedBy := provenance.generatedBy
        generatedAt := provenance.generatedAt
        generatorMagicText := provenance.generatorText
        nonempty := nonempty }
  else
    none

end Provenance

/-- `extractProvenanceFromOutputItem` -/
def extractProvenanceFromOutputItem? (item : OutputItem) :
    Option (Option ProvenanceChipProps) := do
  let provenance ← Provenance.ofPayload? runtime item.payload
  pure (provenance.orMetadata item.metadata).props?

/-! ### Tool calls -/

/-- `parseInputValue` -/
def parseInputValue? (attrs : Option Json) : Option JsValue := do
  let raw ← runtime.stringAttr? attrs (js "input.value") []
  if raw = [] then
    some (.object [])
  else do
    let resolvedRaw ← runtime.blobs.resolveString? raw
    let parsed := (runtime.text? resolvedRaw).bind runtime.jsonParse?
    match parsed.filter isObject with
    | none => some (.object [])
    | some value => some ((runtime.blobs.resolve? value).getD (.object []))

/-- The arguments that a tool renderer gets. -/
def toolArgs? (attributes : Option Json) : Option JsValue := do
  let args ← parseInputValue? runtime attributes
  let recorded ← runtime.stringAttr? attributes
    (js "llmnb.approval.decision_recorded") []
  pure (if recorded = js "true" then
    args.withProperty (js "decision_recorded") (.bool true)
  else
    args)

/-- `toolName`; the name of the span may be missing, or no string. -/
def toolName? (span : Json) : Option (Option Json) := do
  let attributes := span.member? (js "attributes")
  let named ← runtime.stringAttr? attributes (js "tool.name") []
  let aliased ← runtime.stringAttr? attributes (js "llmnb.tool_name") []
  pure (((nonempty? named).or (nonempty? aliased)).elim
    (span.member? (js "name")) fun name => some (.string name))

/-- The property key that a tool name is converted to. -/
def toolKey? (toolName : Option Json) : Option JsString :=
  match toolName with
  | none => some (js "undefined")
  | some value => value.toText?

/-- `TOOL_RENDERERS` -/
def TOOL_RENDERERS : List (JsString ×
    (Runtime → JsValue → JsString → Option (List Fragment))) :=
  [(js "notify", renderNotify?),
    (js "request_approval", renderRequestApproval?),
    (js "propose", renderPropose?),
    (js "propose_edit", renderProposeEdit?),
    (js "report_progress", renderReportProgress?),
    (js "report_completion", renderReportCompletion?),
    (js "report_problem", renderReportProblem?),
    (js "ask", renderAsk?),
    (js "clarify", renderClarify?),
    (js "present", renderPresent?),
    (js "escalate", renderEscalate?),
    (js "read_file", renderReadFile?),
    (js "write_file", renderWriteFile?),
    (js "run_command", renderRunCommand?)]

/-- The members of `Object.prototype` that throw when they are called without
a receiver, and `__proto__`, which is no function. -/
def throwingMembers : List JsString :=
  [js "__defineGetter__", js "__defineSetter__", js "hasOwnProperty",
    js "__lookupGetter__", js "__lookupSetter__", js "isPrototypeOf",
    js "propertyIsEnumerable", js "valueOf", js "__proto__",
    js "toLocaleString"]

def genericBlock (toolName args : JsString) : List Fragment :=
  [.literal (js "<div class=\"rts-tool-generic\">["),
    .html toolName,
    .literal (js "] "),
    .html args,
    .literal (js "</div>")]

/-- The branch of `runType === 'tool'`, from the lookup on. -/
def renderTool? (toolName : Option Json) (args : JsValue)
    (id : JsString) : Option (List Fragment) := do
  let key ← toolKey? toolName
  match TOOL_RENDERERS.lookup key with
  | some render => render runtime args id
  | none =>
      if key = js "constructor" then do
        -- `Object(args)` is the object itself, converted by `chipHtml + …`.
        let text ← runtime.text? args
        pure [.raw text]
      else if key = js "toString" then
        pure [.raw (js "[object Undefined]")]
      else if key ∈ throwingMembers then
        none
      else do
        let name ← toolName.bind Json.asString?
        let text ← args.stringify? [] []
        pure (genericBlock name text)

/-! ### Spans and events -/

def dumpBlock (text : JsString) : List Fragment :=
  [.literal (js "<pre>"),
    .html text,
    .literal (js "</pre>")]

/-- The payload as it is. -/
def renderDump? (payload : Json) : Option (List Fragment) := do
  let text ← (JsValue.ofJson payload).stringify? (js "  ") []
  pure (dumpBlock text)

def eventBlock (name attributes : JsString) : List Fragment :=
  [.literal (js "<div class=\"rts-run-event\"><em>"),
    .html name,
    .literal (js "</em> "),
    .html attributes,
    .literal (js "</div>")]

def renderEvent? (event : Json) : Option (List Fragment) := do
  let evAttrs ← (event.member? (js "attributes")).elim
    (some (.object [])) Otel.decodeAttrs?
  let name ← (event.member? (js "name")).bind Json.asString?
  let text ← evAttrs.stringify? [] []
  pure (eventBlock name text)

def closedBlock (label : JsString) : List Fragment :=
  [.literal (js "<div class=\"rts-run-complete\">[done: "),
    .html label,
    .literal (js "]</div>")]

/-- `renderClosedSpan` -/
def renderClosedSpan (span : Json) : List Fragment :=
  let code := (statusCode? span).bind Json.asString?
  closedBlock
    (if code = some (js "STATUS_CODE_OK") then js "success"
    else if code = some (js "STATUS_CODE_ERROR") then js "error"
    else js "unset")

def startBlock (runType name : JsString) : List Fragment :=
  [.literal (js "<div class=\"rts-run-start\"><strong>["),
    .html runType,
    .literal (js "] "),
    .html name,
    .literal (js "</strong></div>")]

/-- `renderOpenSpan` -/
def renderOpenSpan? (span : Json) (id : JsString) :
    Option (List Fragment) := do
  let attributes := span.member? (js "attributes")
  let runType ← runtime.stringAttr? attributes (js "llmnb.run_type") []
  if runType = js "agent_emit" then
    renderAgentEmit? runtime attributes id
  else do
    let toolName ← toolName? runtime span
    if runType = js "tool" then do
      let args ← toolArgs? runtime attributes
      renderTool? runtime toolName args id
    else do
      let name ← (span.member? (js "name")).bind Json.asString?
      pure (startBlock ((nonempty? runType).getD (js "unknown")) name)

/-- `span.endTimeUnixNano && span.endTimeUnixNano.length > 0` -/
def isClosed? (span : Json) : Option Bool :=
  match (span.member? (js "endTimeUnixNano")).filter Json.truthy with
  | none => some false
  | some endTime => endTime.lengthIsPositive?

/-- `renderRunMime` -/
def renderRunMime? (payload : Json) : Option (List Fragment) :=
  if !isObject payload then
    renderDump? payload
  else
    match (payload.member? (js "event")).filter Json.truthy with
    | some event => renderEvent? event
    | none =>
        match spanId? payload with
        | none => renderDump? payload
        | some id =>
            match isClosed? payload with
            | none => none
            | some true => some (renderClosedSpan payload)
            | some false => renderOpenSpan? runtime payload id

/-- What `renderOutputItem` assigns to `innerHTML`; nothing where it shows an
error as text instead. -/
def renderOutputItem? (item : OutputItem) : Option (List Fragment) := do
  let provenance ← extractProvenanceFromOutputItem? runtime item
  let chip := provenance.elim [] renderProvenanceChip
  let body ← renderRunMime? runtime item.payload
  pure (chip ++ body)

end RtsNotebook.Renderers
