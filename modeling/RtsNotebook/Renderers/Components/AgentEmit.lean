import RtsNotebook.Renderers.Components.Reports

/-!
# Agent output and provenance

`agent-emit.ts` and `provenance-chip.ts`: the block of an `agent_emit` span,
and the chip over the output of a generated cell.
-/

namespace RtsNotebook.Renderers

open RtsNotebook.Js RtsNotebook.Library

-- A template is read code unit by code unit.
set_option maxRecDepth 20000

variable (runtime : Runtime)

/-! ### `agent_emit` -/

/-- `AgentEmitKind` -/
def agentEmitKinds : List JsString :=
  [js "prose", js "reasoning", js "system_message", js "result", js "error",
    js "stderr", js "invalid_tool_use", js "malformed_json"]

/-- `normalizeEmitKind` -/
def normalizeEmitKind (value : JsString) : JsString :=
  if value ∈ agentEmitKinds then value else js "unknown"

/-- `text.replace(/\s+/g, ' ')`; `inSpace` says that a blank has just been
written. -/
def collapseSpaces (inSpace : Bool) : JsString → JsString
  | [] => []
  | codeUnit :: rest =>
      if isWhiteSpace codeUnit then
        if inSpace then collapseSpaces true rest
        else unit ' ' :: collapseSpaces true rest
      else
        codeUnit :: collapseSpaces false rest

def PREVIEW_MAX_CHARS : Nat := 80

/-- `previewOf` -/
def previewOf (content : JsString) : JsString :=
  let flat := trim (collapseSpaces false content)
  if flat.length ≤ PREVIEW_MAX_CHARS then
    flat
  else
    trimEnd (flat.take (PREVIEW_MAX_CHARS - 1)) ++ js "…"

def emitHeader (kind bodyId runId agentId : JsString) : List Fragment :=
  [.literal (js "<div class=\"rts-card rts-agent-emit\" "),
    .literal (js "data-emit-kind=\""),
    .attr kind,
    .literal (js "\"><div class=\"rts-agent-emit-header\" "),
    .literal (js "data-rts-action=\"agent_emit_toggle\" "),
    .literal (js "data-rts-toggle=\""),
    .attr bodyId,
    .literal (js "\" data-rts-run-id=\""),
    .attr runId,
    .literal (js "\"><span class=\"rts-agent-emit-kind\">["),
    .html kind,
    .literal (js "]</span> <span class=\"rts-agent-emit-agent\">agent: "),
    .html agentId,
    .literal (js "</span>")]

def emitPreview (preview : JsString) : List Fragment :=
  if preview = [] then
    []
  else
    [.literal (js " <span class=\"rts-agent-emit-preview\">"),
      .html preview,
      .literal (js "</span>")]

def emitBody (bodyId content : JsString) : List Fragment :=
  [.literal (js "</div><div id=\""),
    .attr bodyId,
    .literal (js "\" class=\"rts-agent-emit-body\" hidden><pre "),
    .literal (js "class=\"rts-agent-emit-content\">"),
    .html content,
    .literal (js "</pre>")]

def emitDiagnostic (diagnostic : JsString) : List Fragment :=
  if diagnostic = [] then
    []
  else
    [.literal (js "<div class=\"rts-agent-emit-diagnostic\"><strong>"),
      .literal (js "parser:</strong> "),
      .html diagnostic,
      .literal (js "</div>")]

/-- `renderAgentEmit` -/
def renderAgentEmit? (attributes : Option Json) (runId : JsString) :
    Option (List Fragment) := do
  let emitKind ← runtime.stringAttr? attributes (js "llmnb.emit_kind") []
  let kind := normalizeEmitKind emitKind
  let agentId ←
    runtime.stringAttr? attributes (js "llmnb.agent_id") (js "?")
  let content ← runtime.stringAttr? attributes (js "llmnb.emit_content") []
  let diagnostic ←
    runtime.stringAttr? attributes (js "llmnb.parser_diagnostic") []
  let bodyId := js "rts-agent-emit-body-" ++ escapeAttr runId
  pure (emitHeader kind bodyId runId agentId ++
    emitPreview (previewOf content) ++ emitBody bodyId content ++
    emitDiagnostic diagnostic ++ divClosing ++ divClosing)

theorem emitHeader_safe (kind bodyId runId agentId : JsString) :
    Safe (emitHeader kind bodyId runId agentId) := by
  refine Safe.of_sealed ?_ rfl
  simp only [Sealed, skeleton, emitHeader, List.map, Fragment.piece,
    Markup.Piece.template?]
  repeat rw [js_ofList]
  rfl


theorem emitPreview_safe (preview : JsString) :
    Safe (emitPreview preview) := by
  unfold emitPreview
  refine Safe.ite Safe.nil (Safe.of_sealed ?_ rfl)
  simp only [Sealed, skeleton, List.map, Fragment.piece,
    Markup.Piece.template?]
  repeat rw [js_ofList]
  rfl


theorem emitBody_safe (bodyId content : JsString) :
    Safe (emitBody bodyId content) := by
  refine Safe.of_sealed ?_ rfl
  simp only [Sealed, skeleton, emitBody, List.map, Fragment.piece,
    Markup.Piece.template?]
  repeat rw [js_ofList]
  rfl


theorem emitDiagnostic_safe (diagnostic : JsString) :
    Safe (emitDiagnostic diagnostic) := by
  unfold emitDiagnostic
  refine Safe.ite Safe.nil (Safe.of_sealed ?_ rfl)
  simp only [Sealed, skeleton, List.map, Fragment.piece,
    Markup.Piece.template?]
  repeat rw [js_ofList]
  rfl


theorem renderAgentEmit_safe (attributes : Option Json) (runId : JsString) :
    SafeResult (renderAgentEmit? runtime attributes runId) := by
  apply SafeResult.bind
  intro emitKind
  apply SafeResult.bind
  intro agentId
  apply SafeResult.bind
  intro content
  apply SafeResult.bind
  intro diagnostic
  apply SafeResult.pure
  apply Safe.append _ divClosing_safe
  apply Safe.append _ divClosing_safe
  apply Safe.append _ (emitDiagnostic_safe diagnostic)
  apply Safe.append _ (emitBody_safe _ content)
  exact (emitHeader_safe _ _ runId agentId).append (emitPreview_safe _)

/-! ### The provenance chip -/

/-- `ProvenanceChipProps`; the identifier of the generating cell is never
empty where there is a chip. -/
structure ProvenanceChipProps where
  cellId : JsString
  generatedBy : JsString
  generatedAt : Option JsString
  generatorMagicText : Option JsString
  nonempty : generatedBy ≠ []

def PROVENANCE_CHIP_CLASS : JsString := js "rts-provenance-chip"

def PROVENANCE_CHIP_BUTTON_CLASS : JsString :=
  js "rts-provenance-chip-button"

def REVEAL_DATA_ATTR : JsString := js "data-rts-reveal-cell"

def PROVENANCE_CHIP_PREFIX : JsString := js "↪"

def GENERATOR_TEXT_MAX_CHARS : Nat := 40

def SHORT_ID_LEN : Nat := 6

/-- `truncate` -/
def truncate (text : JsString) (max : Nat) : JsString :=
  if text.length ≤ max then text else text.take (max - 1) ++ js "…"

/-- `formatProvenanceChipText` -/
def formatProvenanceChipText (generatorMagicText : Option JsString)
    (generatedBy : JsString) : JsString :=
  let shortId := generatedBy.take SHORT_ID_LEN
  let trimmed := trim (generatorMagicText.getD [])
  if trimmed = [] then
    PROVENANCE_CHIP_PREFIX ++ js " from c_" ++ shortId
  else
    let text := truncate trimmed GENERATOR_TEXT_MAX_CHARS
    PROVENANCE_CHIP_PREFIX ++ js " from `" ++ text ++ js "` in c_" ++
      shortId

/-- `formatProvenanceChipTooltip` -/
def formatProvenanceChipTooltip (generatedAt : Option JsString) : JsString :=
  let ts :=
    match generatedAt with
    | none => js "(unknown time)"
    | some [] => js "(unknown time)"
    | some given => given
  js "Generated at " ++ ts ++ js ". Click to jump to source."

def chipFragments (cellId generatedBy tooltip text : JsString) :
    List Fragment :=
  [.literal (js "\n<div class=\""),
    .literal PROVENANCE_CHIP_CLASS,
    .literal (js "\" data-rts-cell-id=\""),
    .attr cellId,
    .literal (js "\">\n  <button type=\"button\"\n          class=\""),
    .literal PROVENANCE_CHIP_BUTTON_CLASS,
    .literal (js "\"\n          "),
    .literal REVEAL_DATA_ATTR,
    .literal (js "=\""),
    .attr generatedBy,
    .literal (js "\"\n          title=\""),
    .attr tooltip,
    .literal (js "\"\n          aria-label=\""),
    .attr tooltip,
    .literal (js "\"\n          "),
    .literal (js "style=\"background:var(--vscode-editorWidget-background,#252526);\n"),
    .literal (js "                 "),
    .literal (js "color:var(--vscode-descriptionForeground,#9d9d9d);\n"),
    .literal (js "                 border:1px solid "),
    .literal (js "var(--vscode-panel-border,#444);\n                 "),
    .literal (js "padding:2px 8px;border-radius:3px;cursor:pointer;\n"),
    .literal (js "                 "),
    .literal (js "font-family:var(--vscode-font-family,sans-serif);\n"),
    .literal (js "                 "),
    .literal (js "font-size:var(--vscode-font-size,12px);\">\n    "),
    .html text,
    .literal (js "\n  </button>\n</div>")]

/-- `renderProvenanceChip` -/
def renderProvenanceChip (props : ProvenanceChipProps) : List Fragment :=
  chipFragments props.cellId props.generatedBy
    (formatProvenanceChipTooltip props.generatedAt)
    (formatProvenanceChipText props.generatorMagicText props.generatedBy)

theorem chipFragments_safe (cellId generatedBy tooltip text : JsString) :
    Safe (chipFragments cellId generatedBy tooltip text) := by
  refine Safe.of_sealed ?_ rfl
  simp only [Sealed, skeleton, chipFragments, List.map, Fragment.piece,
    Markup.Piece.template?, PROVENANCE_CHIP_CLASS,
    PROVENANCE_CHIP_BUTTON_CLASS, REVEAL_DATA_ATTR]
  repeat rw [js_ofList]
  rfl

theorem renderProvenanceChip_safe (props : ProvenanceChipProps) :
    Safe (renderProvenanceChip props) :=
  chipFragments_safe _ _ _ _

end RtsNotebook.Renderers
