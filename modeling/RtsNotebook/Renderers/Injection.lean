import RtsNotebook.Renderers.RunRenderer

/-!
# Injection into the rendered output

Every renderer escapes what it interpolates.  One payload gets past them all:
the tool name `constructor` finds the function `Object`, which gives the
arguments back, and their text is assigned as it is.
-/

namespace RtsNotebook.Renderers

open RtsNotebook.Js RtsNotebook.Library RtsNotebook.Messaging

-- A template is read code unit by code unit.
set_option maxRecDepth 20000

variable {runtime : Runtime}

/-! ### The payloads that reach `Object` -/

/-- The payload is an open span of a tool whose name is converted to the key
`constructor`, with these arguments. -/
structure CallsObject (runtime : Runtime) (payload : Json)
    (args : JsValue) : Prop where
  noEvent : (payload.member? (js "event")).filter Json.truthy = none
  isSpan : ∃ id, spanId? payload = some id
  isOpen : isClosed? payload = some false
  isTool : runtime.stringAttr? (payload.member? (js "attributes"))
    (js "llmnb.run_type") [] = some (js "tool")
  isConstructor : ∃ toolName, toolName? runtime payload = some toolName ∧
    toolKey? toolName = some (js "constructor")
  hasArgs : toolArgs? runtime (payload.member? (js "attributes")) = some args

theorem isObject_of_spanId {payload : Json} {id : JsString}
    (isSpan : spanId? payload = some id) : isObject payload = true := by
  cases payload with
  | object members => rfl
  | array items => rfl
  | _ => simp [spanId?, Json.member?] at isSpan

theorem constructor_notOwn :
    TOOL_RENDERERS.lookup (js "constructor") = none := by
  decide +kernel

/-- What a payload that reaches `Object` renders to. -/
theorem CallsObject.renderRunMime_eq {payload : Json} {args : JsValue}
    (calls : CallsObject runtime payload args) :
    renderRunMime? runtime payload =
      (runtime.text? args).map fun text => [.raw text] := by
  obtain ⟨id, isSpan⟩ := calls.isSpan
  obtain ⟨toolName, named, isKey⟩ := calls.isConstructor
  have notAgentEmit : js "tool" ≠ js "agent_emit" := by decide +kernel
  have tool : renderTool? runtime toolName args id =
      (runtime.text? args).map fun text => [.raw text] := by
    simp only [renderTool?, isKey, constructor_notOwn, Option.bind_eq_bind,
      Option.bind_some, if_true]
    cases runtime.text? args <;> rfl
  have span : renderOpenSpan? runtime payload id =
      renderTool? runtime toolName args id := by
    simp only [renderOpenSpan?, calls.isTool, named, calls.hasArgs,
      notAgentEmit, Option.bind_eq_bind, Option.bind_some, if_true, if_false]
  simp only [renderRunMime?, isObject_of_spanId isSpan, calls.noEvent,
    isSpan, calls.isOpen, Bool.not_true, Bool.false_eq_true, if_false]
  rw [span, tool]

/-! ### All other payloads -/

theorem genericBlock_safe (toolName args : JsString) :
    Safe (genericBlock toolName args) := by
  refine Safe.of_sealed ?_ rfl
  simp only [Sealed, skeleton, genericBlock, List.map, Fragment.piece,
    Markup.Piece.template?]
  repeat rw [js_ofList]
  rfl


theorem dumpBlock_safe (text : JsString) : Safe (dumpBlock text) := by
  refine Safe.of_sealed ?_ rfl
  simp only [Sealed, skeleton, dumpBlock, List.map, Fragment.piece,
    Markup.Piece.template?]
  repeat rw [js_ofList]
  rfl


theorem eventBlock_safe (name attributes : JsString) :
    Safe (eventBlock name attributes) := by
  refine Safe.of_sealed ?_ rfl
  simp only [Sealed, skeleton, eventBlock, List.map, Fragment.piece,
    Markup.Piece.template?]
  repeat rw [js_ofList]
  rfl


theorem closedBlock_safe (label : JsString) : Safe (closedBlock label) := by
  refine Safe.of_sealed ?_ rfl
  simp only [Sealed, skeleton, closedBlock, List.map, Fragment.piece,
    Markup.Piece.template?]
  repeat rw [js_ofList]
  rfl


theorem startBlock_safe (runType name : JsString) :
    Safe (startBlock runType name) := by
  refine Safe.of_sealed ?_ rfl
  simp only [Sealed, skeleton, startBlock, List.map, Fragment.piece,
    Markup.Piece.template?]
  repeat rw [js_ofList]
  rfl


/-- Every renderer of the table escapes what it interpolates. -/
theorem toolRenderers_safe (runtime : Runtime) (args : JsValue)
    (id : JsString) :
    ∀ entry ∈ TOOL_RENDERERS, SafeResult (entry.2 runtime args id) := by
  simp only [TOOL_RENDERERS, List.forall_mem_cons]
  exact ⟨renderNotify_safe _ _ _, renderRequestApproval_safe _ _ _,
    renderPropose_safe _ _ _, renderProposeEdit_safe _ _ _,
    renderReportProgress_safe _ _ _, renderReportCompletion_safe _ _ _,
    renderReportProblem_safe _ _ _, renderAsk_safe _ _ _,
    renderClarify_safe _ _ _, renderPresent_safe _ _ _,
    renderEscalate_safe _ _ _, renderReadFile_safe _ _ _,
    renderWriteFile_safe _ _ _, renderRunCommand_safe _ _ _,
    fun _ member => absurd member List.not_mem_nil⟩

theorem renderTool_safe {toolName : Option Json}
    (notConstructor : toolKey? toolName ≠ some (js "constructor"))
    (args : JsValue) (id : JsString) :
    SafeResult (renderTool? runtime toolName args id) := by
  intro fragments isRendered
  obtain ⟨key, isKey, ofKey⟩ := Option.bind_eq_some_iff.mp isRendered
  have different : key ≠ js "constructor" := fun equal =>
    notConstructor (equal ▸ isKey)
  split at ofKey
  · rename_i render found
    obtain ⟨before, after, inTable, _⟩ := List.lookup_eq_some_iff.mp found
    have member : (key, render) ∈ TOOL_RENDERERS := by
      rw [inTable]
      simp
    exact toolRenderers_safe runtime args id (key, render) member fragments
      ofKey
  · rw [if_neg different] at ofKey
    split at ofKey
    · cases ofKey
      constructor
      · rfl
      · intro text member
        have isText : text = js "[object Undefined]" := by
          simpa using member
        rw [isText]
        decide +kernel
    · split at ofKey
      · cases ofKey
      · have generic : SafeResult (do
            let name ← toolName.bind Json.asString?
            let text ← args.stringify? [] []
            pure (genericBlock name text)) := by
          apply SafeResult.bind
          intro name
          apply SafeResult.bind
          intro text
          exact SafeResult.pure (genericBlock_safe name text)
        exact generic fragments ofKey

theorem renderDump_safe (payload : Json) :
    SafeResult (renderDump? payload) := by
  apply SafeResult.bind
  intro text
  exact SafeResult.pure (dumpBlock_safe text)

theorem renderEvent_safe (event : Json) :
    SafeResult (renderEvent? event) := by
  apply SafeResult.bind
  intro evAttrs
  apply SafeResult.bind
  intro name
  apply SafeResult.bind
  intro text
  exact SafeResult.pure (eventBlock_safe name text)

/-- An open span injects nothing, unless it reaches `Object`. -/
theorem renderOpenSpan_safe {span : Json} {id : JsString}
    (noEvent : (span.member? (js "event")).filter Json.truthy = none)
    (isSpan : spanId? span = some id) (isOpen : isClosed? span = some false)
    (notCalled : ∀ args, ¬ CallsObject runtime span args) :
    SafeResult (renderOpenSpan? runtime span id) := by
  intro fragments isRendered
  obtain ⟨runType, ofAttributes, ofType⟩ :=
    Option.bind_eq_some_iff.mp isRendered
  split at ofType
  · exact renderAgentEmit_safe runtime _ id fragments ofType
  · obtain ⟨toolName, named, ofName⟩ := Option.bind_eq_some_iff.mp ofType
    split at ofName
    · rename_i isTool
      obtain ⟨args, hasArgs, ofArgs⟩ := Option.bind_eq_some_iff.mp ofName
      have notConstructor : toolKey? toolName ≠ some (js "constructor") := by
        intro isConstructor
        rw [isTool] at ofAttributes
        exact notCalled args
          ⟨noEvent, ⟨id, isSpan⟩, isOpen, ofAttributes,
            ⟨toolName, named, isConstructor⟩, hasArgs⟩
      exact renderTool_safe notConstructor args id fragments ofArgs
    · obtain ⟨name, _, ofStart⟩ := Option.bind_eq_some_iff.mp ofName
      cases ofStart
      exact startBlock_safe _ name

theorem renderRunMime_safe {payload : Json}
    (notCalled : ∀ args, ¬ CallsObject runtime payload args) :
    SafeResult (renderRunMime? runtime payload) := by
  unfold renderRunMime?
  split
  · exact renderDump_safe payload
  · split
    · exact renderEvent_safe _
    · rename_i noEvent
      split
      · exact renderDump_safe payload
      · rename_i id isSpan
        split
        · intro fragments isRendered
          cases isRendered
        · exact SafeResult.pure (closedBlock_safe _)
        · rename_i isOpen
          exact renderOpenSpan_safe noEvent isSpan isOpen notCalled

/-! ### The output item -/

theorem chip_safe (provenance : Option ProvenanceChipProps) :
    Safe (provenance.elim [] renderProvenanceChip) := by
  cases provenance with
  | none => exact Safe.nil
  | some props => exact renderProvenanceChip_safe props

/-- An OTLP attribute with a string value. -/
def stringAttribute (key value : JsString) : Json :=
  .object [(js "key", .string key),
    (js "value", .object [(js "stringValue", .string value)])]

/-- An output with an open span of a tool. -/
def toolItem (toolName inputValue : JsString) : OutputItem where
  payload := .object [(js "spanId", .string (js "1")),
    (js "name", .string (js "run")),
    (js "attributes", .array
      [stringAttribute (js "llmnb.run_type") (js "tool"),
        stringAttribute (js "tool.name") toolName,
        stringAttribute (js "input.value") inputValue])]
  metadata := none

def imageTag : JsString := js "<img src=x onerror=alert(1)>"

def imageList : JsString := js "[\"" ++ imageTag ++ js "\"]"

def imageObservation : JsString :=
  js "\x7b\"observation\":\"" ++ imageTag ++ js "\"\x7d"

/-- A webview without blobs, which parses two texts. -/
def imageRuntime : Runtime where
  jsonParse? := fun text =>
    [(imageList, Json.array [.string imageTag]),
      (imageObservation,
        Json.object [(js "observation", .string imageTag)])].lookup text
  blobs := { entry? := fun _ => none, sha256? := fun _ => some none }
  stamp := js "0-1"
  inheritedText? := fun _ _ => none
  arrayLike? := fun _ => none

end RtsNotebook.Renderers
