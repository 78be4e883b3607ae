import RtsNotebook.Renderers.Components.Reports

/-!
# Approval cards

`approval.ts`: the renderers of `request_approval`, `propose` and
`propose_edit`.
-/

namespace RtsNotebook.Renderers

open RtsNotebook.Js RtsNotebook.Library

-- A template is read code unit by code unit.
set_option maxRecDepth 20000

variable (runtime : Runtime)

/-! ### The shared card -/

/-- `riskAttr`, which becomes a part of an attribute's name. -/
inductive RiskAttr where
  | risk
  | scope
  deriving DecidableEq, Repr

def RiskAttr.name : RiskAttr → JsString
  | risk => js "risk"
  | scope => js "scope"

/-- What `buildCard` is called with. -/
structure CardOptions where
  toolName : JsString
  action : JsString
  rationale : JsString
  riskOrScope : JsString
  riskAttr : RiskAttr
  preview : Option JsValue
  alternatives : List JsValue
  runId : JsString

/-- `readDiffPreview`, and `readPreview` -/
def readPreview? (args : JsValue) (key : JsString) :
    Option (Option JsValue) := do
  let preview ← args.property? key
  pure (if preview.isObject then some preview else none)

/-- `readAlternatives` -/
def readAlternatives? (args : JsValue) : Option (List JsValue) := do
  let alternatives ← args.property? (js "alternatives")
  pure (alternatives.asArray?.getD [])

def previewPane (diffId body : JsString) : List Fragment :=
  [.literal (js "<pre class=\"rts-terminal-block\" id=\""),
    .attr diffId,
    .literal (js "\" hidden>"),
    .html body,
    .literal (js "</pre>")]

def previewBlock? (diffId : JsString) :
    Option JsValue → Option (List Fragment)
  | none => some []
  | some preview => do
      let body ← preview.property? (js "body")
      if body.truthy then do
        let text ← runtime.text? body
        pure (previewPane diffId text)
      else
        some []

def showDiff (diffId : JsString) (preview : Option JsValue) :
    List Fragment :=
  if preview.isNone then
    []
  else
    [.literal (js "<button type=\"button\" class=\"rts-button-secondary\" "),
      .literal (js "data-rts-toggle=\""),
      .attr diffId,
      .literal (js "\">Show diff</button>")]

def altsOpening (altsId : JsString) : List Fragment :=
  [.literal (js "<ul class=\"rts-artifact-list\" id=\""),
    .attr altsId,
    .literal (js "\" hidden>")]

def altLine (label description : JsString) : List Fragment :=
  [.literal (js "<li><strong>"),
    .html label,
    .literal (js "</strong>: "),
    .html description,
    .literal (js "</li>")]

def altLine? (alternative : JsValue) : Option (List Fragment) := do
  let label ← runtime.field? alternative (js "label") []
  let description ← runtime.field? alternative (js "description") []
  pure (altLine label description)

def altsBlock? (altsId : JsString) (alternatives : List JsValue) :
    Option (List Fragment) :=
  if alternatives = [] then
    some []
  else do
    let lines ← renderEach? (altLine? runtime) alternatives
    pure (altsOpening altsId ++ lines ++ listClosing)

def showAlts (altsId : JsString) (alternatives : List JsValue) :
    List Fragment :=
  if alternatives = [] then
    []
  else
    [.literal (js "<button type=\"button\" class=\"rts-button-secondary\" "),
      .literal (js "data-rts-toggle=\""),
      .attr altsId,
      .literal (js "\">Show alternatives ("),
      .raw (natDigits alternatives.length),
      .literal (js ")</button>")]

def cardHead (opts : CardOptions) (cardId : JsString) : List Fragment :=
  [.literal (js "\n<div class=\"rts-card rts-approval-card\" data-"),
    .literal opts.riskAttr.name,
    .literal (js "=\""),
    .attr opts.riskOrScope,
    .literal (js "\" id=\""),
    .attr cardId,
    .literal (js "\" data-rts-tool=\""),
    .attr opts.toolName,
    .literal (js "\" data-rts-run-id=\""),
    .attr opts.runId,
    .literal (js "\">\n  <div class=\"rts-card-title\">["),
    .html opts.toolName,
    .literal (js "] "),
    .html opts.action,
    .literal (js "<span class=\"rts-risk-badge\">"),
    .html opts.riskOrScope,
    .literal (js "</span></div>\n  <div class=\"rts-card-body\">"),
    .html opts.rationale,
    .literal (js "</div>\n  ")]

def cardButtons (runId : JsString) : List Fragment :=
  [.literal (js "\n  <div class=\"rts-button-row\">\n    <button "),
    .literal (js "type=\"button\" class=\"rts-button-approve\" "),
    .literal (js "data-rts-action=\"approval_response\" "),
    .literal (js "data-rts-decision=\"approve\" data-rts-run-id=\""),
    .attr runId,
    .literal (js "\">Approve</button>\n    <button type=\"button\" "),
    .literal (js "class=\"rts-button-reject\" "),
    .literal (js "data-rts-action=\"approval_response\" "),
    .literal (js "data-rts-decision=\"reject\" data-rts-run-id=\""),
    .attr runId,
    .literal (js "\">Reject</button>\n    ")]

def cardGap : List Fragment :=
  [.literal (js "\n    ")]

def cardFoot : List Fragment :=
  [.literal (js "\n  </div>\n  ")]

def cardClosing : List Fragment :=
  [.literal (js "\n</div>")]

/-- `buildCard` -/
def buildCard? (opts : CardOptions) : Option (List Fragment) := do
  let cardId := runtime.nextId opts.toolName
  let altsId := cardId ++ js "-alts"
  let diffId := cardId ++ js "-diff"
  let previewBlock ← previewBlock? runtime diffId opts.preview
  let altsBlock ← altsBlock? runtime altsId opts.alternatives
  pure (cardHead opts cardId ++ previewBlock ++ cardButtons opts.runId ++
    showDiff diffId opts.preview ++ cardGap ++
    showAlts altsId opts.alternatives ++ cardFoot ++ altsBlock ++ cardClosing)

/-- `renderRequestApproval` -/
def renderRequestApproval? (args : JsValue) (runId : JsString) :
    Option (List Fragment) := do
  let action ← runtime.field? args (js "action") []
  let given ← args.property? (js "rationale")
  let description ← args.property? (js "description")
  let rationale ←
    runtime.textOr? (if given.isNullish then description else given) []
  let risk ← runtime.field? args (js "risk_level") (js "medium")
  let preview ← readPreview? args (js "diff_preview")
  let alternatives ← readAlternatives? args
  buildCard? runtime
    { toolName := js "request_approval"
      action := action
      rationale := rationale
      riskOrScope := risk
      riskAttr := .risk
      preview := preview
      alternatives := alternatives
      runId := runId }

/-- `renderPropose` -/
def renderPropose? (args : JsValue) (runId : JsString) :
    Option (List Fragment) := do
  let action ← runtime.field? args (js "action") []
  let rationale ← runtime.field? args (js "rationale") []
  let scope ← runtime.field? args (js "scope") (js "one_shot")
  let preview ← readPreview? args (js "preview")
  buildCard? runtime
    { toolName := js "propose"
      action := action
      rationale := rationale
      riskOrScope := scope
      riskAttr := .scope
      preview := preview
      alternatives := []
      runId := runId }

theorem previewPane_safe (diffId body : JsString) :
    Safe (previewPane diffId body) := by
  refine Safe.of_sealed ?_ rfl
  simp only [Sealed, skeleton, previewPane, List.map, Fragment.piece,
    Markup.Piece.template?]
  repeat rw [js_ofList]
  rfl


theorem previewBlock_safe (diffId : JsString) (preview : Option JsValue) :
    SafeResult (previewBlock? runtime diffId preview) := by
  cases preview with
  | none => exact SafeResult.pure Safe.nil
  | some preview =>
      apply SafeResult.bind
      intro body
      split
      · apply SafeResult.bind
        intro text
        exact SafeResult.pure (previewPane_safe diffId text)
      · exact SafeResult.pure Safe.nil

theorem showDiff_safe (diffId : JsString) (preview : Option JsValue) :
    Safe (showDiff diffId preview) := by
  unfold showDiff
  refine Safe.ite Safe.nil (Safe.of_sealed ?_ rfl)
  simp only [Sealed, skeleton, List.map, Fragment.piece,
    Markup.Piece.template?]
  repeat rw [js_ofList]
  rfl


theorem altsOpening_safe (altsId : JsString) : Safe (altsOpening altsId) := by
  refine Safe.of_sealed ?_ rfl
  simp only [Sealed, skeleton, altsOpening, List.map, Fragment.piece,
    Markup.Piece.template?]
  repeat rw [js_ofList]
  rfl


theorem altLine_safe (label description : JsString) :
    Safe (altLine label description) := by
  refine Safe.of_sealed ?_ rfl
  simp only [Sealed, skeleton, altLine, List.map, Fragment.piece,
    Markup.Piece.template?]
  repeat rw [js_ofList]
  rfl


theorem altsBlock_safe (altsId : JsString) (alternatives : List JsValue) :
    SafeResult (altsBlock? runtime altsId alternatives) := by
  unfold altsBlock?
  split
  · exact SafeResult.pure Safe.nil
  · apply SafeResult.around
    · apply SafeResult.each
      intro alternative
      apply SafeResult.bind
      intro label
      apply SafeResult.bind
      intro description
      exact SafeResult.pure (altLine_safe label description)
    · intro lines safeLines
      apply SafeResult.pure
      exact ((altsOpening_safe altsId).append safeLines).append
        listClosing_safe

theorem showAlts_safe (altsId : JsString) (alternatives : List JsValue) :
    Safe (showAlts altsId alternatives) := by
  unfold showAlts
  refine Safe.ite Safe.nil ?_
  constructor
  · simp only [Sealed, skeleton, List.map, Fragment.piece,
      Markup.Piece.template?]
    repeat rw [js_ofList]
    rfl
  · intro text member
    have isCount : text = natDigits alternatives.length := by
      simpa using member
    rw [isCount]
    exact (Plain.natDigits _).escapeHtml_eq

theorem cardHead_safe (opts : CardOptions) (cardId : JsString) :
    Safe (cardHead opts cardId) := by
  refine Safe.of_sealed ?_ rfl
  simp only [Sealed, skeleton, cardHead, List.map, Fragment.piece,
    Markup.Piece.template?]
  cases opts.riskAttr with
  | risk =>
      simp only [RiskAttr.name]
      repeat rw [js_ofList]
      rfl
  | scope =>
      simp only [RiskAttr.name]
      repeat rw [js_ofList]
      rfl

theorem cardButtons_safe (runId : JsString) : Safe (cardButtons runId) := by
  refine Safe.of_sealed ?_ rfl
  simp only [Sealed, skeleton, cardButtons, List.map, Fragment.piece,
    Markup.Piece.template?]
  repeat rw [js_ofList]
  rfl


theorem cardGap_safe : Safe cardGap := by
  refine Safe.of_sealed ?_ rfl
  simp only [Sealed, skeleton, cardGap, List.map, Fragment.piece,
    Markup.Piece.template?]
  repeat rw [js_ofList]
  rfl


theorem cardFoot_safe : Safe cardFoot := by
  refine Safe.of_sealed ?_ rfl
  simp only [Sealed, skeleton, cardFoot, List.map, Fragment.piece,
    Markup.Piece.template?]
  repeat rw [js_ofList]
  rfl


theorem cardClosing_safe : Safe cardClosing := by
  refine Safe.of_sealed ?_ rfl
  simp only [Sealed, skeleton, cardClosing, List.map, Fragment.piece,
    Markup.Piece.template?]
  repeat rw [js_ofList]
  rfl


theorem buildCard_safe (opts : CardOptions) :
    SafeResult (buildCard? runtime opts) := by
  have head := cardHead_safe opts (runtime.nextId opts.toolName)
  have buttons := cardButtons_safe opts.runId
  have diff := fun diffId => showDiff_safe diffId opts.preview
  have alts := fun altsId => showAlts_safe altsId opts.alternatives
  apply SafeResult.around (previewBlock_safe runtime _ opts.preview)
  intro previewBlock safePreview
  apply SafeResult.around (altsBlock_safe runtime _ opts.alternatives)
  intro altsBlock safeAlts
  apply SafeResult.pure
  apply Safe.append _ cardClosing_safe
  apply Safe.append _ safeAlts
  apply Safe.append _ cardFoot_safe
  apply Safe.append _ (alts _)
  apply Safe.append _ cardGap_safe
  apply Safe.append _ (diff _)
  exact (head.append safePreview).append buttons

theorem renderRequestApproval_safe (args : JsValue) (runId : JsString) :
    SafeResult (renderRequestApproval? runtime args runId) := by
  apply SafeResult.bind
  intro action
  apply SafeResult.bind
  intro given
  apply SafeResult.bind
  intro description
  apply SafeResult.bind
  intro rationale
  apply SafeResult.bind
  intro risk
  apply SafeResult.bind
  intro preview
  apply SafeResult.bind
  intro alternatives
  exact buildCard_safe runtime _

theorem renderPropose_safe (args : JsValue) (runId : JsString) :
    SafeResult (renderPropose? runtime args runId) := by
  apply SafeResult.bind
  intro action
  apply SafeResult.bind
  intro rationale
  apply SafeResult.bind
  intro scope
  apply SafeResult.bind
  intro preview
  exact buildCard_safe runtime _

/-! ### `propose_edit` -/

/-- The texts that the card of `propose_edit` shows. -/
structure EditOptions where
  cardId : JsString
  path : JsString
  proposedContent : JsString
  approvalId : JsString
  summary : JsString
  decisionRecorded : Bool
  runId : JsString

namespace EditOptions

variable (opts : EditOptions)

def proposedFieldId : JsString :=
  opts.cardId ++ js "-proposed"

/-- The opening tag, up to its last attribute. -/
def tagOpening : List Fragment :=
  [.literal (js "\n<div class=\"rts-card rts-approval-card "),
    .literal (js "rts-propose-edit\" data-scope=\"propose_edit\" id=\""),
    .attr opts.cardId,
    .literal (js "\" data-rts-tool=\"propose_edit\" data-rts-run-id=\""),
    .attr opts.runId,
    .literal (js "\" data-rts-approval-id=\""),
    .attr opts.approvalId,
    .literal (js "\"")]

def recordedAttribute : List Fragment :=
  if opts.decisionRecorded then
    [.literal (js " data-rts-decision-recorded=\"true\"")]
  else
    []

def body : List Fragment :=
  [.literal (js ">\n  <div class=\"rts-card-title\">[propose_edit] <span "),
    .literal (js "class=\"rts-mono\">"),
    .html opts.path,
    .literal (js "</span></div>\n  <div class=\"rts-card-body\">"),
    .html opts.summary,
    .literal (js "</div>\n  <textarea class=\"rts-propose-edit-payload\" "),
    .literal (js "id=\""),
    .attr opts.proposedFieldId,
    .literal (js "\" hidden readonly>"),
    .html opts.proposedContent,
    .literal (js "</textarea>\n  <input type=\"hidden\" "),
    .literal (js "data-rts-proposed=\"true\" value=\""),
    .attr opts.proposedContent,
    .literal (js "\" />\n  ")]

def buttonsBlock : List Fragment :=
  if opts.decisionRecorded then
    [.literal (js "<div class=\"rts-card-body rts-mono\">decision "),
      .literal (js "recorded.</div>")]
  else
    [.literal (js "\n  <div class=\"rts-button-row\">\n    <button "),
      .literal (js "type=\"button\" class=\"rts-button-secondary\" "),
      .literal (js "data-rts-action=\"propose_edit_review\" "),
      .literal (js "data-rts-path=\""),
      .attr opts.path,
      .literal (js "\" data-rts-approval-id=\""),
      .attr opts.approvalId,
      .literal (js "\" data-rts-input-id=\""),
      .attr opts.proposedFieldId,
      .literal (js "\">Review diff</button>\n    <button type=\"button\" "),
      .literal (js "class=\"rts-button-approve\" "),
      .literal (js "data-rts-action=\"approval_response\" "),
      .literal (js "data-rts-decision=\"approve\" data-rts-run-id=\""),
      .attr opts.runId,
      .literal (js "\" data-rts-approval-id=\""),
      .attr opts.approvalId,
      .literal (js "\">Approve</button>\n    <button type=\"button\" "),
      .literal (js "class=\"rts-button-reject\" "),
      .literal (js "data-rts-action=\"approval_response\" "),
      .literal (js "data-rts-decision=\"reject\" data-rts-run-id=\""),
      .attr opts.runId,
      .literal (js "\" data-rts-approval-id=\""),
      .attr opts.approvalId,
      .literal (js "\">Reject</button>\n  </div>")]

/-- The card up to its buttons. -/
def head : List Fragment :=
  opts.tagOpening ++ opts.recordedAttribute ++ opts.body

theorem head_safe : Safe opts.head := by
  unfold head recordedAttribute
  split
  · refine Safe.of_sealed ?_ rfl
    simp only [Sealed, skeleton, tagOpening, body, List.cons_append,
      List.nil_append, List.map, Fragment.piece, Markup.Piece.template?]
    repeat rw [js_ofList]
    rfl
  · refine Safe.of_sealed ?_ rfl
    simp only [Sealed, skeleton, tagOpening, body, List.append_nil,
      List.cons_append, List.nil_append, List.map, Fragment.piece,
      Markup.Piece.template?]
    repeat rw [js_ofList]
    rfl

theorem buttonsBlock_safe : Safe opts.buttonsBlock := by
  apply Safe.ite
  · refine Safe.of_sealed ?_ rfl
    simp only [Sealed, skeleton, List.map, Fragment.piece,
      Markup.Piece.template?]
    repeat rw [js_ofList]
    rfl
  · refine Safe.of_sealed ?_ rfl
    simp only [Sealed, skeleton, List.map, Fragment.piece,
      Markup.Piece.template?]
    repeat rw [js_ofList]
    rfl

end EditOptions

/-- `renderProposeEdit` -/
def renderProposeEdit? (args : JsValue) (runId : JsString) :
    Option (List Fragment) := do
  let path ← runtime.field? args (js "path") []
  let proposedContent ← runtime.field? args (js "proposed_content") []
  let approvalId ← runtime.field? args (js "approval_id") runId
  let summary ← runtime.field? args (js "summary") path
  let recorded ← args.property? (js "decision_recorded")
  let opts : EditOptions :=
    { cardId := runtime.nextId (js "propose_edit")
      path := path
      proposedContent := proposedContent
      approvalId := approvalId
      summary := summary
      decisionRecorded := recorded.isTrue
      runId := runId }
  pure (opts.head ++ opts.buttonsBlock ++ cardClosing)

theorem renderProposeEdit_safe (args : JsValue) (runId : JsString) :
    SafeResult (renderProposeEdit? runtime args runId) := by
  apply SafeResult.bind
  intro path
  apply SafeResult.bind
  intro proposedContent
  apply SafeResult.bind
  intro approvalId
  apply SafeResult.bind
  intro summary
  apply SafeResult.bind
  intro recorded
  apply SafeResult.pure
  exact ((EditOptions.head_safe _).append
    (EditOptions.buttonsBlock_safe _)).append cardClosing_safe

end RtsNotebook.Renderers
