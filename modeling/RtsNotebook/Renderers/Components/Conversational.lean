import RtsNotebook.Renderers.Components.Approval

/-!
# Conversational tools

`conversational.ts`: the renderers of `ask`, `clarify`, `present` and
`escalate`.
-/

namespace RtsNotebook.Renderers

open RtsNotebook.Js RtsNotebook.Library

-- A template is read code unit by code unit.
set_option maxRecDepth 20000

variable (runtime : Runtime)

/-! ### `ask` -/

def askHead (id runId question : JsString) : List Fragment :=
  [.literal (js "\n<div class=\"rts-card rts-ask\" id=\""),
    .attr id,
    .literal (js "\" data-rts-tool=\"ask\" data-rts-run-id=\""),
    .attr runId,
    .literal (js "\">\n  <div class=\"rts-card-title\">"),
    .html question,
    .literal (js "</div>\n  ")]

def askContext (context : JsString) : List Fragment :=
  if context = [] then
    []
  else
    [.literal (js "<div class=\"rts-card-body\"><em>"),
      .html context,
      .literal (js "</em></div>")]

def askAnswer (id inputId runId : JsString) : List Fragment :=
  [.literal (js "\n  <textarea class=\"rts-textarea\" id=\""),
    .attr inputId,
    .literal (js "\" rows=\"3\" data-rts-input-for=\""),
    .attr id,
    .literal (js "\" placeholder=\"Type your answer…\"></textarea>\n  <div "),
    .literal (js "class=\"rts-button-row\">\n    <button type=\"button\" "),
    .literal (js "class=\"rts-button-approve\" "),
    .literal (js "data-rts-action=\"ask_response\" data-rts-run-id=\""),
    .attr runId,
    .literal (js "\" data-rts-input-id=\""),
    .attr inputId,
    .literal (js "\">Submit</button>\n  </div>\n</div>")]

/-- `renderAsk` -/
def renderAsk? (args : JsValue) (runId : JsString) :
    Option (List Fragment) := do
  let id := runtime.nextId (js "ask")
  let inputId := id ++ js "-answer"
  let question ← runtime.field? args (js "question") []
  let context ← runtime.field? args (js "context") []
  pure (askHead id runId question ++ askContext context ++
    askAnswer id inputId runId)

theorem askHead_safe (id runId question : JsString) :
    Safe (askHead id runId question) := by
  refine Safe.of_sealed ?_ rfl
  simp only [Sealed, skeleton, askHead, List.map, Fragment.piece,
    Markup.Piece.template?]
  repeat rw [js_ofList]
  rfl


theorem askContext_safe (context : JsString) : Safe (askContext context) := by
  unfold askContext
  refine Safe.ite Safe.nil (Safe.of_sealed ?_ rfl)
  simp only [Sealed, skeleton, List.map, Fragment.piece,
    Markup.Piece.template?]
  repeat rw [js_ofList]
  rfl


theorem askAnswer_safe (id inputId runId : JsString) :
    Safe (askAnswer id inputId runId) := by
  refine Safe.of_sealed ?_ rfl
  simp only [Sealed, skeleton, askAnswer, List.map, Fragment.piece,
    Markup.Piece.template?]
  repeat rw [js_ofList]
  rfl


theorem renderAsk_safe (args : JsValue) (runId : JsString) :
    SafeResult (renderAsk? runtime args runId) := by
  apply SafeResult.bind
  intro question
  apply SafeResult.bind
  intro context
  apply SafeResult.pure
  have head := askHead_safe (runtime.nextId (js "ask")) runId question
  exact (head.append (askContext_safe context)).append (askAnswer_safe _ _ _)

/-! ### `clarify` -/

/-- The radio button of an option, with its label. -/
def optionLabel (groupName optId label : JsString) (checked : Bool) :
    List Fragment :=
  [.literal (js "<li><label><input type=\"radio\" name=\""),
    .attr groupName,
    .literal (js "\" value=\""),
    .attr optId,
    .literal (js "\""),
    .literal (if checked then js " checked" else []),
    .literal (js "> "),
    .html label,
    .literal (js "</label>")]

def optionDescription (desc : JsString) : List Fragment :=
  if desc = [] then
    []
  else
    [.literal (js " <span class=\"rts-card-body\">"),
      .html desc,
      .literal (js "</span>")]

def itemClosing : List Fragment :=
  [.literal (js "</li>")]

def optionItem? (groupName defaultId : JsString) (opt : JsValue) :
    Option (List Fragment) := do
  let optId ← runtime.field? opt (js "id") []
  let label ← runtime.field? opt (js "label") optId
  let desc ← runtime.field? opt (js "description") []
  let checked := decide (optId = defaultId)
  pure (optionLabel groupName optId label checked ++
    optionDescription desc ++ itemClosing)

def clarifyHead (id runId question : JsString) : List Fragment :=
  [.literal (js "\n<div class=\"rts-card rts-clarify\" id=\""),
    .attr id,
    .literal (js "\" data-rts-tool=\"clarify\" data-rts-run-id=\""),
    .attr runId,
    .literal (js "\">\n  <div class=\"rts-card-title\">"),
    .html question,
    .literal (js "</div>\n  <ul class=\"rts-radio-list\">")]

def clarifyFoot (runId groupName : JsString) : List Fragment :=
  [.literal (js "</ul>\n  <div class=\"rts-button-row\">\n    <button "),
    .literal (js "type=\"button\" class=\"rts-button-approve\" "),
    .literal (js "data-rts-action=\"clarify_response\" data-rts-run-id=\""),
    .attr runId,
    .literal (js "\" data-rts-radio-name=\""),
    .attr groupName,
    .literal (js "\">Submit</button>\n  </div>\n</div>")]

/-- `renderClarify` -/
def renderClarify? (args : JsValue) (runId : JsString) :
    Option (List Fragment) := do
  let id := runtime.nextId (js "clarify")
  let groupName := id ++ js "-opt"
  let question ← runtime.field? args (js "question") []
  let defaultId ← runtime.field? args (js "default_id") []
  let options ← args.property? (js "options")
  let items ← renderEach? (optionItem? runtime groupName defaultId)
    (options.asArray?.getD [])
  pure (clarifyHead id runId question ++ items ++ clarifyFoot runId groupName)

theorem optionLabel_safe (groupName optId label : JsString)
    (checked : Bool) :
    Safe (optionLabel groupName optId label checked) := by
  refine Safe.of_sealed ?_ rfl
  simp only [Sealed, skeleton, optionLabel, List.map, Fragment.piece,
    Markup.Piece.template?]
  repeat rw [js_ofList]
  cases checked <;> rfl

theorem optionDescription_safe (desc : JsString) :
    Safe (optionDescription desc) := by
  unfold optionDescription
  refine Safe.ite Safe.nil (Safe.of_sealed ?_ rfl)
  simp only [Sealed, skeleton, List.map, Fragment.piece,
    Markup.Piece.template?]
  repeat rw [js_ofList]
  rfl


theorem itemClosing_safe : Safe itemClosing := by
  refine Safe.of_sealed ?_ rfl
  simp only [Sealed, skeleton, itemClosing, List.map, Fragment.piece,
    Markup.Piece.template?]
  repeat rw [js_ofList]
  rfl


theorem optionItem_safe (groupName defaultId : JsString) (opt : JsValue) :
    SafeResult (optionItem? runtime groupName defaultId opt) := by
  apply SafeResult.bind
  intro optId
  apply SafeResult.bind
  intro label
  apply SafeResult.bind
  intro desc
  apply SafeResult.pure
  have shown := optionLabel_safe groupName optId label
    (decide (optId = defaultId))
  exact (shown.append (optionDescription_safe desc)).append itemClosing_safe

theorem clarifyHead_safe (id runId question : JsString) :
    Safe (clarifyHead id runId question) := by
  refine Safe.of_sealed ?_ rfl
  simp only [Sealed, skeleton, clarifyHead, List.map, Fragment.piece,
    Markup.Piece.template?]
  repeat rw [js_ofList]
  rfl


theorem clarifyFoot_safe (runId groupName : JsString) :
    Safe (clarifyFoot runId groupName) := by
  refine Safe.of_sealed ?_ rfl
  simp only [Sealed, skeleton, clarifyFoot, List.map, Fragment.piece,
    Markup.Piece.template?]
  repeat rw [js_ofList]
  rfl


theorem renderClarify_safe (args : JsValue) (runId : JsString) :
    SafeResult (renderClarify? runtime args runId) := by
  apply SafeResult.bind
  intro question
  apply SafeResult.bind
  intro defaultId
  apply SafeResult.bind
  intro options
  apply SafeResult.around
    (SafeResult.each (optionItem_safe runtime _ defaultId) _)
  intro items safeItems
  apply SafeResult.pure
  have head := clarifyHead_safe (runtime.nextId (js "clarify")) runId question
  exact (head.append safeItems).append (clarifyFoot_safe runId _)

/-! ### `present` -/

def presentHead (id runId kind summary : JsString) : List Fragment :=
  [.literal (js "\n<div class=\"rts-card rts-present\" id=\""),
    .attr id,
    .literal (js "\" data-rts-tool=\"present\" data-rts-run-id=\""),
    .attr runId,
    .literal (js "\">\n  <div class=\"rts-card-title\">[present:"),
    .html kind,
    .literal (js "] "),
    .html summary,
    .literal (js "</div>\n  ")]

def presentLanguage (language : JsString) : List Fragment :=
  if language = [] then
    []
  else
    [.literal (js " ("),
      .html language,
      .literal (js ")")]

def presentPath (uri : JsString) : List Fragment :=
  [.literal (js "<div class=\"rts-card-body\"><span class=\"rts-mono\">"),
    .html uri,
    .literal (js "</span>")]

def presentUri (uri language : JsString) : List Fragment :=
  if uri = [] then
    []
  else
    presentPath uri ++ presentLanguage language ++ divClosing

def presentFoot (runId kind uri : JsString) : List Fragment :=
  [.literal (js "\n  <div class=\"rts-button-row\">\n    <button "),
    .literal (js "type=\"button\" class=\"rts-button-secondary\" "),
    .literal (js "data-rts-action=\"present_show\" data-rts-run-id=\""),
    .attr runId,
    .literal (js "\" data-rts-artifact-kind=\""),
    .attr kind,
    .literal (js "\" data-rts-artifact-uri=\""),
    .attr uri,
    .literal (js "\">Show artifact</button>\n  </div>\n</div>")]

/-- `renderPresent` -/
def renderPresent? (args : JsValue) (runId : JsString) :
    Option (List Fragment) := do
  let id := runtime.nextId (js "present")
  let kind ← runtime.field? args (js "kind") []
  let summary ← runtime.field? args (js "summary") []
  let given ← args.property? (js "artifact")
  let artifact : JsValue := if given.isObject then given else .object []
  let uri ← runtime.field? artifact (js "uri") []
  let language ← runtime.field? artifact (js "language") []
  pure (presentHead id runId kind summary ++ presentUri uri language ++
    presentFoot runId kind uri)

theorem presentHead_safe (id runId kind summary : JsString) :
    Safe (presentHead id runId kind summary) := by
  refine Safe.of_sealed ?_ rfl
  simp only [Sealed, skeleton, presentHead, List.map, Fragment.piece,
    Markup.Piece.template?]
  repeat rw [js_ofList]
  rfl


theorem presentLanguage_safe (language : JsString) :
    Safe (presentLanguage language) := by
  unfold presentLanguage
  refine Safe.ite Safe.nil (Safe.of_sealed ?_ rfl)
  simp only [Sealed, skeleton, List.map, Fragment.piece,
    Markup.Piece.template?]
  repeat rw [js_ofList]
  rfl


theorem presentPath_safe (uri : JsString) : Safe (presentPath uri) := by
  refine Safe.of_sealed ?_ rfl
  simp only [Sealed, skeleton, presentPath, List.map, Fragment.piece,
    Markup.Piece.template?]
  repeat rw [js_ofList]
  rfl


theorem presentUri_safe (uri language : JsString) :
    Safe (presentUri uri language) := by
  apply Safe.ite Safe.nil
  exact ((presentPath_safe uri).append (presentLanguage_safe language)).append
    divClosing_safe

theorem presentFoot_safe (runId kind uri : JsString) :
    Safe (presentFoot runId kind uri) := by
  refine Safe.of_sealed ?_ rfl
  simp only [Sealed, skeleton, presentFoot, List.map, Fragment.piece,
    Markup.Piece.template?]
  repeat rw [js_ofList]
  rfl


theorem renderPresent_safe (args : JsValue) (runId : JsString) :
    SafeResult (renderPresent? runtime args runId) := by
  apply SafeResult.bind
  intro kind
  apply SafeResult.bind
  intro summary
  apply SafeResult.bind
  intro given
  apply SafeResult.bind
  intro uri
  apply SafeResult.bind
  intro language
  apply SafeResult.pure
  have head :=
    presentHead_safe (runtime.nextId (js "present")) runId kind summary
  exact (head.append (presentUri_safe uri language)).append
    (presentFoot_safe runId kind uri)

/-! ### `escalate` -/

def escalateHead (id runId severity reason : JsString) : List Fragment :=
  [.literal (js "\n<div class=\"rts-card rts-escalate-banner\" id=\""),
    .attr id,
    .literal (js "\" data-rts-tool=\"escalate\" data-rts-run-id=\""),
    .attr runId,
    .literal (js "\" data-severity=\""),
    .attr severity,
    .literal (js "\">\n  <div class=\"rts-card-title\"><span "),
    .literal (js "class=\"rts-severity-badge\" data-severity=\""),
    .attr (if severity = js "critical" then js "fatal" else js "error"),
    .literal (js "\">"),
    .html severity,
    .literal (js "</span>[ESCALATE] "),
    .html reason,
    .literal (js "</div>\n  ")]

def escalateContext (context : JsString) : List Fragment :=
  if context = [] then
    []
  else
    [.literal (js "<div class=\"rts-card-body\">"),
      .html context,
      .literal (js "</div>")]

def escalateFoot (runId : JsString) : List Fragment :=
  [.literal (js "\n  <div class=\"rts-button-row\">\n    <button "),
    .literal (js "type=\"button\" class=\"rts-button-approve\" "),
    .literal (js "data-rts-action=\"dismiss_notification\" "),
    .literal (js "data-rts-run-id=\""),
    .attr runId,
    .literal (js "\">Acknowledge</button>\n  </div>\n</div>")]

/-- `renderEscalate` -/
def renderEscalate? (args : JsValue) (runId : JsString) :
    Option (List Fragment) := do
  let id := runtime.nextId (js "escalate")
  let reason ← runtime.field? args (js "reason") []
  let severity ← runtime.field? args (js "severity") (js "medium")
  let context ← runtime.field? args (js "context") []
  pure (escalateHead id runId severity reason ++ escalateContext context ++
    escalateFoot runId)

theorem escalateHead_safe (id runId severity reason : JsString) :
    Safe (escalateHead id runId severity reason) := by
  refine Safe.of_sealed ?_ rfl
  simp only [Sealed, skeleton, escalateHead, List.map, Fragment.piece,
    Markup.Piece.template?]
  repeat rw [js_ofList]
  rfl


theorem escalateContext_safe (context : JsString) :
    Safe (escalateContext context) := by
  unfold escalateContext
  refine Safe.ite Safe.nil (Safe.of_sealed ?_ rfl)
  simp only [Sealed, skeleton, List.map, Fragment.piece,
    Markup.Piece.template?]
  repeat rw [js_ofList]
  rfl


theorem escalateFoot_safe (runId : JsString) : Safe (escalateFoot runId) := by
  refine Safe.of_sealed ?_ rfl
  simp only [Sealed, skeleton, escalateFoot, List.map, Fragment.piece,
    Markup.Piece.template?]
  repeat rw [js_ofList]
  rfl


theorem renderEscalate_safe (args : JsValue) (runId : JsString) :
    SafeResult (renderEscalate? runtime args runId) := by
  apply SafeResult.bind
  intro reason
  apply SafeResult.bind
  intro severity
  apply SafeResult.bind
  intro context
  apply SafeResult.pure
  have head :=
    escalateHead_safe (runtime.nextId (js "escalate")) runId severity reason
  exact (head.append (escalateContext_safe context)).append
    (escalateFoot_safe runId)

end RtsNotebook.Renderers
