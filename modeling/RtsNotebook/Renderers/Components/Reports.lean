import RtsNotebook.Renderers.Arguments

/-!
# Notifications and reports

`notify.ts` and `progress.ts`: the renderers of `notify`, `report_progress`,
`report_completion` and `report_problem`.
-/

namespace RtsNotebook.Renderers

open RtsNotebook.Js RtsNotebook.Library

-- A template is read code unit by code unit.
set_option maxRecDepth 20000

variable (runtime : Runtime)

/-! ### `notify` -/

/-- `normImportance` -/
def normImportance? (value : JsValue) : Option JsString := do
  let text ← runtime.textOr? value []
  pure (if text ∈ [js "trace", js "info", js "warn"] then text else [])

def notifyOpening : List Fragment :=
  [.literal (js "<div class=\"rts-card rts-notify\">")]

def notifyBadge (imp : JsString) : List Fragment :=
  if imp = [] then
    []
  else
    [.literal (js "<span class=\"rts-importance-badge\" "),
      .literal (js "data-importance=\""),
      .attr imp,
      .literal (js "\">"),
      .html imp,
      .literal (js "</span>")]

def notifyBody (obs imp : JsString) : List Fragment :=
  [.literal (js "<span class=\"rts-card-body\">[NOTIFY] "),
    .html obs,
    .literal (js " &mdash; importance: "),
    .html imp,
    .literal (js "</span></div>")]

/-- `renderNotify` -/
def renderNotify? (args : JsValue) (_runId : JsString) :
    Option (List Fragment) := do
  let obs ← runtime.field? args (js "observation") []
  let importance ← args.property? (js "importance")
  let imp ← normImportance? runtime importance
  pure (notifyOpening ++ notifyBadge imp ++ notifyBody obs imp)

theorem notifyOpening_safe : Safe notifyOpening := by
  refine Safe.of_sealed ?_ rfl
  simp only [Sealed, skeleton, notifyOpening, List.map, Fragment.piece,
    Markup.Piece.template?]
  repeat rw [js_ofList]
  rfl


theorem notifyBadge_safe (imp : JsString) : Safe (notifyBadge imp) := by
  unfold notifyBadge
  refine Safe.ite Safe.nil (Safe.of_sealed ?_ rfl)
  simp only [Sealed, skeleton, List.map, Fragment.piece,
    Markup.Piece.template?]
  repeat rw [js_ofList]
  rfl


theorem notifyBody_safe (obs imp : JsString) : Safe (notifyBody obs imp) := by
  refine Safe.of_sealed ?_ rfl
  simp only [Sealed, skeleton, notifyBody, List.map, Fragment.piece,
    Markup.Piece.template?]
  repeat rw [js_ofList]
  rfl


theorem renderNotify_safe (args : JsValue) (runId : JsString) :
    SafeResult (renderNotify? runtime args runId) := by
  apply SafeResult.bind
  intro obs
  apply SafeResult.bind
  intro importance
  apply SafeResult.bind
  intro imp
  apply SafeResult.pure
  exact (notifyOpening_safe.append (notifyBadge_safe imp)).append
    (notifyBody_safe obs imp)

/-! ### Lists of artifacts -/

def artifactOpening : List Fragment :=
  [.literal (js "<ul class=\"rts-artifact-list\">")]

def listClosing : List Fragment :=
  [.literal (js "</ul>")]

def textLine (text : JsString) : List Fragment :=
  [.literal (js "<li>"),
    .html text,
    .literal (js "</li>")]

/-- A list of texts, where there are any. -/
def artifactList? (items : List JsValue) : Option (List Fragment) :=
  if items = [] then
    some []
  else do
    let lines ← renderEach? (fun item => do
      let text ← runtime.text? item
      pure (textLine text)) items
    pure (artifactOpening ++ lines ++ listClosing)

theorem artifactOpening_safe : Safe artifactOpening := by
  refine Safe.of_sealed ?_ rfl
  simp only [Sealed, skeleton, artifactOpening, List.map, Fragment.piece,
    Markup.Piece.template?]
  repeat rw [js_ofList]
  rfl


theorem listClosing_safe : Safe listClosing := by
  refine Safe.of_sealed ?_ rfl
  simp only [Sealed, skeleton, listClosing, List.map, Fragment.piece,
    Markup.Piece.template?]
  repeat rw [js_ofList]
  rfl


theorem textLine_safe (text : JsString) : Safe (textLine text) := by
  refine Safe.of_sealed ?_ rfl
  simp only [Sealed, skeleton, textLine, List.map, Fragment.piece,
    Markup.Piece.template?]
  repeat rw [js_ofList]
  rfl


theorem artifactList_safe (items : List JsValue) :
    SafeResult (artifactList? runtime items) := by
  unfold artifactList?
  split
  · exact SafeResult.pure Safe.nil
  · apply SafeResult.around
    · apply SafeResult.each
      intro item
      apply SafeResult.bind
      intro text
      exact SafeResult.pure (textLine_safe text)
    · intro lines safeLines
      apply SafeResult.pure
      exact (artifactOpening_safe.append safeLines).append listClosing_safe

/-! ### `report_progress` -/

/-- `Math.max(0, Math.min(100, percentRaw))` -/
def clampPercent : JsNumber → JsNumber
  | .nan => .nan
  | .infinity negative =>
      if negative then .finite .zero else .finite (.normalize false 100 0)
  | .finite decimal =>
      if decimal.exceeds 100 then .finite (.normalize false 100 0)
      else if decimal.negative then .finite .zero
      else .finite decimal

/-- `percentRaw`, where it is a number, in its bounds. -/
def percent? : JsValue → Option JsNumber
  | .number value => some (clampPercent value)
  | _ => none

/-- ` (${percent}%)` -/
def percentLabel (percent : JsNumber) : List Fragment :=
  [.literal (js " ("),
    .raw (JsNumber.toText percent),
    .literal (js "%)")]

def progressBar (percent : JsNumber) : List Fragment :=
  [.literal (js "<div class=\"rts-progress-bar\" role=\"progressbar\" "),
    .literal (js "aria-valuenow=\""),
    .attr (JsNumber.toText percent),
    .literal (js "\" aria-valuemin=\"0\" aria-valuemax=\"100\"><div "),
    .literal (js "class=\"rts-progress-fill\" style=\"width:"),
    .raw (JsNumber.toText percent),
    .literal (js "%\"></div></div>")]

def progressTitle (status : JsString) : List Fragment :=
  [.literal (js "<div class=\"rts-card rts-report-progress\"><div "),
    .literal (js "class=\"rts-card-title\">"),
    .html status]

def divClosing : List Fragment :=
  [.literal (js "</div>")]

/-- `renderReportProgress` -/
def renderReportProgress? (args : JsValue) (_runId : JsString) :
    Option (List Fragment) := do
  let status ← runtime.field? args (js "status") []
  let percentRaw ← args.property? (js "percent")
  let blockers ← args.property? (js "blockers")
  let blockersList ← artifactList? runtime (blockers.asArray?.getD [])
  let bar := ((percent? percentRaw).map progressBar).getD []
  let label := ((percent? percentRaw).map percentLabel).getD []
  pure (progressTitle status ++ label ++ divClosing ++ bar ++ blockersList ++
    divClosing)

theorem percentLabel_safe (percent : JsNumber) :
    Safe (percentLabel percent) where
  isSealed := by
    simp only [Sealed, skeleton, percentLabel, List.map, Fragment.piece,
      Markup.Piece.template?]
    repeat rw [js_ofList]
    rfl
  rawPlain := by
    intro text member
    have isPercent : text = JsNumber.toText percent := by
      simpa [percentLabel] using member
    rw [isPercent]
    exact (Plain.toText percent).escapeHtml_eq

theorem progressBar_safe (percent : JsNumber) :
    Safe (progressBar percent) where
  isSealed := by
    simp only [Sealed, skeleton, progressBar, List.map, Fragment.piece,
      Markup.Piece.template?]
    repeat rw [js_ofList]
    rfl
  rawPlain := by
    intro text member
    have isPercent : text = JsNumber.toText percent := by
      simpa [progressBar] using member
    rw [isPercent]
    exact (Plain.toText percent).escapeHtml_eq

theorem progressTitle_safe (status : JsString) :
    Safe (progressTitle status) := by
  refine Safe.of_sealed ?_ rfl
  simp only [Sealed, skeleton, progressTitle, List.map, Fragment.piece,
    Markup.Piece.template?]
  repeat rw [js_ofList]
  rfl


theorem divClosing_safe : Safe divClosing := by
  refine Safe.of_sealed ?_ rfl
  simp only [Sealed, skeleton, divClosing, List.map, Fragment.piece,
    Markup.Piece.template?]
  repeat rw [js_ofList]
  rfl


theorem renderReportProgress_safe (args : JsValue) (runId : JsString) :
    SafeResult (renderReportProgress? runtime args runId) := by
  apply SafeResult.bind
  intro status
  apply SafeResult.bind
  intro percentRaw
  apply SafeResult.bind
  intro blockers
  apply SafeResult.around (artifactList_safe runtime _)
  intro blockersList safeBlockers
  have bar : Safe (((percent? percentRaw).map progressBar).getD []) := by
    cases percent? percentRaw with
    | none => exact Safe.nil
    | some percent => exact progressBar_safe percent
  have label : Safe (((percent? percentRaw).map percentLabel).getD []) := by
    cases percent? percentRaw with
    | none => exact Safe.nil
    | some percent => exact percentLabel_safe percent
  have title := ((progressTitle_safe status).append label).append
    divClosing_safe
  exact SafeResult.pure
    (((title.append bar).append safeBlockers).append divClosing_safe)

/-! ### `report_completion` -/

def artifactKind (kind : JsString) : List Fragment :=
  [.literal (js "<li>"),
    .html kind,
    .literal (js ": ")]

def artifactLink (uri title : JsString) : List Fragment :=
  if uri = [] then
    []
  else
    [.literal (js "<a href=\""),
      .attr uri,
      .literal (js "\">"),
      .html title,
      .literal (js "</a> ")]

def artifactUri (uri : JsString) : List Fragment :=
  [.literal (js "<span class=\"rts-mono\">"),
    .html uri,
    .literal (js "</span></li>")]

def artifactLine? (artifact : JsValue) : Option (List Fragment) := do
  let kind ← runtime.field? artifact (js "kind") []
  let uri ← runtime.field? artifact (js "uri") []
  let title ← runtime.field? artifact (js "title") uri
  pure (artifactKind kind ++ artifactLink uri title ++ artifactUri uri)

def completionTitle (outcome summary : JsString) : List Fragment :=
  [.literal (js "<div class=\"rts-card rts-report-completion\" "),
    .literal (js "data-outcome=\""),
    .attr outcome,
    .literal (js "\"><div class=\"rts-card-title\"><span "),
    .literal (js "class=\"rts-check-icon\" aria-hidden=\"true\"></span>"),
    .literal (js "[COMPLETED] "),
    .html summary,
    .literal (js "</div>")]

/-- `renderReportCompletion` -/
def renderReportCompletion? (args : JsValue) (_runId : JsString) :
    Option (List Fragment) := do
  let summary ← runtime.field? args (js "summary") []
  let outcome ← runtime.field? args (js "outcome") (js "success")
  let artifacts ← args.property? (js "artifacts")
  let items ← renderEach? (artifactLine? runtime)
    (artifacts.asArray?.getD [])
  let list :=
    if htmlOf items = [] then []
    else artifactOpening ++ items ++ listClosing
  pure (completionTitle outcome summary ++ list ++ divClosing)

theorem artifactKind_safe (kind : JsString) : Safe (artifactKind kind) := by
  refine Safe.of_sealed ?_ rfl
  simp only [Sealed, skeleton, artifactKind, List.map, Fragment.piece,
    Markup.Piece.template?]
  repeat rw [js_ofList]
  rfl


theorem artifactLink_safe (uri title : JsString) :
    Safe (artifactLink uri title) := by
  unfold artifactLink
  refine Safe.ite Safe.nil (Safe.of_sealed ?_ rfl)
  simp only [Sealed, skeleton, List.map, Fragment.piece,
    Markup.Piece.template?]
  repeat rw [js_ofList]
  rfl


theorem artifactUri_safe (uri : JsString) : Safe (artifactUri uri) := by
  refine Safe.of_sealed ?_ rfl
  simp only [Sealed, skeleton, artifactUri, List.map, Fragment.piece,
    Markup.Piece.template?]
  repeat rw [js_ofList]
  rfl


theorem artifactLine_safe (artifact : JsValue) :
    SafeResult (artifactLine? runtime artifact) := by
  apply SafeResult.bind
  intro kind
  apply SafeResult.bind
  intro uri
  apply SafeResult.bind
  intro title
  apply SafeResult.pure
  exact ((artifactKind_safe kind).append (artifactLink_safe uri title)).append
    (artifactUri_safe uri)

theorem completionTitle_safe (outcome summary : JsString) :
    Safe (completionTitle outcome summary) := by
  refine Safe.of_sealed ?_ rfl
  simp only [Sealed, skeleton, completionTitle, List.map, Fragment.piece,
    Markup.Piece.template?]
  repeat rw [js_ofList]
  rfl


theorem renderReportCompletion_safe (args : JsValue) (runId : JsString) :
    SafeResult (renderReportCompletion? runtime args runId) := by
  apply SafeResult.bind
  intro summary
  apply SafeResult.bind
  intro outcome
  apply SafeResult.bind
  intro artifacts
  apply SafeResult.around (SafeResult.each (artifactLine_safe runtime) _)
  intro items safeItems
  have list : Safe (if htmlOf items = [] then []
      else artifactOpening ++ items ++ listClosing) :=
    Safe.ite Safe.nil
      ((artifactOpening_safe.append safeItems).append listClosing_safe)
  exact SafeResult.pure
    (((completionTitle_safe outcome summary).append list).append
      divClosing_safe)

/-! ### `report_problem` -/

def remediationBlock (remediation : JsString) : List Fragment :=
  [.literal (js "<div class=\"rts-card-body\"><strong>"),
    .literal (js "Remediation:</strong> "),
    .html remediation,
    .literal (js "</div>")]

def problemTitle (severity description : JsString) : List Fragment :=
  [.literal (js "<div class=\"rts-card rts-report-problem\"><div "),
    .literal (js "class=\"rts-card-title\"><span "),
    .literal (js "class=\"rts-severity-badge\" data-severity=\""),
    .attr severity,
    .literal (js "\">"),
    .html severity,
    .literal (js "</span>"),
    .html description,
    .literal (js "</div>")]

def remediation? (remediation : JsValue) : Option (List Fragment) :=
  if remediation.truthy then do
    let text ← runtime.text? remediation
    pure (remediationBlock text)
  else
    some []

/-- `renderReportProblem` -/
def renderReportProblem? (args : JsValue) (_runId : JsString) :
    Option (List Fragment) := do
  let severity ← runtime.field? args (js "severity") (js "info")
  let description ← runtime.field? args (js "description") []
  let remediation ← args.property? (js "suggested_remediation")
  let related ← args.property? (js "related_artifacts")
  let remBlock ← remediation? runtime remediation
  let relBlock ← artifactList? runtime (related.asArray?.getD [])
  pure (problemTitle severity description ++ remBlock ++ relBlock ++
    divClosing)

theorem remediationBlock_safe (remediation : JsString) :
    Safe (remediationBlock remediation) := by
  refine Safe.of_sealed ?_ rfl
  simp only [Sealed, skeleton, remediationBlock, List.map, Fragment.piece,
    Markup.Piece.template?]
  repeat rw [js_ofList]
  rfl


theorem problemTitle_safe (severity description : JsString) :
    Safe (problemTitle severity description) := by
  refine Safe.of_sealed ?_ rfl
  simp only [Sealed, skeleton, problemTitle, List.map, Fragment.piece,
    Markup.Piece.template?]
  repeat rw [js_ofList]
  rfl


theorem remediation_safe (remediation : JsValue) :
    SafeResult (remediation? runtime remediation) := by
  unfold remediation?
  split
  · apply SafeResult.bind
    intro text
    exact SafeResult.pure (remediationBlock_safe text)
  · exact SafeResult.pure Safe.nil

theorem renderReportProblem_safe (args : JsValue) (runId : JsString) :
    SafeResult (renderReportProblem? runtime args runId) := by
  apply SafeResult.bind
  intro severity
  apply SafeResult.bind
  intro description
  apply SafeResult.bind
  intro remediation
  apply SafeResult.bind
  intro related
  apply SafeResult.around (remediation_safe runtime remediation)
  intro remBlock safeRemediation
  apply SafeResult.around (artifactList_safe runtime _)
  intro relBlock safeRelated
  have title := problemTitle_safe severity description
  exact SafeResult.pure
    (((title.append safeRemediation).append safeRelated).append
      divClosing_safe)

end RtsNotebook.Renderers
