import RtsNotebook.Renderers.Components.Reports

/-!
# Proxied tools

`proxied.ts`: the renderers of `read_file`, `write_file` and `run_command`.
-/

namespace RtsNotebook.Renderers

open RtsNotebook.Js RtsNotebook.Library

-- A template is read code unit by code unit.
set_option maxRecDepth 20000

variable (runtime : Runtime)

def readFileCard (id outId path encoding : JsString) : List Fragment :=
  [.literal (js "\n<div class=\"rts-card rts-read-file\" id=\""),
    .attr id,
    .literal (js "\" data-rts-tool=\"read_file\">\n  <div "),
    .literal (js "class=\"rts-card-title\">[read_file] <span "),
    .literal (js "class=\"rts-mono\">"),
    .html path,
    .literal (js "</span></div>\n  <div class=\"rts-card-body\">encoding="),
    .html encoding,
    .literal (js "</div>\n  <div class=\"rts-button-row\">\n    <button "),
    .literal (js "type=\"button\" class=\"rts-button-secondary\" "),
    .literal (js "data-rts-toggle=\""),
    .attr outId,
    .literal (js "\">Show output</button>\n  </div>\n  <pre "),
    .literal (js "class=\"rts-terminal-block\" id=\""),
    .attr outId,
    .literal (js "\" hidden>(output streams in via run.event)</pre>\n"),
    .literal (js "</div>")]

/-- `renderReadFile` -/
def renderReadFile? (args : JsValue) (_runId : JsString) :
    Option (List Fragment) := do
  let id := runtime.nextId (js "read")
  let path ← runtime.field? args (js "path") []
  let encoding ← runtime.field? args (js "encoding") (js "utf-8")
  let outId := id ++ js "-out"
  pure (readFileCard id outId path encoding)

def writeFileCard (id path mode : JsString) : List Fragment :=
  [.literal (js "\n<div class=\"rts-card rts-write-file\" id=\""),
    .attr id,
    .literal (js "\" data-rts-tool=\"write_file\">\n  <div "),
    .literal (js "class=\"rts-card-title\">[write_file] <span "),
    .literal (js "class=\"rts-mono\">"),
    .html path,
    .literal (js "</span></div>\n  <div class=\"rts-card-body\">mode="),
    .html mode,
    .literal (js "</div>\n  <div class=\"rts-button-row\">\n    <button "),
    .literal (js "type=\"button\" class=\"rts-button-secondary\" "),
    .literal (js "data-rts-action=\"write_file_diff\" data-rts-path=\""),
    .attr path,
    .literal (js "\">Show diff</button>\n  </div>\n</div>")]

/-- `renderWriteFile` -/
def renderWriteFile? (args : JsValue) (_runId : JsString) :
    Option (List Fragment) := do
  let id := runtime.nextId (js "write")
  let path ← runtime.field? args (js "path") []
  let mode ← runtime.field? args (js "mode") (js "overwrite")
  pure (writeFileCard id path mode)

def commandHead (id command : JsString) : List Fragment :=
  [.literal (js "\n<div class=\"rts-card rts-run-command\" id=\""),
    .attr id,
    .literal (js "\" data-rts-tool=\"run_command\">\n  <div "),
    .literal (js "class=\"rts-card-title\">[run_command]</div>\n  <div "),
    .literal (js "class=\"rts-mono\">$ "),
    .html command]

/-- An argument of the command line, after a blank. -/
def commandArgument (argument : JsString) : List Fragment :=
  [.literal (js " "),
    .html argument]

def commandDirectory (cwd : JsString) : List Fragment :=
  if cwd = [] then
    []
  else
    [.literal (js "   <span style=\"opacity:0.7\">(cwd: "),
      .html cwd,
      .literal (js ")</span>")]

def commandFoot (termId : JsString) : List Fragment :=
  [.literal (js "</div>\n  <pre class=\"rts-terminal-block\" id=\""),
    .attr termId,
    .literal (js "\">(stdout/stderr stream in via run.event)</pre>\n"),
    .literal (js "</div>")]

def commandArgument? (argument : JsValue) : Option (List Fragment) := do
  let text ← runtime.text? argument
  pure (commandArgument text)

/-- `renderRunCommand` -/
def renderRunCommand? (args : JsValue) (_runId : JsString) :
    Option (List Fragment) := do
  let id := runtime.nextId (js "cmd")
  let command ← runtime.field? args (js "command") []
  let argsList ← args.property? (js "args")
  let arguments ← renderEach? (commandArgument? runtime)
    (argsList.asArray?.getD [])
  let cwd ← runtime.field? args (js "cwd") []
  let termId := id ++ js "-term"
  pure (commandHead id command ++ arguments ++ commandDirectory cwd ++
    commandFoot termId)

theorem readFileCard_safe (id outId path encoding : JsString) :
    Safe (readFileCard id outId path encoding) := by
  refine Safe.of_sealed ?_ rfl
  simp only [Sealed, skeleton, readFileCard, List.map, Fragment.piece,
    Markup.Piece.template?]
  repeat rw [js_ofList]
  rfl


theorem renderReadFile_safe (args : JsValue) (runId : JsString) :
    SafeResult (renderReadFile? runtime args runId) := by
  apply SafeResult.bind
  intro path
  apply SafeResult.bind
  intro encoding
  exact SafeResult.pure (readFileCard_safe _ _ path encoding)

theorem writeFileCard_safe (id path mode : JsString) :
    Safe (writeFileCard id path mode) := by
  refine Safe.of_sealed ?_ rfl
  simp only [Sealed, skeleton, writeFileCard, List.map, Fragment.piece,
    Markup.Piece.template?]
  repeat rw [js_ofList]
  rfl


theorem renderWriteFile_safe (args : JsValue) (runId : JsString) :
    SafeResult (renderWriteFile? runtime args runId) := by
  apply SafeResult.bind
  intro path
  apply SafeResult.bind
  intro mode
  exact SafeResult.pure (writeFileCard_safe _ path mode)

theorem commandHead_safe (id command : JsString) :
    Safe (commandHead id command) := by
  refine Safe.of_sealed ?_ rfl
  simp only [Sealed, skeleton, commandHead, List.map, Fragment.piece,
    Markup.Piece.template?]
  repeat rw [js_ofList]
  rfl


theorem commandArgument_safe (argument : JsString) :
    Safe (commandArgument argument) := by
  refine Safe.of_sealed ?_ rfl
  simp only [Sealed, skeleton, commandArgument, List.map, Fragment.piece,
    Markup.Piece.template?]
  repeat rw [js_ofList]
  rfl


theorem commandDirectory_safe (cwd : JsString) :
    Safe (commandDirectory cwd) := by
  unfold commandDirectory
  refine Safe.ite Safe.nil (Safe.of_sealed ?_ rfl)
  simp only [Sealed, skeleton, List.map, Fragment.piece,
    Markup.Piece.template?]
  repeat rw [js_ofList]
  rfl


theorem commandFoot_safe (termId : JsString) : Safe (commandFoot termId) := by
  refine Safe.of_sealed ?_ rfl
  simp only [Sealed, skeleton, commandFoot, List.map, Fragment.piece,
    Markup.Piece.template?]
  repeat rw [js_ofList]
  rfl


theorem renderRunCommand_safe (args : JsValue) (runId : JsString) :
    SafeResult (renderRunCommand? runtime args runId) := by
  apply SafeResult.bind
  intro command
  apply SafeResult.bind
  intro argsList
  apply SafeResult.around
  · apply SafeResult.each
    intro argument
    apply SafeResult.bind
    intro text
    exact SafeResult.pure (commandArgument_safe text)
  · intro arguments safeArguments
    apply SafeResult.bind
    intro cwd
    apply SafeResult.pure
    have head := commandHead_safe (runtime.nextId (js "cmd")) command
    apply Safe.append _ (commandFoot_safe _)
    exact (head.append safeArguments).append (commandDirectory_safe cwd)

end RtsNotebook.Renderers
