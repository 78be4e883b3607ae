import RtsNotebook.Js.Value

/-!
# Cell directives

`parseCellDirective`, and the envelopes that `PtyKernelClient.executeCell`
writes for the directives that name an agent.  Each regular expression is a
function that finds its match from the left, the longest one for a greedy
part; what it cannot give back is said beside it.
-/

namespace RtsNotebook.Notebook.CellDirective

open RtsNotebook.Js

/-- `CellDirective`; the flags of a line magic are the names to set and to
unset. -/
inductive Directive where
  | spawn (agentId task : JsString) (endpoint : Option JsString)
  | continue (agentId text : JsString)
  | cellMagic (magic args cellKind : JsString)
  | lineMagic (magic args : JsString) (set unset : List JsString)
  deriving DecidableEq

/-- `FLAG_LINE_MAGICS`, with the flag to set and the flag to unset. -/
def flagLineMagics : List (JsString × List JsString × List JsString) :=
  [(js "pin", [js "pinned"], []),
    (js "unpin", [], [js "pinned"]),
    (js "exclude", [js "excluded"], []),
    (js "include", [], [js "excluded"])]

/-- `LINE_MAGIC_NAMES` -/
def lineMagicNames : List JsString :=
  flagLineMagics.map Prod.fst ++
    [js "mark", js "affinity", js "handoff", js "status", js "revert",
      js "stop", js "branch"]

/-- `CELL_MAGIC_NAMES` -/
def cellMagicNames : List JsString :=
  [js "agent", js "spawn", js "markdown", js "scratch", js "checkpoint",
    js "endpoint", js "compare", js "section", js "tool", js "artifact",
    js "native"]

/-! ### Characters -/

def quote : UInt16 := unit '"'

def colon : UInt16 := unit ':'

/-- `[A-Za-z_]` -/
def isNameStart (codeUnit : UInt16) : Bool :=
  unit 'A' ≤ codeUnit ∧ codeUnit ≤ unit 'Z' ∨
    unit 'a' ≤ codeUnit ∧ codeUnit ≤ unit 'z' ∨ codeUnit = unit '_'

/-- `\w` -/
def isWord (codeUnit : UInt16) : Bool :=
  isNameStart codeUnit ∨ unit '0' ≤ codeUnit ∧ codeUnit ≤ unit '9'

/-- What `.` does not match. -/
def isLineTerminator (codeUnit : UInt16) : Bool :=
  codeUnit ∈ ([0x0A, 0x0D, 0x2028, 0x2029] : List UInt16)

/-! ### Lines -/

/-- `text.split(/\r?\n/)`, with the current line reversed. -/
def splitLinesFrom (begun : JsString) : JsString → List JsString
  | [] => [begun.reverse]
  | codeUnit :: rest =>
      if codeUnit = newline then
        begun.reverse :: splitLinesFrom [] rest
      else if codeUnit = carriageReturn ∧ rest.head? = some newline then
        -- A return before the newline belongs to the separator.
        splitLinesFrom begun rest
      else
        splitLinesFrom (codeUnit :: begun) rest

def splitLines (text : JsString) : List JsString :=
  splitLinesFrom [] text

/-- The lines from the first on that is not blank. -/
def fromHead (text : JsString) : List JsString :=
  (splitLines text).dropWhile fun line => trim line = []

/-! ### Regular expressions -/

/-- The longest run of units at the start, and what follows it. -/
def run (holds : UInt16 → Bool) (text : JsString) : JsString × JsString :=
  (text.takeWhile holds, text.dropWhile holds)

/-- `\S+` at the start. -/
def leadingWord? (text : JsString) : Option JsString :=
  match text.takeWhile fun codeUnit => !isWhiteSpace codeUnit with
  | [] => none
  | word => some word

/-- The first position at which an expression matches. -/
def search {Found : Type} (matchAt : JsString → Option Found) :
    JsString → Option Found
  | [] => matchAt []
  | codeUnit :: rest =>
      (matchAt (codeUnit :: rest)).orElse fun _ => search matchAt rest

/-- The rest of a text after a prefix. -/
def after? (literal text : JsString) : Option JsString :=
  if literal.isPrefixOf text then some (text.drop literal.length) else none

/-- `task:"([^"]*)"` at the start, with what follows the closing quote. -/
def quotedTask? (text : JsString) : Option (JsString × JsString) := do
  let opened ← after? (js "task:\"") text
  match run (fun codeUnit => codeUnit ≠ quote) opened with
  | (_, []) => none
  | (task, _ :: rest) => some (task, rest)

/-- `/^@@([A-Za-z_][\w]*)\s*(.*)$/`.  A shorter name or a shorter run of white
space leaves the same line terminators to the last group, which matches
none. -/
def cellMagic? (head : JsString) : Option (JsString × JsString) := do
  let rest ← after? (js "@@") head
  let (name, tail) := run isWord rest
  let args := tail.dropWhile isWhiteSpace
  if (name.head?.any isNameStart) && !args.any isLineTerminator then
    some (name, args)
  else
    none

/-- `/^@([A-Za-z_][\w]*)(?:\s+([\s\S]*))?$/` -/
def lineMagic? (head : JsString) : Option (JsString × JsString) := do
  let rest ← after? (js "@") head
  let (name, tail) := run isWord rest
  if name.head?.any isNameStart then
    match tail with
    | [] => some (name, [])
    | codeUnit :: _ =>
        if isWhiteSpace codeUnit then
          some (name, tail.dropWhile isWhiteSpace)
        else
          none
  else
    none

/-- `/^\/spawn\s+(\S+)\s+task:"([^"]*)"\s*$/` on a trimmed line. -/
def legacySpawn? (trimmed : JsString) : Option Directive := do
  let rest ← after? (js "/spawn") trimmed
  let (gap, rest) := run isWhiteSpace rest
  let agentId ← leadingWord? rest
  let (secondGap, rest) := run isWhiteSpace (rest.drop agentId.length)
  let (task, rest) ← quotedTask? rest
  if gap ≠ [] ∧ secondGap ≠ [] ∧ rest.all isWhiteSpace = true then
    some (.spawn agentId task none)
  else
    none

/-- `/^@([^\s:]+)\s*:\s*([\s\S]+)$/` on a trimmed line, which does not end in
white space. -/
def legacyContinue? (trimmed : JsString) : Option Directive := do
  let rest ← after? (js "@") trimmed
  let (agentId, rest) := run
    (fun codeUnit => !isWhiteSpace codeUnit && codeUnit ≠ colon) rest
  match agentId, rest.dropWhile isWhiteSpace with
  | _ :: _, separator :: message =>
      let text := trim message
      if separator = colon ∧ text ≠ [] then some (.continue agentId text)
      else none
  | _, _ => none

/-! ### The parser -/

/-- The branch of a known cell magic. -/
def cellMagicDirective (magic argsStr : JsString)
    (restLines : List JsString) : Option Directive :=
  if magic = js "spawn" then do
    let agentId ← leadingWord? argsStr
    let (task, _) ← search quotedTask? argsStr
    let endpoint := search
      (fun text => (after? (js "endpoint:") text).bind leadingWord?) argsStr
    some (.spawn agentId task endpoint)
  else if magic = js "agent" then do
    let agentId ← leadingWord? argsStr
    let body := trim (join [newline] restLines)
    if body ≠ [] then some (.continue agentId body) else none
  else
    some (.cellMagic magic argsStr magic)

/-- The branch of a known line magic. -/
def lineMagicDirective (magic args : JsString) : Directive :=
  let flags := (flagLineMagics.lookup magic).getD ([], [])
  .lineMagic magic (trim args) flags.1 flags.2

/-- The forms without a known cell magic, by the head line. -/
def plainDirective (head : JsString) : Option Directive :=
  match lineMagic? head with
  | some (magic, args) =>
      if magic ∈ lineMagicNames ∧ colon ∉ head then
        some (lineMagicDirective magic args)
      else
        legacy head
  | none => legacy head
where
  legacy (head : JsString) : Option Directive :=
    (legacySpawn? (trim head)).orElse fun _ => legacyContinue? (trim head)

/-- `cellMagicMatch && CELL_MAGIC_NAMES.has(cellMagicMatch[1])` -/
def knownCellMagic? (head : JsString) : Option (JsString × JsString) :=
  (cellMagic? head).filter fun found => found.1 ∈ cellMagicNames

/-- `parseCellDirective` -/
def parseCellDirective (text : JsString) : Option Directive :=
  match fromHead text with
  | [] => none
  | head :: restLines =>
      if trim head = js "@@break" then
        none
      else
        match knownCellMagic? head with
        | some (magic, args) => cellMagicDirective magic (trim args) restLines
        | none => plainDirective head

/-- The first line that is not blank is a canonical cell magic. -/
def IsCellMagic (text : JsString) : Prop :=
  ∃ head restLines, fromHead text = head :: restLines ∧
    (knownCellMagic? head).isSome = true

/-! ### The envelopes -/

/-- The envelope that `executeCell` writes for a directive that names an
agent; those of the magics have no agent. -/
def agentEnvelope? (cellUri : JsString) : Directive → Option JsValue
  | .spawn agentId task _ =>
      some (.object
        [(js "type", .string (js "operator.action")),
          (js "payload", .object
            [(js "action_type", .string (js "agent_spawn")),
              (js "parameters", .object
                [(js "agent_id", .string agentId), (js "task", .string task),
                  (js "cell_id", .string cellUri)]),
              (js "originating_cell_id", .string cellUri)])])
  | .continue agentId text =>
      some (.object
        [(js "type", .string (js "operator.action")),
          (js "payload", .object
            [(js "action_type", .string (js "agent_continue")),
              (js "intent_kind", .string (js "send_user_turn")),
              (js "parameters", .object
                [(js "agent_id", .string agentId), (js "text", .string text),
                  (js "cell_id", .string cellUri)]),
              (js "originating_cell_id", .string cellUri)])])
  | _ => none

end RtsNotebook.Notebook.CellDirective
