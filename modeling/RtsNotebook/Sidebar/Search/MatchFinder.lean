import RtsNotebook.Js.RegExp.Matcher
import RtsNotebook.Library.Collapsing
import RtsNotebook.Sidebar.Search.Scope

/-!
# Finding matches

`match-finder.ts`: the expression of a search, the scan of a text, the snippet
around a match and the message with the results.
-/

namespace RtsNotebook.Sidebar.Search

open RtsNotebook.Js RtsNotebook.Js.RegExp RtsNotebook.Library

/-- `SearchOptions` -/
structure SearchOptions where
  query : JsString
  caseSensitive : Bool
  wholeWord : Bool
  regex : Bool
  scope : SearchScope

/-- `Match` -/
structure Match where
  cellIndex : Nat
  cellId : JsString
  scope : SearchScope
  snippet : JsString
  matchStart : Nat
  matchEnd : Nat
  deriving DecidableEq

/-- `SearchResultsMessage` -/
structure SearchResultsMessage where
  matchList : List Match
  total : Nat
  truncated : Bool
  error : Option JsString
  deriving DecidableEq

def MAX_DISPLAYED_MATCHES : Nat := 500

def SNIPPET_HALF_WIDTH : Nat := 40

def PER_CELL_MATCH_CAP : Nat := 250

/-! ### The expression -/

/-- `[.*+?^${}()|[\]\\]` -/
def isMeta (codeUnit : UInt16) : Bool :=
  codeUnit ∈ js ".*+?^$\x7b\x7d()|[]\\"

/-- `escapeRegexLiterals` -/
def escapeRegexLiterals (input : JsString) : JsString :=
  input.flatMap fun codeUnit =>
    if isMeta codeUnit then [unit '\\', codeUnit] else [codeUnit]

/-- What `buildSearchRegex` returns. -/
inductive BuiltRegex where
  | empty
  | invalid (error : JsString)
  | regex (regex : Expression)

/-- `buildSearchRegex` -/
def buildSearchRegex (engine : Engine) (options : SearchOptions) :
    BuiltRegex :=
  if options.query = [] then
    .empty
  else
    let pattern :=
      if options.regex then
        options.query
      else
        escapeRegexLiterals options.query
    let pattern :=
      if options.wholeWord then js "\\b" ++ pattern ++ js "\\b" else pattern
    let flags := (if options.caseSensitive then [] else js "i") ++ js "g"
    match engine.compile pattern (!options.caseSensitive) with
    | some regex => .regex regex
    | none =>
        .invalid
          (js "search_regex_invalid: " ++ engine.errorMessage pattern flags)

/-! ### Snippets -/

/-- `text.slice(first, last)` -/
def slice (text : JsString) (first last : Nat) : JsString :=
  (text.drop first).take (last - first)

/-- `text.indexOf(sought, position)` -/
def indexOf (text sought : JsString) (position : Nat) : Option Nat :=
  let start := min position text.length
  (List.range' start (text.length + 1 - start)).find? fun index =>
    sought.isPrefixOf (text.drop index)

/-- `/[\r\n\t]/` -/
def isBreak (codeUnit : UInt16) : Bool :=
  codeUnit ∈ js "\r\n\t"

/-- The text on one line, as a snippet shows it. -/
def compress (text : JsString) : JsString :=
  collapse isWhiteSpace 2 (unit ' ') (collapse isBreak 1 (unit ' ') text)

/-- `RawMatch` -/
structure RawMatch where
  matchStart : Nat
  matchEnd : Nat
  snippet : JsString
  deriving DecidableEq

/-- `extractSnippet` -/
def extractSnippet (text : JsString) (matchStart matchEnd : Nat) : RawMatch :=
  let snippetStart := matchStart - SNIPPET_HALF_WIDTH
  let snippetEnd := min text.length (matchEnd + SNIPPET_HALF_WIDTH)
  let compressed := compress (slice text snippetStart snippetEnd)
  let offsetInRaw := matchStart - snippetStart
  let matchText := slice text matchStart matchEnd
  match indexOf compressed matchText (offsetInRaw - 4) with
  | some localIndex =>
      { snippet := compressed
        matchStart := localIndex
        matchEnd := localIndex + matchText.length }
  | none =>
      { snippet := compressed
        matchStart := offsetInRaw
        matchEnd :=
          min compressed.length (offsetInRaw + (matchEnd - matchStart)) }

/-! ### The scan of a text -/

/-- The rounds of the loop of `findMatchesInText`, with the range of each match.
An empty match moves `lastIndex` on. -/
def scan (regex : Expression) (text : JsString) :
    Nat → Nat → List (Nat × Nat)
  | 0, _ => []
  | room + 1, lastIndex =>
      match regex.exec text lastIndex with
      | none => []
      | some (start, finish) =>
          (start, finish) ::
            scan regex text room (if finish = start then finish + 1 else finish)

/-- The ranges of the matches that are found in a text. -/
def foundRanges (regex : Expression) (text : JsString) : List (Nat × Nat) :=
  scan regex text PER_CELL_MATCH_CAP 0

/-- `findMatchesInText` -/
def findMatchesInText (regex : Expression) (text : JsString) :
    List RawMatch :=
  (foundRanges regex text).map fun range =>
    extractSnippet text range.1 range.2

/-! ### The results -/

/-- `candidateCellIds` -/
def candidateCellIds (cell : NotebookCell) : List JsString :=
  let idOf (holder : Option Json) : Option JsString :=
    ((holder.bind fun value => value.member? (js "id")).bind
      Json.asString?).filter fun id => id ≠ []
  let rts := cell.metadata.bind fun value => value.member? (js "rts")
  let slot := rts.bind fun value => value.member? (js "cell")
  (idOf cell.metadata).toList ++ (idOf slot).toList ++ [cell.uri]

/-- `primaryCellId` -/
def primaryCellId (cell : NotebookCell) : JsString :=
  (candidateCellIds cell).headD []

/-- The message without results. -/
def noResults (error : Option JsString) : SearchResultsMessage where
  matchList := []
  total := 0
  truncated := false
  error := error

/-- Whether a cell is left out by the scope. -/
def isOutOfScope (selectedCellIndices : List Nat) (options : SearchOptions)
    (index : Nat) : Bool :=
  options.scope = .selected && !(index ∈ selectedCellIndices)

/-- The matches so far and their number. -/
structure Progress where
  matchList : List Match
  total : Nat

/-- `matches.push(...)`, as long as there is room. -/
def pushMatch (matchList : List Match) (found : Match) : List Match :=
  if MAX_DISPLAYED_MATCHES ≤ matchList.length then
    matchList
  else
    matchList ++ [found]

/-- One round of the loop of `findMatches`. -/
def searchCell (parse : JsString → Option Json) (regex : Expression)
    (selectedCellIndices : List Nat) (options : SearchOptions)
    (progress : Progress) (entry : NotebookCell × Nat) : Progress :=
  if isOutOfScope selectedCellIndices options entry.2 then
    progress
  else
    let text := getSearchableText parse entry.1 options.scope
    if text = [] then
      progress
    else
      let cellMatches := findMatchesInText regex text
      { total := progress.total + cellMatches.length
        matchList := (cellMatches.map fun found =>
          { cellIndex := entry.2
            cellId := primaryCellId entry.1
            scope := options.scope
            snippet := found.snippet
            matchStart := found.matchStart
            matchEnd := found.matchEnd }).foldl pushMatch progress.matchList }

/-- `findMatches` -/
def findMatches (engine : Engine) (parse : JsString → Option Json)
    (notebook : Option (List NotebookCell)) (selectedCellIndices : List Nat)
    (options : SearchOptions) : SearchResultsMessage :=
  match notebook with
  | none => noResults none
  | some cells =>
      match buildSearchRegex engine options with
      | .invalid error => noResults (some error)
      | .empty => noResults none
      | .regex regex =>
          let progress := cells.zipIdx.foldl
            (searchCell parse regex selectedCellIndices options)
            { matchList := [], total := 0 }
          { matchList := progress.matchList
            total := progress.total
            truncated := progress.matchList.length < progress.total
            error := none }

/-! ### Searches of the sources -/

/-- An engine for patterns without named groups, searched with their case. -/
def plainEngine : Engine where
  identifierName := fun _ => none
  toUppercase := id
  errorMessage := fun _ _ => js "Invalid regular expression"

/-- A search for a text in the sources of the cells. -/
def inputSearch (query : JsString) (regex wholeWord : Bool) : SearchOptions where
  query := query
  caseSensitive := true
  wholeWord := wholeWord
  regex := regex
  scope := .inputs

end RtsNotebook.Sidebar.Search
