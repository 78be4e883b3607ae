import RtsNotebook.Llmnb.Serializer

/-!
# What a search looks at

The searchable text of a notebook cell in each scope.
-/

namespace RtsNotebook.Sidebar.Search

open RtsNotebook.Js RtsNotebook.Messaging
open RtsNotebook.Llmnb (OutputItem CellOutput RTS_RUN_MIME)

/-- `SearchScope` -/
inductive SearchScope where
  | all
  | inputs
  | outputs
  | toolCalls
  | selected
  deriving DecidableEq

/-- What the search reads of a `vscode.NotebookCell`. -/
structure NotebookCell where
  /-- `cell.document.getText()` -/
  source : JsString
  /-- `cell.document.uri.toString()` -/
  uri : JsString
  metadata : Option Json
  outputs : List CellOutput

/-- `getCellInputText` -/
def getCellInputText (cell : NotebookCell) : JsString :=
  cell.source

/-- `decodeItem`.  Without the flag `fatal` the decoder does not throw. -/
def decodeItem (item : OutputItem) : JsString :=
  decodeText item.data

/-- The items of the outputs of a cell. -/
def outputItems (cell : NotebookCell) : List OutputItem :=
  cell.outputs.flatMap CellOutput.items

/-- `getCellOutputText` -/
def getCellOutputText (cell : NotebookCell) : JsString :=
  join (js "\n") ((outputItems cell).map decodeItem)

/-- The string of an attribute `{ key, value: { stringValue } }`. -/
def attributeText? (node : Json) : Option JsString := do
  let _ ← (node.member? (js "key")).bind Json.asString?
  let valueWrap ← (node.member? (js "value")).filter isObject
  (valueWrap.member? (js "stringValue")).bind Json.asString?

mutual

/-- `collectStringAttributeValues`, with the strings that it adds. -/
def collectStringAttributeValues : Json → List JsString
  | .null => []
  | .bool _ => []
  | .number _ => []
  | .string text => [text]
  | .array items => collectItems items
  | .object members =>
      match attributeText? (.object members) with
      | some text => [text]
      | none => collectMembers members

def collectItems : List Json → List JsString
  | [] => []
  | item :: rest => collectStringAttributeValues item ++ collectItems rest

def collectMembers : List (JsString × Json) → List JsString
  | [] => []
  | (_, value) :: rest =>
      collectStringAttributeValues value ++ collectMembers rest

end

/-- The strings of a run record. -/
def runTexts (parse : JsString → Option Json) (item : OutputItem) :
    List JsString :=
  if item.mime ≠ RTS_RUN_MIME then
    []
  else if decodeItem item = [] then
    []
  else
    match parse (decodeItem item) with
    | some parsed => collectStringAttributeValues parsed
    | none => []

/-- `getCellToolCallText`; `parse` is `JSON.parse`. -/
def getCellToolCallText (parse : JsString → Option Json)
    (cell : NotebookCell) : JsString :=
  join (js "\n") ((outputItems cell).flatMap (runTexts parse))

/-- `getSearchableText` -/
def getSearchableText (parse : JsString → Option Json) (cell : NotebookCell)
    (scope : SearchScope) : JsString :=
  match scope with
  | .inputs => getCellInputText cell
  | .outputs => getCellOutputText cell
  | .toolCalls => getCellToolCallText parse cell
  | .all | .selected =>
      join (js "\n")
        ([getCellInputText cell, getCellOutputText cell,
          getCellToolCallText parse cell].filter fun text => text ≠ [])

end RtsNotebook.Sidebar.Search
