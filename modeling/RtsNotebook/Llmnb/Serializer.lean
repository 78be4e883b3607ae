import Mathlib.Data.List.Nodup
import RtsNotebook.Js.TextDecoder
import RtsNotebook.Library.MappedLists
import RtsNotebook.Llmnb.CellMetadata

/-!
# The serializer of notebooks

`LlmnbNotebookSerializer`: a document is loaded into cells with outputs, whose
items hold octets, and the cells are saved as a document again.

A function that can throw returns an option.  A cell keeps the value of its
source as it was read; `none` is `undefined`, which is not written.
-/

namespace RtsNotebook.Llmnb

open RtsNotebook.Js RtsNotebook.Library RtsNotebook.Messaging

/-! ### The surroundings -/

/-- A value that stands somewhere in another one. -/
inductive Within (value : Json) : Json → Prop where
  | self : Within value value
  | item {items : List Json} {item : Json} (isItem : item ∈ items)
      (within : Within value item) : Within value (.array items)
  | member {members : Members} {key : JsString} {held : Json}
      (isMember : (key, held) ∈ members) (within : Within value held) :
      Within value (.object members)

/-- What the serializer is given: `JSON.parse`, whose objects enumerate their
members in order, and the gap with which items are written as JSON. -/
structure Host where
  parse : JsString → Option Json
  inOrder : ∀ {text : JsString} {value : Json} {members : Members},
    parse text = some value → Within (.object members) value →
      InOrder members
  gap : List Char

/-- `JSON.stringify(value, null, gap)` -/
def jsonText (gap : JsString) (value : Json) : JsString :=
  ((JsValue.ofJson value).stringify? gap []).getD []

/-- `value ?? {}` -/
def orEmpty : Option Json → Json
  | none => .object []
  | some .null => .object []
  | some value => value

/-- `(list ?? []).map(change)` -/
def mapItems? {Result : Type} (change : Json → Option Result) :
    Option Json → Option (List Result)
  | none => some []
  | some .null => some []
  | some (.array items) => items.mapM change
  | some _ => none

/-! ### Cells in memory -/

/-- `vscode.NotebookCellOutputItem` -/
structure OutputItem where
  mime : JsString
  data : List UInt8
  deriving DecidableEq

/-- `vscode.NotebookCellOutput` -/
structure CellOutput where
  items : List OutputItem
  metadata : Json

/-- `vscode.NotebookCellKind` -/
inductive CellKind where
  | markup
  | code
  deriving DecidableEq

/-- `vscode.NotebookCellData` -/
structure CellData where
  kind : CellKind
  value : Option Json
  languageId : JsString
  metadata : Json
  outputs : List CellOutput

/-- `vscode.NotebookData` -/
structure NotebookData where
  cells : List CellData
  metadata : Json

/-! ### Loading -/

def RTS_RUN_MIME : JsString :=
  js "application/vnd.rts.run+json"

/-- Whether an item of this type holds JSON. -/
def isJsonMime (mime : JsString) : Bool :=
  mime = RTS_RUN_MIME || (js "+json").isSuffixOf mime ||
    mime = js "application/json"

/-- `NotebookCellOutputItem.text` -/
def textItem (mime text : JsString) : OutputItem :=
  ⟨mime, encodeText text⟩

/-- `NotebookCellOutputItem.json` -/
def Host.jsonItem (host : Host) (mime : JsString) (value : Json) :
    OutputItem :=
  textItem mime (jsonText (units host.gap) value)

/-- One entry of the `data` of an output. -/
def Host.decodeItem (host : Host) (entry : JsString × Json) : OutputItem :=
  if isJsonMime entry.1 then
    host.jsonItem entry.1 entry.2
  else
    match entry.2 with
    | .string text => textItem entry.1 text
    | value => host.jsonItem entry.1 value

/-- `Object.entries(raw.data ?? {})` -/
def dataEntries (raw : Json) : Members :=
  (orEmpty (raw.member? (js "data"))).ownMembers

/-- `decodeOutput` -/
def Host.decodeOutput (host : Host) : Json → Option CellOutput
  | .null => none
  | raw => some
      { items := (dataEntries raw).map host.decodeItem
        metadata := orEmpty (raw.member? (js "metadata")) }

/-- `Array.isArray(c.source) ? c.source.join('') : c.source` -/
def sourceOf? (cell : Json) : Option (Option Json) :=
  match cell.member? (js "source") with
  | some (.array items) =>
      (Json.itemTexts? items).map fun texts => some (.string (join [] texts))
  | source => some source

/-- `c.cell_type === 'markdown'` -/
def isMarkdownCell (cell : Json) : Bool :=
  match cell.member? (js "cell_type") with
  | some (.string cellType) => cellType = js "markdown"
  | _ => false

/-- The cell that `deserializeNotebook` makes of the parts that it reads. -/
def makeCell (isMarkdown : Bool) (source : Option Json) (metadata : Json)
    (outputs : List CellOutput) : CellData where
  kind := if isMarkdown then .markup else .code
  value := source
  languageId := if isMarkdown then js "markdown" else js "llmnb-cell"
  metadata :=
    if isMarkdown then sanitizeMarkdownCellMetadata metadata else metadata
  outputs := outputs

/-- One cell of `deserializeNotebook`. -/
def Host.decodeCell (host : Host) : Json → Option CellData
  | .null => none
  | cell => do
      let source ← sourceOf? cell
      let outputs ← mapItems? host.decodeOutput (cell.member? (js "outputs"))
      pure (makeCell (isMarkdownCell cell) source
        (orEmpty (cell.member? (js "metadata"))) outputs)

/-- A parsed document; reading a member of `null` throws. -/
def Host.decodeDocument (host : Host) : Json → Option NotebookData
  | .null => none
  | raw => do
      let cells ← mapItems? host.decodeCell (raw.member? (js "cells"))
      pure { cells := cells, metadata := orEmpty (raw.member? (js "metadata")) }

/-- The document of an empty text. -/
def emptyDocument : Json :=
  .object
    [(js "cells", .array []), (js "metadata", .object []),
      (js "nbformat", .number (Library.Double.ofNat 4 (by decide))),
      (js "nbformat_minor", .number (Library.Double.ofNat 5 (by decide)))]

/-- The document of some octets. -/
def Host.parseDocument (host : Host) (content : List UInt8) : Option Json :=
  let text := trim (decodeText content)
  if text = [] then some emptyDocument else host.parse text

/-- `deserializeNotebook` -/
def Host.deserializeNotebook (host : Host) (content : List UInt8) :
    Option NotebookData :=
  (host.parseDocument content).bind host.decodeDocument

/-! ### Saving -/

/-- What the entry of an item becomes. -/
def Host.encodeItem (host : Host) (item : OutputItem) : Json :=
  let text := decodeText item.data
  if isJsonMime item.mime then
    (host.parse text).getD (.string text)
  else
    .string text

/-- `data[mime] = …`; a text that is assigned to `__proto__` is lost. -/
def Host.assignItem (host : Host) (data : Members) (item : OutputItem) :
    Members :=
  if item.mime = js "__proto__" then
    data
  else
    assignMember item.mime (host.encodeItem item) data

/-- `encodeOutput` -/
def Host.encodeOutput (host : Host) (output : CellOutput) : Json :=
  .object
    [(js "output_type", .string (js "display_data")),
      (js "data", .object (output.items.foldl host.assignItem [])),
      (js "metadata", orEmpty (some output.metadata))]

/-- `encodeCell` -/
def Host.encodeCell (host : Host) (cell : CellData) : Json :=
  let isMarkup := cell.kind = .markup
  let metadata := orEmpty (some cell.metadata)
  .object
    ([(js "cell_type", .string (if isMarkup then js "markdown" else js "code"))]
      ++ (cell.value.map fun value => (js "source", value)).toList ++
      [(js "metadata",
          if isMarkup then sanitizeMarkdownCellMetadata metadata else metadata),
        (js "outputs", .array (cell.outputs.map host.encodeOutput))])

/-- The document that `serializeNotebook` writes. -/
def Host.encodeDocument (host : Host) (data : NotebookData) : Json :=
  .object
    [(js "cells", .array (data.cells.map host.encodeCell)),
      (js "metadata", orEmpty (some data.metadata)),
      (js "nbformat", .number (Library.Double.ofNat 4 (by decide))),
      (js "nbformat_minor", .number (Library.Double.ofNat 5 (by decide)))]

/-- The text of a saved document. -/
def Host.savedText (host : Host) (data : NotebookData) : JsString :=
  jsonText (js "  ") (host.encodeDocument data)

/-- `serializeNotebook` -/
def Host.serializeNotebook (host : Host) (data : NotebookData) : List UInt8 :=
  encodeText (host.savedText data)

/-! ### Members -/

/-- The items of an array member. -/
def listAt (key : JsString) (value : Json) : List Json :=
  match value.member? key with
  | some (.array items) => items
  | _ => []

/-- What is mapped are the items of the member, one by one. -/
theorem forall₂_of_mapItems? {Result : Type} {change : Json → Option Result}
    {value : Json} {key : JsString} {results : List Result}
    (mapped : mapItems? change (value.member? key) = some results) :
    List.Forall₂ (fun item result => change item = some result)
      (listAt key value) results := by
  rw [listAt]
  cases held : value.member? key with
  | none =>
      rw [held] at mapped
      cases mapped
      exact .nil
  | some list =>
      rw [held] at mapped
      cases list with
      | array items => exact forall₂_of_mapM mapped
      | null =>
          cases mapped
          exact .nil
      | bool value => cases mapped
      | number value => cases mapped
      | string value => cases mapped
      | object members => cases mapped

/-! ### Entries -/

variable {host : Host}

theorem jsonText_isText (gap : JsString) (value : Json) :
    (JsValue.ofJson value).stringify? gap [] = some (jsonText gap value) := by
  rw [jsonText]
  cases value with
  | null => rfl
  | bool value => cases value <;> rfl
  | number value => cases value <;> rfl
  | string value => rfl
  | array items => rfl
  | object members => rfl

theorem decodeText_jsonText {gap : JsString} (encodes : Encodes gap)
    (value : Json) :
    decodeText (encodeText (jsonText gap value)) = jsonText gap value :=
  decodeText_stringify encodes Encodes.nil (jsonText_isText gap value)

theorem jsonText_object (gap : JsString) (members : Members) :
    ∃ middle, jsonText gap (.object members) = 0x7B :: (middle ++ [0x7D]) := by
  have text : jsonText gap (.object members) =
      bracket (js "\x7b") (js "\x7d") gap []
        (JsValue.stringifyMembers gap ([] ++ gap)
          (JsValue.ofJsonMembers members)) := rfl
  obtain ⟨middle, braces⟩ := bracket_ends 0x7B 0x7D gap []
    (JsValue.stringifyMembers gap ([] ++ gap) (JsValue.ofJsonMembers members))
  exact ⟨middle, text.trans braces⟩

/-- The text of an object is parsed as it was written. -/
theorem parseDocument_encodeText (host : Host) (members : Members) :
    host.parseDocument (encodeText (jsonText (js "  ") (.object members))) =
      host.parse (jsonText (js "  ") (.object members)) := by
  obtain ⟨middle, braces⟩ := jsonText_object (js "  ") members
  have decoded := decodeText_jsonText (Encodes.literal "  ") (.object members)
  have trimmed : trim (jsonText (js "  ") (.object members)) =
      jsonText (js "  ") (.object members) := by
    rw [braces]
    exact trim_of_ends middle (by decide) (by decide)
  have nonempty : jsonText (js "  ") (.object members) ≠ [] := by
    rw [braces]
    exact List.cons_ne_nil _ _
  rw [Host.parseDocument, decoded, trimmed]
  exact if_neg nonempty

theorem decodeItem_mime (entry : JsString × Json) :
    (host.decodeItem entry).mime = entry.1 := by
  rw [Host.decodeItem]
  split
  · rfl
  · split
    · rfl
    · rfl

/-- An entry of a JSON type comes back as it was. -/
theorem encodeItem_json {mime : JsString} {value : Json}
    (isJson : isJsonMime mime = true)
    (undoes : host.parse (jsonText (units host.gap) value) = some value) :
    host.encodeItem (host.decodeItem (mime, value)) = value := by
  have data : decodeText (host.decodeItem (mime, value)).data =
      jsonText (units host.gap) value := by
    rw [Host.decodeItem, if_pos isJson]
    exact decodeText_jsonText ⟨host.gap, rfl⟩ value
  rw [Host.encodeItem, decodeItem_mime, if_pos isJson, data, undoes]
  rfl

/-- Another one comes back as a text. -/
theorem encodeItem_text {item : OutputItem}
    (notJson : isJsonMime item.mime = false) :
    host.encodeItem item = .string (decodeText item.data) := by
  rw [Host.encodeItem, notJson]
  rfl

/-- What an output is saved as, entry by entry. -/
def Host.savedEntry (host : Host) (item : OutputItem) : JsString × Json :=
  (item.mime, host.encodeItem item)

theorem foldl_assignItem (items : List OutputItem) (own : Members) :
    items.foldl host.assignItem own =
      ((items.map host.savedEntry).filter
        fun entry => entry.1 ≠ js "__proto__").foldl
          (fun own member => assignMember member.1 member.2 own) own := by
  induction items generalizing own with
  | nil => rfl
  | cons item rest inductionHypothesis =>
      rw [List.foldl_cons, inductionHypothesis, List.map_cons, List.filter_cons]
      by_cases isProto : item.mime = js "__proto__"
      · rw [Host.assignItem, if_pos isProto]
        simp [Host.savedEntry, isProto]
      · rw [Host.assignItem, if_neg isProto]
        simp [Host.savedEntry, isProto]

/-- The members of the saved output, where the entries were in order. -/
theorem savedData_eq {entries : Members} (inOrder : InOrder entries) :
    (entries.map host.decodeItem).foldl host.assignItem [] =
      (entries.map fun entry =>
        (entry.1, host.encodeItem (host.decodeItem entry))).filter
          fun entry => entry.1 ≠ js "__proto__" := by
  have saved : (entries.map host.decodeItem).map host.savedEntry =
      entries.map fun entry =>
        (entry.1, host.encodeItem (host.decodeItem entry)) := by
    rw [List.map_map]
    refine List.map_congr_left fun entry _ => ?_
    rw [Function.comp_apply, Host.savedEntry, decodeItem_mime]
  have stillInOrder : InOrder (entries.map fun entry =>
      (entry.1, host.encodeItem (host.decodeItem entry))) :=
    inOrder.map fun _ => rfl
  rw [foldl_assignItem, saved]
  exact fillMembers_eq_self (stillInOrder.filter _)

/-- The entries of an output of a parsed document are in order. -/
theorem inOrder_dataEntries {output : Json}
    (inOrder : ∀ members, output.member? (js "data") = some (.object members) →
      InOrder members) : InOrder (dataEntries output) := by
  rw [dataEntries]
  cases hasData : output.member? (js "data") with
  | none => exact List.Pairwise.nil
  | some data =>
      cases data with
      | object members => exact inOrder members hasData
      | array items => exact inOrder_indexed items
      | string text => exact inOrder_indexed _
      | null => exact List.Pairwise.nil
      | bool value => exact List.Pairwise.nil
      | number value => exact List.Pairwise.nil

/-! ### A host that knows some values -/

mutual

/-- Every object in a value enumerates its members in order. -/
def allInOrder : Json → Bool
  | .array items => itemsInOrder items
  | .object members => InOrder members && membersInOrder members
  | _ => true

def itemsInOrder : List Json → Bool
  | [] => true
  | item :: rest => allInOrder item && itemsInOrder rest

def membersInOrder : Members → Bool
  | [] => true
  | (_, value) :: rest => allInOrder value && membersInOrder rest

end

theorem allInOrder_of_mem_items {items : List Json} {item : Json}
    (inOrder : itemsInOrder items = true) (isItem : item ∈ items) :
    allInOrder item = true := by
  induction items with
  | nil => cases isItem
  | cons first rest inductionHypothesis =>
      obtain ⟨firstInOrder, restInOrder⟩ := Bool.and_eq_true_iff.mp inOrder
      rcases List.mem_cons.mp isItem with rfl | isItem
      · exact firstInOrder
      · exact inductionHypothesis restInOrder isItem

theorem allInOrder_of_mem_members {members : Members} {key : JsString}
    {value : Json} (inOrder : membersInOrder members = true)
    (isMember : (key, value) ∈ members) : allInOrder value = true := by
  induction members with
  | nil => cases isMember
  | cons first rest inductionHypothesis =>
      obtain ⟨firstInOrder, restInOrder⟩ := Bool.and_eq_true_iff.mp inOrder
      rcases List.mem_cons.mp isMember with rfl | isMember
      · exact firstInOrder
      · exact inductionHypothesis restInOrder isMember

theorem inOrder_of_allInOrder {value : Json} {members : Members}
    (inOrder : allInOrder value = true)
    (within : Within (.object members) value) : InOrder members := by
  induction within with
  | self => exact of_decide_eq_true (Bool.and_eq_true_iff.mp inOrder).1
  | item isItem _ inductionHypothesis =>
      exact inductionHypothesis (allInOrder_of_mem_items inOrder isItem)
  | member isMember _ inductionHypothesis =>
      exact inductionHypothesis (allInOrder_of_mem_members
        (Bool.and_eq_true_iff.mp inOrder).2 isMember)

/-- A host that parses the texts of some values. -/
def knownValues (values : List Json)
    (inOrder : itemsInOrder values = true) : Host where
  parse text := values.find? fun value => jsonText (js "  ") value = text
  inOrder parsed within := inOrder_of_allInOrder
    (allInOrder_of_mem_items inOrder (List.mem_of_find?_eq_some parsed)) within
  gap := "  ".toList

theorem knownValues_parse {values : List Json}
    {inOrder : itemsInOrder values = true}
    (distinct : (values.map (jsonText (js "  "))).Nodup) {value : Json}
    (isKnown : value ∈ values) :
    (knownValues values inOrder).parse (jsonText (js "  ") value) =
      some value := by
  cases found : (knownValues values inOrder).parse
      (jsonText (js "  ") value) with
  | none =>
      have notSame := List.find?_eq_none.mp found value isKnown
      exact absurd (decide_eq_true rfl) notSame
  | some other =>
      have isFound : values.find? (fun known =>
          jsonText (js "  ") known = jsonText (js "  ") value) =
            some other := found
      have sameText : jsonText (js "  ") other = jsonText (js "  ") value := by
        simpa using List.find?_some isFound
      rw [List.inj_on_of_nodup_map distinct
        (List.mem_of_find?_eq_some isFound) isKnown sameText]

/-! ### One output -/

/-- A document of one cell with one output. -/
def outputDocument (output : Json) : Json :=
  .object
    [(js "cells", .array
      [.object
        [(js "cell_type", .string (js "code")),
          (js "source", .string (js "1 + 1")),
          (js "metadata", .object []),
          (js "outputs", .array [output])]]),
      (js "metadata", .object []),
      (js "nbformat", .number (Library.Double.ofNat 4 (by decide))),
      (js "nbformat_minor", .number (Library.Double.ofNat 5 (by decide)))]

/-- An output with a bundle. -/
def displayOutput (data : Members) : Json :=
  .object
    [(js "output_type", .string (js "display_data")),
      (js "data", .object data), (js "metadata", .object [])]

/-- A document of one text. -/
def textDocument (text : JsString) : Json :=
  outputDocument (displayOutput [(js "text/plain", .string text)])

/-- The notebook of one cell with one output. -/
def outputNotebook (items : List OutputItem) : NotebookData where
  cells :=
    [{ kind := .code
       value := some (.string (js "1 + 1"))
       languageId := js "llmnb-cell"
       metadata := .object []
       outputs := [{ items := items, metadata := .object [] }] }]
  metadata := .object []

/-- The notebook that a document of one text is loaded as. -/
def textNotebook (text : JsString) : NotebookData :=
  outputNotebook [textItem (js "text/plain") text]

/-- The octets of a document. -/
def documentOctets (document : Json) : List UInt8 :=
  encodeText (jsonText (js "  ") document)

theorem parseDocument_outputDocument {host : Host} {output : Json}
    (known : host.parse (jsonText (js "  ") (outputDocument output)) =
      some (outputDocument output)) :
    host.parseDocument (documentOctets (outputDocument output)) =
      some (outputDocument output) :=
  (parseDocument_encodeText host _).trans known

theorem decodeDocument_textDocument (host : Host) (text : JsString) :
    host.decodeDocument (textDocument text) = some (textNotebook text) :=
  rfl

end RtsNotebook.Llmnb
