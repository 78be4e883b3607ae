import RtsNotebook.Llmnb.Serializer

/-!
# Saving and reopening

What a notebook that was loaded becomes when it is saved and loaded again: the
items of every output are decoded and encoded once more, and those under
`__proto__` are lost.
-/

namespace RtsNotebook.Llmnb

open RtsNotebook.Js RtsNotebook.Library RtsNotebook.Messaging

variable {host : Host}

/-! ### Reloading -/

/-- An item that is decoded and encoded. -/
def reloadItem (item : OutputItem) : OutputItem :=
  if isJsonMime item.mime then item
  else textItem item.mime (decodeText item.data)

def reloadOutput (output : CellOutput) : CellOutput :=
  { output with
    items := (output.items.filter fun item =>
      item.mime ≠ js "__proto__").map reloadItem }

def reloadCell (cell : CellData) : CellData :=
  { cell with outputs := cell.outputs.map reloadOutput }

def reload (data : NotebookData) : NotebookData :=
  { data with cells := data.cells.map reloadCell }

/-- Saving a notebook and loading what was saved. -/
def Host.reopen (host : Host) (data : NotebookData) : Option NotebookData :=
  host.deserializeNotebook (host.serializeNotebook data)

/-- Saving and reopening some number of times. -/
def Host.reopenTimes (host : Host) : Nat → NotebookData → Option NotebookData
  | 0, data => some data
  | times + 1, data => (host.reopen data).bind (host.reopenTimes times)

/-! ### What is loaded -/

/-- The outputs of a document. -/
def documentOutputs (document : Json) : List Json :=
  (listAt (js "cells") document).flatMap (listAt (js "outputs"))

/-- `JSON.parse` undoes `JSON.stringify` on the values of the outputs of a
document and on the document that is saved. -/
structure Host.Undoes (host : Host) (document : Json) (data : NotebookData) :
    Prop where
  values : ∀ output ∈ documentOutputs document,
    ∀ entry ∈ dataEntries output,
      host.parse (jsonText (units host.gap) entry.2) = some entry.2
  saved : host.parse (host.savedText data) = some (host.encodeDocument data)

theorem items_of_decodeOutput {raw : Json} {output : CellOutput}
    (decoded : host.decodeOutput raw = some output) :
    output.items = (dataEntries raw).map host.decodeItem ∧
      output.metadata = orEmpty (raw.member? (js "metadata")) := by
  rw [Host.decodeOutput.eq_def] at decoded
  split at decoded
  · cases decoded
  · cases decoded
    exact ⟨rfl, rfl⟩

/-- A cell that is loaded, by the parts that are read. -/
theorem parts_of_decodeCell {raw : Json} {cell : CellData}
    (decoded : host.decodeCell raw = some cell) :
    ∃ source outputs, sourceOf? raw = some source ∧
      mapItems? host.decodeOutput (raw.member? (js "outputs")) =
        some outputs ∧
      cell = makeCell (isMarkdownCell raw) source
        (orEmpty (raw.member? (js "metadata"))) outputs := by
  rw [Host.decodeCell.eq_def] at decoded
  split at decoded
  · cases decoded
  · obtain ⟨source, isSource, decoded⟩ := Option.bind_eq_some_iff.mp decoded
    obtain ⟨outputs, mapped, decoded⟩ := Option.bind_eq_some_iff.mp decoded
    cases decoded
    exact ⟨source, outputs, isSource, mapped, rfl⟩

/-- The cells of a notebook that is loaded, one by one. -/
theorem cells_of_decodeDocument {document : Json} {data : NotebookData}
    (decoded : host.decodeDocument document = some data) :
    List.Forall₂ (fun raw cell => host.decodeCell raw = some cell)
        (listAt (js "cells") document) data.cells ∧
      data.metadata = orEmpty (document.member? (js "metadata")) := by
  rw [Host.decodeDocument.eq_def] at decoded
  split at decoded
  · cases decoded
  · obtain ⟨cells, mapped, decoded⟩ := Option.bind_eq_some_iff.mp decoded
    cases decoded
    exact ⟨forall₂_of_mapItems? mapped, rfl⟩

/-- An output as it is loaded: its items come from entries in order. -/
structure LoadedOutput (host : Host) (output : CellOutput) : Prop where
  entries : ∃ entries : Members, InOrder entries ∧
    (∀ entry ∈ entries,
      host.parse (jsonText (units host.gap) entry.2) = some entry.2) ∧
    output.items = entries.map host.decodeItem
  metadata : orEmpty (some output.metadata) = output.metadata

/-- A cell as it is loaded. -/
structure LoadedCell (host : Host) (cell : CellData) : Prop where
  value : ∀ items, cell.value ≠ some (.array items)
  metadata : orEmpty (some cell.metadata) = cell.metadata
  kind : cell.kind = .markup ∧ cell.languageId = js "markdown" ∧
      sanitizeMarkdownCellMetadata cell.metadata = cell.metadata ∨
    cell.kind = .code ∧ cell.languageId = js "llmnb-cell"
  outputs : ∀ output ∈ cell.outputs, LoadedOutput host output

theorem orEmpty_orEmpty (value : Option Json) :
    orEmpty (some (orEmpty value)) = orEmpty value := by
  cases value with
  | none => rfl
  | some value => cases value <;> rfl

/-- The entries that an output is loaded from. -/
theorem loadedOutput_of_decodeOutput {raw : Json} {output : CellOutput}
    (decoded : host.decodeOutput raw = some output)
    (inOrder : InOrder (dataEntries raw))
    (undoes : ∀ entry ∈ dataEntries raw,
      host.parse (jsonText (units host.gap) entry.2) = some entry.2) :
    LoadedOutput host output := by
  obtain ⟨items, metadata⟩ := items_of_decodeOutput decoded
  refine ⟨⟨_, inOrder, undoes, items⟩, ?_⟩
  rw [metadata]
  exact orEmpty_orEmpty _

theorem sourceOf?_notArray {cell : Json} {source : Option Json}
    (isSource : sourceOf? cell = some source) (items : List Json) :
    source ≠ some (.array items) := by
  rintro rfl
  rw [sourceOf?] at isSource
  split at isSource
  · obtain ⟨texts, _, same⟩ := Option.map_eq_some_iff.mp isSource
    cases same
  · rename_i notArray
    exact notArray items (Option.some.inj isSource)

theorem loadedCell_makeCell {isMarkdown : Bool} {source metadata : Option Json}
    {outputs : List CellOutput}
    (notArray : ∀ items, source ≠ some (.array items))
    (loaded : ∀ output ∈ outputs, LoadedOutput host output) :
    LoadedCell host
      (makeCell isMarkdown source (orEmpty metadata) outputs) := by
  cases isMarkdown with
  | true =>
      exact ⟨notArray, rfl,
        Or.inl ⟨rfl, rfl, sanitizeMarkdownCellMetadata_idempotent _⟩, loaded⟩
  | false =>
      exact ⟨notArray, orEmpty_orEmpty metadata, Or.inr ⟨rfl, rfl⟩, loaded⟩

theorem loadedCell_of_decodeCell {raw : Json} {cell : CellData}
    (decoded : host.decodeCell raw = some cell)
    (loaded : ∀ output ∈ listAt (js "outputs") raw,
      ∀ result, host.decodeOutput output = some result →
        LoadedOutput host result) :
    LoadedCell host cell := by
  obtain ⟨source, outputs, isSource, mapped, rfl⟩ :=
    parts_of_decodeCell decoded
  refine loadedCell_makeCell (sourceOf?_notArray isSource) ?_
  intro output isOutput
  obtain ⟨item, isItem, isDecoded⟩ :=
    exists_of_mem_right (forall₂_of_mapItems? mapped) isOutput
  exact loaded item isItem output isDecoded

/-! ### What is saved is loaded again -/

theorem reloadItem_decodeItem {entry : JsString × Json}
    (undoes : host.parse (jsonText (units host.gap) entry.2) =
      some entry.2) :
    host.decodeItem (entry.1, host.encodeItem (host.decodeItem entry)) =
      reloadItem (host.decodeItem entry) := by
  have mime := @decodeItem_mime host entry
  by_cases isJson : isJsonMime entry.1 = true
  · rw [encodeItem_json isJson undoes, reloadItem, mime, if_pos isJson]
  · have notJson : isJsonMime (host.decodeItem entry).mime = false := by
      rw [mime]
      exact Bool.eq_false_iff.mpr isJson
    rw [encodeItem_text notJson, reloadItem, notJson,
      if_neg Bool.false_ne_true, Host.decodeItem, if_neg isJson, mime]

theorem decodeOutput_encodeOutput {output : CellOutput}
    (loaded : LoadedOutput host output) :
    host.decodeOutput (host.encodeOutput output) =
      some (reloadOutput output) := by
  obtain ⟨⟨entries, inOrder, undoes, itemsEq⟩, metadataEq⟩ := loaded
  have saved : host.encodeOutput output =
      .object
        [(js "output_type", .string (js "display_data")),
          (js "data", .object ((entries.map fun entry =>
            (entry.1, host.encodeItem (host.decodeItem entry))).filter
              fun entry => entry.1 ≠ js "__proto__")),
          (js "metadata", output.metadata)] := by
    rw [Host.encodeOutput, itemsEq, savedData_eq inOrder, metadataEq]
  have decoded : host.decodeOutput (host.encodeOutput output) = some
      { items := (((entries.map fun entry =>
          (entry.1, host.encodeItem (host.decodeItem entry))).filter
            fun entry => entry.1 ≠ js "__proto__").map host.decodeItem)
        metadata := orEmpty (some output.metadata) } := by
    rw [saved]
    rfl
  have items : (((entries.map fun entry =>
      (entry.1, host.encodeItem (host.decodeItem entry))).filter
        fun entry => entry.1 ≠ js "__proto__").map host.decodeItem) =
      (output.items.filter fun item =>
        item.mime ≠ js "__proto__").map reloadItem := by
    rw [itemsEq, List.filter_map, List.filter_map, List.map_map, List.map_map]
    have sameFilter : (fun item : OutputItem =>
        decide (item.mime ≠ js "__proto__")) ∘ host.decodeItem =
        (fun entry : JsString × Json => decide (entry.1 ≠ js "__proto__")) := by
      funext entry
      rw [Function.comp_apply, decodeItem_mime]
    rw [sameFilter]
    refine List.map_congr_left fun entry isEntry => ?_
    exact reloadItem_decodeItem (undoes entry (List.mem_of_mem_filter isEntry))
  rw [decoded, items, metadataEq]
  rfl

theorem sourceOf?_eq {cell : Json} {source : Option Json}
    (held : cell.member? (js "source") = source)
    (notArray : ∀ items, source ≠ some (.array items)) :
    sourceOf? cell = some source := by
  rw [sourceOf?, held]
  split
  · exact absurd rfl (notArray _)
  · rfl

/-- The cell that is saved, by its members. -/
theorem encodeCell_members (cell : CellData) :
    (host.encodeCell cell).member? (js "source") = cell.value ∧
      (host.encodeCell cell).member? (js "outputs") =
        some (.array (cell.outputs.map host.encodeOutput)) ∧
      (host.encodeCell cell).member? (js "metadata") =
        some (if cell.kind = .markup then
          sanitizeMarkdownCellMetadata (orEmpty (some cell.metadata))
        else orEmpty (some cell.metadata)) ∧
      isMarkdownCell (host.encodeCell cell) = decide (cell.kind = .markup) := by
  obtain ⟨kind, value, languageId, metadata, outputs⟩ := cell
  cases value with
  | none =>
      cases kind with
      | markup => exact ⟨rfl, rfl, rfl, rfl⟩
      | code => exact ⟨rfl, rfl, rfl, rfl⟩
  | some value =>
      cases kind with
      | markup => exact ⟨rfl, rfl, rfl, rfl⟩
      | code => exact ⟨rfl, rfl, rfl, rfl⟩

theorem decodeCell_encodeCell {cell : CellData}
    (loaded : LoadedCell host cell) :
    host.decodeCell (host.encodeCell cell) = some (reloadCell cell) := by
  obtain ⟨held, outputsHeld, metadataHeld, isMarkdown⟩ :=
    @encodeCell_members host cell
  have source := sourceOf?_eq held loaded.value
  have outputs : mapItems? host.decodeOutput
      ((host.encodeCell cell).member? (js "outputs")) =
        some (cell.outputs.map reloadOutput) := by
    rw [outputsHeld]
    exact mapM_map_eq_some fun output isOutput =>
      decodeOutput_encodeOutput (loaded.outputs output isOutput)
  have decoded : host.decodeCell (host.encodeCell cell) =
      (sourceOf? (host.encodeCell cell)).bind fun source =>
        (mapItems? host.decodeOutput
          ((host.encodeCell cell).member? (js "outputs"))).bind fun outputs =>
            some (makeCell (isMarkdownCell (host.encodeCell cell)) source
              (orEmpty ((host.encodeCell cell).member? (js "metadata")))
              outputs) := rfl
  rw [decoded, source, outputs, metadataHeld, isMarkdown, Option.bind_some,
    Option.bind_some, loaded.metadata, reloadCell]
  obtain ⟨kind, value, languageId, metadata, cellOutputs⟩ := cell
  rcases loaded.kind with ⟨isMarkup, language, sanitized⟩ | ⟨isCode, language⟩
  · dsimp only at isMarkup language sanitized
    subst isMarkup language
    have twice : sanitizeMarkdownCellMetadata
        (orEmpty (some (sanitizeMarkdownCellMetadata metadata))) = metadata := by
      rw [sanitized, loaded.metadata, sanitized]
    rw [makeCell]
    dsimp only
    simp [twice]
  · dsimp only at isCode language
    subst isCode language
    have once := loaded.metadata
    dsimp only at once
    rw [makeCell]
    simp [once]

/-- A notebook as it is loaded. -/
structure LoadedNotebook (host : Host) (data : NotebookData) : Prop where
  metadata : orEmpty (some data.metadata) = data.metadata
  cells : ∀ cell ∈ data.cells, LoadedCell host cell

theorem decodeDocument_encodeDocument {data : NotebookData}
    (loaded : LoadedNotebook host data) :
    host.decodeDocument (host.encodeDocument data) = some (reload data) := by
  have decoded : host.decodeDocument (host.encodeDocument data) =
      ((data.cells.map host.encodeCell).mapM host.decodeCell).bind
        fun cells => some
          { cells := cells
            metadata := orEmpty (some (orEmpty (some data.metadata))) } := rfl
  have cells : (data.cells.map host.encodeCell).mapM host.decodeCell =
      some (data.cells.map reloadCell) :=
    mapM_map_eq_some fun cell isCell =>
      decodeCell_encodeCell (loaded.cells cell isCell)
  rw [decoded, cells, Option.bind_some, loaded.metadata, loaded.metadata]
  rfl

/-- The text of a saved document is read as it was written. -/
theorem parseDocument_serializeNotebook (data : NotebookData) :
    host.parseDocument (host.serializeNotebook data) =
      host.parse (host.savedText data) :=
  parseDocument_encodeText host _

theorem reopen_eq {data : NotebookData} (loaded : LoadedNotebook host data)
    (saved : host.parse (host.savedText data) =
      some (host.encodeDocument data)) :
    host.reopen data = some (reload data) := by
  rw [Host.reopen, Host.deserializeNotebook, parseDocument_serializeNotebook,
    saved, Option.bind_some, decodeDocument_encodeDocument loaded]

/-! ### What is loaded from a document -/

theorem Within.trans {value middle outer : Json} (inner : Within value middle)
    (within : Within middle outer) : Within value outer := by
  induction within with
  | self => exact inner
  | item isItem _ inductionHypothesis => exact .item isItem inductionHypothesis
  | member isMember _ inductionHypothesis =>
      exact .member isMember inductionHypothesis

theorem within_of_member? {value held : Json} {key : JsString}
    (isMember : value.member? key = some held) : Within held value := by
  cases value with
  | object members =>
      obtain ⟨before, behind, split, _⟩ :=
        List.lookup_eq_some_iff.mp isMember
      rw [split]
      exact .member (List.mem_append_right _ List.mem_cons_self) .self
  | null => cases isMember
  | bool value => cases isMember
  | number value => cases isMember
  | string value => cases isMember
  | array items => cases isMember

theorem within_of_mem_listAt {value item : Json} {key : JsString}
    (isItem : item ∈ listAt key value) : Within item value := by
  rw [listAt] at isItem
  split at isItem
  · rename_i items isMember
    exact (Within.item isItem .self).trans (within_of_member? isMember)
  · cases isItem

/-- Every output of a document has its entries in order. -/
theorem inOrder_of_parseDocument {content : List UInt8} {document : Json}
    (parsed : host.parseDocument content = some document) :
    ∀ output ∈ documentOutputs document, InOrder (dataEntries output) := by
  intro output isOutput
  rw [Host.parseDocument] at parsed
  split at parsed
  · cases parsed
    cases isOutput
  · obtain ⟨cell, isCell, isOutput⟩ := List.mem_flatMap.mp isOutput
    refine inOrder_dataEntries fun members isData => ?_
    exact host.inOrder parsed
      ((within_of_member? isData).trans
        ((within_of_mem_listAt isOutput).trans (within_of_mem_listAt isCell)))

theorem loadedNotebook_of_decodeDocument {document : Json}
    {data : NotebookData}
    (decoded : host.decodeDocument document = some data)
    (inOrder : ∀ output ∈ documentOutputs document,
      InOrder (dataEntries output))
    (undoes : ∀ output ∈ documentOutputs document,
      ∀ entry ∈ dataEntries output,
        host.parse (jsonText (units host.gap) entry.2) = some entry.2) :
    LoadedNotebook host data := by
  obtain ⟨related, metadata⟩ := cells_of_decodeDocument decoded
  refine ⟨?_, fun cell isCell => ?_⟩
  · rw [metadata]
    exact orEmpty_orEmpty _
  · obtain ⟨raw, isRaw, isDecoded⟩ := exists_of_mem_right related isCell
    refine loadedCell_of_decodeCell isDecoded fun output isOutput result
      isResult => ?_
    have inDocument : output ∈ documentOutputs document :=
      List.mem_flatMap.mpr ⟨raw, isRaw, isOutput⟩
    exact loadedOutput_of_decodeOutput isResult (inOrder output inDocument)
      (undoes output inDocument)

/-! ### What stays -/

/-- The text of some octets begins with `U+FEFF`. -/
def beginsWithMark (octets : List UInt8) : Bool :=
  (decodeScalars octets).head? = some '\uFEFF'

/-- An item that saving and reopening keep: it is not under `__proto__`, and a
text does not begin with a mark. -/
def Stays (item : OutputItem) : Prop :=
  item.mime ≠ js "__proto__" ∧
    (isJsonMime item.mime = false → beginsWithMark item.data = false)

theorem beginsWithMark_encodeText (text : JsString) :
    beginsWithMark (encodeText text) =
      decide ((scalars text).head? = some '\uFEFF') := by
  have decoded : decodeScalars (encodeText text) = scalars text :=
    decodeScalars_utf8 (scalars text)
  rw [beginsWithMark, decoded]

theorem encodeText_decodeText_iff (text : JsString) :
    encodeText (decodeText (encodeText text)) = encodeText text ↔
      beginsWithMark (encodeText text) = false := by
  rw [decodeText_encodeText, beginsWithMark_encodeText, encodeText, encodeText,
    scalars_units]
  cases hasFirst : scalars text with
  | nil => simp [dropMark]
  | cons first rest =>
      by_cases isMark : first = '\uFEFF'
      · rw [isMark]
        have shorter : (utf8 rest).length < (utf8 ('\uFEFF' :: rest)).length := by
          rw [utf8, utf8, List.flatMap_cons, List.length_append]
          have positive : 0 < (String.utf8EncodeChar '\uFEFF').length := by
            decide
          omega
        constructor
        · intro same
          rw [dropMark] at same
          rw [same] at shorter
          exact absurd shorter (Nat.lt_irrefl _)
        · intro notMark
          simp at notMark
      · have noMark : (first :: rest).head? ≠ some '\uFEFF' := by
          intro same
          exact isMark (Option.some.inj same)
        rw [dropMark_eq_self noMark]
        simp [isMark]

theorem reloadItem_decodeItem_iff (entry : JsString × Json) :
    reloadItem (host.decodeItem entry) = host.decodeItem entry ↔
      (isJsonMime (host.decodeItem entry).mime = false →
        beginsWithMark (host.decodeItem entry).data = false) := by
  obtain ⟨text, isText⟩ : ∃ text,
      host.decodeItem entry = textItem entry.1 text := by
    rw [Host.decodeItem]
    split
    · exact ⟨_, rfl⟩
    · split
      · exact ⟨_, rfl⟩
      · exact ⟨_, rfl⟩
  rw [isText, reloadItem]
  by_cases isJson : isJsonMime (textItem entry.1 text).mime = true
  · simp [isJson]
  · rw [if_neg isJson]
    have notJson := Bool.eq_false_iff.mpr isJson
    have iffText := encodeText_decodeText_iff text
    constructor
    · intro same _
      exact iffText.mp (congrArg OutputItem.data same)
    · intro noMark
      exact congrArg (OutputItem.mk entry.1) (iffText.mpr (noMark notJson))

/-- An entry that saving keeps: it is not under `__proto__`, and a text of
another type than JSON does not begin with a mark. -/
def Kept (entry : JsString × Json) : Prop :=
  entry.1 ≠ js "__proto__" ∧
    (isJsonMime entry.1 = false → ∀ text, entry.2 = .string text →
      text.head? ≠ some byteOrderMark)

theorem beginsWithMark_iff (text : JsString) :
    beginsWithMark (encodeText text) = false ↔
      text.head? ≠ some byteOrderMark := by
  rw [beginsWithMark_encodeText, decide_eq_false_iff_not,
    not_congr (head?_scalars text)]

theorem stays_decodeItem (entry : JsString × Json) :
    Stays (host.decodeItem entry) ↔ Kept entry := by
  rw [Stays, Kept, decodeItem_mime]
  refine and_congr_right fun _ => forall_congr' fun notJson => ?_
  rw [Host.decodeItem, notJson, if_neg Bool.false_ne_true]
  split
  · rename_i text isText
    constructor
    · intro noMark other isOther
      cases isText.symm.trans isOther
      exact (beginsWithMark_iff text).mp noMark
    · intro noMark
      exact (beginsWithMark_iff text).mpr (noMark text isText)
  · rename_i notText
    constructor
    · intro _ text isText
      exact absurd isText (notText text)
    · intro _
      exact (beginsWithMark_iff _).mpr
        (head?_stringify (jsonText_isText _ entry.2))

/-- The items of a notebook that was loaded are the entries of its document. -/
theorem forall_items_iff {document : Json} {data : NotebookData}
    (decoded : host.decodeDocument document = some data)
    (holds : OutputItem → Prop) :
    (∀ cell ∈ data.cells, ∀ output ∈ cell.outputs, ∀ item ∈ output.items,
        holds item) ↔
      ∀ output ∈ documentOutputs document, ∀ entry ∈ dataEntries output,
        holds (host.decodeItem entry) := by
  rw [documentOutputs, List.forall_mem_flatMap]
  refine forall_mem_iff_of_forall₂ (cells_of_decodeDocument decoded).1 ?_
  intro raw _ cell isDecoded
  obtain ⟨source, outputs, _, mapped, rfl⟩ := parts_of_decodeCell isDecoded
  refine forall_mem_iff_of_forall₂ (forall₂_of_mapItems? mapped) ?_
  intro output _ result isResult
  rw [(items_of_decodeOutput isResult).1]
  exact List.forall_mem_map

theorem reloadOutput_iff {output : CellOutput}
    (loaded : LoadedOutput host output) :
    reloadOutput output = output ↔ ∀ item ∈ output.items, Stays item := by
  obtain ⟨⟨entries, _, _, itemsEq⟩, _⟩ := loaded
  have sameItems : reloadOutput output = output ↔
      (output.items.filter fun item =>
        item.mime ≠ js "__proto__").map reloadItem = output.items := by
    constructor
    · exact congrArg CellOutput.items
    · intro same
      rw [reloadOutput, same]
  rw [sameItems, filter_map_eq_self_iff]
  refine forall₂_congr fun item isItem => ?_
  rw [itemsEq] at isItem
  obtain ⟨entry, _, rfl⟩ := List.mem_map.mp isItem
  rw [reloadItem_decodeItem_iff, decide_eq_true_iff]
  rfl

theorem reload_iff {data : NotebookData} (loaded : LoadedNotebook host data) :
    reload data = data ↔ ∀ cell ∈ data.cells, ∀ output ∈ cell.outputs,
      ∀ item ∈ output.items, Stays item := by
  have sameCells : reload data = data ↔
      data.cells.map reloadCell = data.cells := by
    constructor
    · exact congrArg NotebookData.cells
    · intro same
      rw [reload, same]
  rw [sameCells, map_eq_self_iff]
  refine forall₂_congr fun cell isCell => ?_
  have sameOutputs : reloadCell cell = cell ↔
      cell.outputs.map reloadOutput = cell.outputs := by
    constructor
    · exact congrArg CellData.outputs
    · intro same
      rw [reloadCell, same]
  rw [sameOutputs, map_eq_self_iff]
  exact forall₂_congr fun output isOutput =>
    reloadOutput_iff ((loaded.cells cell isCell).outputs output isOutput)

/-! ### One output -/

/-- A document of one text, on a host that knows the text and what is saved. -/
theorem undoes_textDocument {host : Host} {text : JsString}
    (knowsText : host.parse (jsonText (units host.gap) (.string text)) =
      some (.string text))
    (knowsSaved : host.parse
      (jsonText (js "  ") (textDocument (decodeText (encodeText text)))) =
        some (textDocument (decodeText (encodeText text)))) :
    host.Undoes (textDocument text) (textNotebook text) where
  values := by
    intro output isOutput entry isEntry
    cases List.mem_singleton.mp isOutput
    cases List.mem_singleton.mp isEntry
    exact knowsText
  saved := knowsSaved

/-- A host that knows the document of a text and the text. -/
def okHost : Host :=
  knownValues [textDocument (js "ok"), .string (js "ok")] rfl

/-- A text that begins with `U+FEFF`. -/
def markedText : JsString :=
  0xFEFF :: js "a"

/-- A host that also knows what is saved of a marked text. -/
def markHost : Host :=
  knownValues
    [textDocument markedText, textDocument (js "a"), .string markedText] rfl

theorem okHost_parse {value : Json}
    (isKnown : value ∈ [textDocument (js "ok"), .string (js "ok")]) :
    okHost.parse (jsonText (js "  ") value) = some value :=
  knownValues_parse (by decide) isKnown

theorem markHost_parse {value : Json}
    (isKnown : value ∈
      [textDocument markedText, textDocument (js "a"), .string markedText]) :
    markHost.parse (jsonText (js "  ") value) = some value :=
  knownValues_parse (by decide +kernel) isKnown

theorem undoes_okHost :
    okHost.Undoes (textDocument (js "ok")) (textNotebook (js "ok")) := by
  have decoded : decodeText (encodeText (js "ok")) = js "ok" := by
    rw [decodeText_encodeText]
    decide
  refine undoes_textDocument (okHost_parse (by simp)) ?_
  rw [decoded]
  exact okHost_parse (by simp)

theorem undoes_markHost :
    markHost.Undoes (textDocument markedText) (textNotebook markedText) := by
  have decoded : decodeText (encodeText markedText) = js "a" := by
    rw [decodeText_encodeText]
    decide
  refine undoes_textDocument (markHost_parse (by simp)) ?_
  rw [decoded]
  exact markHost_parse (by simp)

/-! ### Any number of times -/

/-- A notebook that was loaded stays as it is over any number of savings and
reopenings if and only if every entry of its document is kept. -/
theorem reopenTimes_iff (host : Host) {content : List UInt8} {document : Json}
    {data : NotebookData}
    (parsed : host.parseDocument content = some document)
    (decoded : host.decodeDocument document = some data)
    (undoes : host.Undoes document data) :
    (∀ times, host.reopenTimes times data = some data) ↔
      ∀ output ∈ documentOutputs document, ∀ entry ∈ dataEntries output,
        Kept entry := by
  have loaded := loadedNotebook_of_decodeDocument decoded
    (inOrder_of_parseDocument parsed) undoes.values
  have reopened := reopen_eq loaded undoes.saved
  have kept : (∀ output ∈ documentOutputs document,
      ∀ entry ∈ dataEntries output, Kept entry) ↔ reload data = data := by
    rw [reload_iff loaded, forall_items_iff decoded]
    exact forall₂_congr fun output _ => forall₂_congr fun entry _ =>
      (stays_decodeItem entry).symm
  rw [kept]
  constructor
  · intro stable
    have once := stable 1
    rw [Host.reopenTimes, reopened] at once
    exact Option.some.inj once
  · intro same times
    rw [same] at reopened
    induction times with
    | zero => rfl
    | succ times inductionHypothesis =>
        rw [Host.reopenTimes, reopened]
        exact inductionHypothesis

theorem okText_stays :
    okHost.reopenTimes 2 (textNotebook (js "ok")) =
      some (textNotebook (js "ok")) := by
  have parsed := parseDocument_outputDocument (okHost_parse List.mem_cons_self)
  refine (reopenTimes_iff okHost parsed rfl undoes_okHost).mpr ?_ 2
  intro output isOutput entry isEntry
  cases List.mem_singleton.mp isOutput
  cases List.mem_singleton.mp isEntry
  refine ⟨by decide, fun _ text isText => ?_⟩
  cases isText
  decide

/-- A mark at the beginning of a text is lost when the notebook is saved. -/
theorem mark_lost :
    ∃ document data,
      markHost.parseDocument (documentOctets (textDocument markedText)) =
          some document ∧
        markHost.decodeDocument document = some data ∧
        markHost.Undoes document data ∧ markHost.reopen data ≠ some data := by
  have parsed :=
    parseDocument_outputDocument (markHost_parse List.mem_cons_self)
  have loaded := loadedNotebook_of_decodeDocument
    (@decodeDocument_textDocument markHost markedText)
    (inOrder_of_parseDocument parsed) undoes_markHost.values
  refine ⟨_, textNotebook markedText, parsed, rfl, undoes_markHost,
    fun same => ?_⟩
  rw [reopen_eq loaded undoes_markHost.saved] at same
  have stays := (reload_iff loaded).mp (Option.some.inj same) _
    List.mem_cons_self _ List.mem_cons_self _ List.mem_cons_self
  have notMarked := (beginsWithMark_iff markedText).mp (stays.2 rfl)
  exact absurd rfl notMarked

end RtsNotebook.Llmnb
