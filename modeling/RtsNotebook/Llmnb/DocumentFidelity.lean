import RtsNotebook.Llmnb.SerializerStability

/-!
# What a document keeps

Loading a notebook document and saving it, compared by what a reader of the
document sees: the type, the source and the outputs of every cell.
-/

namespace RtsNotebook.Llmnb

open RtsNotebook.Js RtsNotebook.Library RtsNotebook.Messaging

/-! ### Views -/

/-- The strings of a list of strings. -/
def texts? (items : List Json) : Option (List JsString) :=
  items.mapM Json.asString?

/-- A value, where a list of strings is its strings joined. -/
def joined : Json → Json
  | .array items =>
      match texts? items with
      | some texts => .string (join [] texts)
      | none => .array items
  | value => value

/-- A member that is a string. -/
def textAt (key : JsString) (value : Json) : Option JsString :=
  (value.member? key).bind Json.asString?

/-- Some of the members of a value. -/
def fields (keys : List JsString) (value : Json) : Members :=
  keys.filterMap fun key => (value.member? key).map fun held => (key, held)

def cellType (cell : Json) : Option JsString :=
  textAt (js "cell_type") cell

def outputType (output : Json) : Option JsString :=
  textAt (js "output_type") output

/-- The text of a stream, the fields of an error or the bundle. -/
def outputEntries (output : Json) : Members :=
  if outputType output = some (js "stream") then
    fields [js "text"] output
  else if outputType output = some (js "error") then
    fields [js "ename", js "evalue", js "traceback"] output
  else
    dataEntries output

structure OutputView where
  type : Option JsString
  content : Members

structure CellView where
  type : Option JsString
  source : Option Json
  outputs : List OutputView

def joinedEntry (entry : JsString × Json) : JsString × Json :=
  (entry.1, joined entry.2)

def outputView (output : Json) : OutputView where
  type := outputType output
  content := (outputEntries output).map joinedEntry

def cellView (cell : Json) : CellView where
  type := cellType cell
  source := (cell.member? (js "source")).map joined
  outputs := (listAt (js "outputs") cell).map outputView

def documentView (document : Json) : List CellView :=
  (listAt (js "cells") document).map cellView

/-! ### Conformant documents -/

/-- A string or a list of strings. -/
def IsMultiline (value : Json) : Prop :=
  ∃ text, joined value = .string text

inductive ConformantOutput (output : Json) : Prop where
  | stream (type : outputType output = some (js "stream"))
      (text : ∃ held, output.member? (js "text") = some held ∧
        IsMultiline held)
  | bundle (type : outputType output = some (js "display_data") ∨
        outputType output = some (js "execute_result"))
      (data : ∃ members, output.member? (js "data") = some (.object members))
  | error (type : outputType output = some (js "error"))
      (ename : ∃ text, textAt (js "ename") output = some text)
      (evalue : ∃ text, textAt (js "evalue") output = some text)
      (traceback : ∃ items texts,
        output.member? (js "traceback") = some (.array items) ∧
          texts? items = some texts)

structure ConformantCell (cell : Json) : Prop where
  type : cellType cell = some (js "code") ∨
    cellType cell = some (js "markdown") ∨ cellType cell = some (js "raw")
  source : ∃ held, cell.member? (js "source") = some held ∧ IsMultiline held
  outputs : cell.member? (js "outputs") = none ∨
    ∃ outputs, cell.member? (js "outputs") = some (.array outputs) ∧
      ∀ output ∈ outputs, ConformantOutput output

def Conformant (document : Json) : Prop :=
  ∃ cells, document.member? (js "cells") = some (.array cells) ∧
    ∀ cell ∈ cells, ConformantCell cell

/-! ### What survives -/

/-- An entry of a bundle that is saved as it was: under a type other than JSON
it is a well-formed string that does not begin with a mark. -/
def EntrySurvives (entry : JsString × Json) : Prop :=
  entry.1 ≠ js "__proto__" ∧
    (isJsonMime entry.1 = false → ∃ text, entry.2 = .string text ∧
      isWellFormed text = true ∧ text.head? ≠ some byteOrderMark)

def OutputSurvives (output : Json) : Prop :=
  outputType output = some (js "display_data") ∧
    ∀ entry ∈ dataEntries output, EntrySurvives entry

def CellSurvives (cell : Json) : Prop :=
  cellType cell ≠ some (js "raw") ∧
    ∀ output ∈ listAt (js "outputs") cell, OutputSurvives output

variable {host : Host}

/-! ### Texts -/

theorem eq_of_texts? {items : List Json} {texts : List JsString}
    (areTexts : texts? items = some texts) :
    items = texts.map Json.string := by
  have related := forall₂_of_mapM areTexts
  clear areTexts
  induction related with
  | nil => rfl
  | cons isText _ inductionHypothesis =>
      rw [List.map_cons, Json.asString?_eq_some_iff.mp isText, inductionHypothesis]

/-- The strings of a list are joined as they are. -/
theorem itemTexts?_strings (texts : List JsString) :
    Json.itemTexts? (texts.map Json.string) = some texts := by
  induction texts with
  | nil => rfl
  | cons text rest inductionHypothesis =>
      rw [List.map_cons, Json.itemTexts?, inductionHypothesis]
      · rfl
      · exact Json.noConfusion

theorem sourceOf?_multiline {cell held : Json} {text : JsString}
    (isHeld : cell.member? (js "source") = some held)
    (isText : joined held = .string text) :
    sourceOf? cell = some (some (.string text)) := by
  rw [sourceOf?, isHeld]
  cases held with
  | string other =>
      cases isText
      rfl
  | array items =>
      rw [joined] at isText
      split at isText
      · rename_i texts areTexts
        cases isText
        dsimp only
        rw [eq_of_texts? areTexts, itemTexts?_strings]
        rfl
      · cases isText
  | null => cases isText
  | bool value => cases isText
  | number value => cases isText
  | object members => cases isText

/-! ### Entries -/

/-- What an entry is saved as under a type other than JSON. -/
theorem encodeItem_decodeItem_text {entry : JsString × Json}
    (notJson : isJsonMime entry.1 = false) :
    host.encodeItem (host.decodeItem entry) =
      match entry.2 with
      | .string text => .string (decodeText (encodeText text))
      | value => .string (jsonText (units host.gap) value) := by
  have encoded : host.encodeItem (host.decodeItem entry) =
      .string (decodeText (host.decodeItem entry).data) :=
    encodeItem_text (by rw [decodeItem_mime]; exact notJson)
  rw [encoded, Host.decodeItem, notJson, if_neg Bool.false_ne_true]
  cases entry.2 with
  | string text => rfl
  | null => exact congrArg _ (decodeText_jsonText ⟨host.gap, rfl⟩ _)
  | bool value => exact congrArg _ (decodeText_jsonText ⟨host.gap, rfl⟩ _)
  | number value => exact congrArg _ (decodeText_jsonText ⟨host.gap, rfl⟩ _)
  | array items => exact congrArg _ (decodeText_jsonText ⟨host.gap, rfl⟩ _)
  | object members => exact congrArg _ (decodeText_jsonText ⟨host.gap, rfl⟩ _)

/-- A list of strings does not survive as its JSON text. -/
theorem joined_ne_jsonText (gap : JsString) (items : List Json) :
    joined (.array items) ≠ .string (jsonText gap (.array items)) := by
  intro same
  rw [joined] at same
  split at same
  · rename_i texts areTexts
    have isText := jsonText_isText gap (.array items)
    rw [eq_of_texts? areTexts] at isText same
    have shorter := join_lt_stringify isText
    rw [Json.string.inj same] at shorter
    exact absurd shorter (Nat.lt_irrefl _)
  · cases same

theorem joined_encodeItem_iff {entry : JsString × Json}
    (undoes : host.parse (jsonText (units host.gap) entry.2) = some entry.2) :
    joined (host.encodeItem (host.decodeItem entry)) = joined entry.2 ↔
      (isJsonMime entry.1 = false → ∃ text, entry.2 = .string text ∧
        isWellFormed text = true ∧ text.head? ≠ some byteOrderMark) := by
  by_cases isJson : isJsonMime entry.1 = true
  · simp [isJson, encodeItem_json isJson undoes]
  · rw [Bool.not_eq_true] at isJson
    rw [encodeItem_decodeItem_text isJson, forall_prop_of_true isJson]
    cases held : entry.2 with
    | string text =>
        have survives := decodeText_encodeText_iff text
        constructor
        · intro same
          exact ⟨text, rfl, survives.mp (Json.string.inj same)⟩
        · rintro ⟨other, isOther, wellFormed⟩
          cases isOther
          exact congrArg Json.string (survives.mpr wellFormed)
    | array items =>
        constructor
        · intro same
          exact absurd same.symm (joined_ne_jsonText _ items)
        · rintro ⟨text, isText, _⟩
          cases isText
    | null => simp [joined]
    | bool value => simp [joined]
    | number value => simp [joined]
    | object members => simp [joined]

/-! ### Outputs -/

theorem outputView_encodeOutput_iff {raw : Json} {output : CellOutput}
    (decoded : host.decodeOutput raw = some output)
    (inOrder : InOrder (dataEntries raw))
    (undoes : ∀ entry ∈ dataEntries raw,
      host.parse (jsonText (units host.gap) entry.2) = some entry.2) :
    outputView (host.encodeOutput output) = outputView raw ↔
      OutputSurvives raw := by
  have saved : outputView (host.encodeOutput output) =
      { type := some (js "display_data")
        content := (output.items.foldl host.assignItem []).map joinedEntry } :=
    rfl
  rw [saved, (items_of_decodeOutput decoded).1, savedData_eq inOrder, outputView, OutputView.mk.injEq,
    OutputSurvives, eq_comm]
  refine and_congr_right fun isDisplay => ?_
  have entries : outputEntries raw = dataEntries raw := by
    rw [outputEntries, isDisplay, if_neg (by decide), if_neg (by decide)]
  rw [entries, List.filter_map, List.map_map, filter_map_eq_map_iff]
  refine forall₂_congr fun entry isEntry => ?_
  rw [Function.comp_apply, decide_eq_true_iff, Function.comp_apply,
    joinedEntry, joinedEntry, Prod.mk.injEq, EntrySurvives,
    joined_encodeItem_iff (undoes entry isEntry)]
  exact and_congr_right fun _ => and_iff_right rfl

/-! ### Cells -/

theorem exists_decodeOutput {raw : Json} (conformant : ConformantOutput raw) :
    ∃ output, host.decodeOutput raw = some output := by
  have type : ∃ type, outputType raw = some type := by
    cases conformant with
    | stream type _ => exact ⟨_, type⟩
    | bundle type _ =>
        rcases type with type | type
        · exact ⟨_, type⟩
        · exact ⟨_, type⟩
    | error type _ _ _ => exact ⟨_, type⟩
  obtain ⟨type, isType⟩ := type
  rw [Host.decodeOutput.eq_def]
  split
  · cases isType
  · exact ⟨_, rfl⟩

theorem exists_mapItems?_outputs {cell : Json}
    (conformant : ConformantCell cell) :
    ∃ outputs, mapItems? host.decodeOutput (cell.member? (js "outputs")) =
      some outputs := by
  rcases conformant.outputs with absent | ⟨outputs, areOutputs, all⟩
  · rw [absent]
    exact ⟨[], rfl⟩
  · rw [areOutputs]
    exact exists_mapM fun output isOutput =>
      exists_decodeOutput (all output isOutput)

/-- A conformant cell is loaded with its source joined. -/
theorem decodeCell_conformant {cell : Json} (conformant : ConformantCell cell)
    {data : CellData} (decoded : host.decodeCell cell = some data) :
    ∃ held text outputs, cell.member? (js "source") = some held ∧
      joined held = .string text ∧
      mapItems? host.decodeOutput (cell.member? (js "outputs")) =
        some outputs ∧
      data = makeCell (isMarkdownCell cell) (some (.string text))
        (orEmpty (cell.member? (js "metadata"))) outputs := by
  obtain ⟨held, isHeld, text, isText⟩ := conformant.source
  obtain ⟨source, outputs, isSource, mapped, rfl⟩ :=
    parts_of_decodeCell decoded
  rw [sourceOf?_multiline isHeld isText] at isSource
  cases isSource
  exact ⟨held, text, outputs, isHeld, isText, mapped, rfl⟩

theorem isMarkdownCell_eq (cell : Json) :
    isMarkdownCell cell = decide (cellType cell = some (js "markdown")) := by
  rw [isMarkdownCell, cellType, textAt]
  cases cell.member? (js "cell_type") with
  | none => rfl
  | some held =>
      cases held with
      | string type => simp [Json.asString?]
      | null => rfl
      | bool value => rfl
      | number value => rfl
      | array items => rfl
      | object members => rfl

/-- A cell is saved as markdown or as code, and never as raw. -/
theorem savedType_iff {cell : Json} (conformant : ConformantCell cell) :
    some (if isMarkdownCell cell then js "markdown" else js "code") =
      cellType cell ↔ cellType cell ≠ some (js "raw") := by
  rw [isMarkdownCell_eq]
  rcases conformant.type with type | type | type
  · rw [type]
    decide
  · rw [type]
    decide
  · rw [type]
    decide

theorem cellView_encodeCell (isMarkdown : Bool) (text : JsString)
    (metadata : Json) (outputs : List CellOutput) :
    cellView (host.encodeCell
        (makeCell isMarkdown (some (.string text)) metadata outputs)) =
      { type := some (if isMarkdown then js "markdown" else js "code")
        source := some (.string text)
        outputs := outputs.map fun output =>
          outputView (host.encodeOutput output) } := by
  have outputViews : (outputs.map host.encodeOutput).map outputView =
      outputs.map fun output => outputView (host.encodeOutput output) :=
    List.map_map
  rw [← outputViews]
  cases isMarkdown with
  | true => rfl
  | false => rfl

theorem cellView_encodeCell_iff {cell : Json} {data : CellData}
    (decoded : host.decodeCell cell = some data)
    (conformant : ConformantCell cell)
    (inOrder : ∀ output ∈ listAt (js "outputs") cell,
      InOrder (dataEntries output))
    (undoes : ∀ output ∈ listAt (js "outputs") cell,
      ∀ entry ∈ dataEntries output,
        host.parse (jsonText (units host.gap) entry.2) = some entry.2) :
    cellView (host.encodeCell data) = cellView cell ↔ CellSurvives cell := by
  obtain ⟨held, text, outputs, isHeld, isText, mapped, rfl⟩ :=
    decodeCell_conformant conformant decoded
  have outputsIff := map_eq_map_iff_of_forall₂ (forall₂_of_mapItems? mapped)
    fun output isOutput result isResult =>
      outputView_encodeOutput_iff isResult (inOrder output isOutput)
        (undoes output isOutput)
  rw [cellView_encodeCell, cellView, CellView.mk.injEq, savedType_iff conformant,
    isHeld, Option.map_some, isText, outputsIff, CellSurvives]
  exact and_congr_right fun _ => and_iff_right rfl

theorem exists_decodeCell {cell : Json} (conformant : ConformantCell cell) :
    ∃ data, host.decodeCell cell = some data := by
  obtain ⟨held, isHeld, text, isText⟩ := conformant.source
  obtain ⟨outputs, mapped⟩ := @exists_mapItems?_outputs host cell conformant
  rw [Host.decodeCell.eq_def]
  split
  · cases isHeld
  · rw [sourceOf?_multiline isHeld isText, mapped]
    exact ⟨_, rfl⟩

/-! ### Documents -/

theorem exists_decodeDocument {document : Json}
    (conformant : Conformant document) :
    ∃ data, host.decodeDocument document = some data := by
  obtain ⟨cells, areCells, all⟩ := conformant
  obtain ⟨decodedCells, mapped⟩ := exists_mapM fun cell isCell =>
    @exists_decodeCell host cell (all cell isCell)
  rw [Host.decodeDocument.eq_def]
  split
  · cases areCells
  · rw [areCells, mapItems?, mapped]
    exact ⟨_, rfl⟩

/-- What is loaded from a document is saved as a document that a reader sees
as the same one. -/
def PreservesDocument (host : Host) (content : List UInt8)
    (document : Json) : Prop :=
  ∃ data saved, host.deserializeNotebook content = some data ∧
    host.parseDocument (host.serializeNotebook data) = some saved ∧
      documentView saved = documentView document

theorem preservesDocument_iff_view {content : List UInt8} {document : Json}
    {data : NotebookData}
    (parsed : host.parseDocument content = some document)
    (decoded : host.decodeDocument document = some data)
    (saved : host.parse (host.savedText data) =
      some (host.encodeDocument data)) :
    PreservesDocument host content document ↔
      documentView (host.encodeDocument data) = documentView document := by
  have loaded : host.deserializeNotebook content = some data := by
    rw [Host.deserializeNotebook, parsed, Option.bind_some, decoded]
  have reread : host.parseDocument (host.serializeNotebook data) =
      some (host.encodeDocument data) := by
    rw [parseDocument_serializeNotebook, saved]
  constructor
  · rintro ⟨other, read, isOther, isRead, same⟩
    cases loaded.symm.trans isOther
    cases reread.symm.trans isRead
    exact same
  · intro same
    exact ⟨data, _, loaded, reread, same⟩

theorem conformant_outputDocument {output : Json}
    (conformant : ConformantOutput output) :
    Conformant (outputDocument output) := by
  refine ⟨_, rfl, fun cell isCell => ?_⟩
  cases List.mem_singleton.mp isCell
  refine ⟨Or.inl rfl, ⟨_, rfl, _, rfl⟩, Or.inr ⟨_, rfl, fun other isOther => ?_⟩⟩
  rw [List.mem_singleton.mp isOther]
  exact conformant

/-- A conformant document is preserved if and only if none of its cells is raw,
all its outputs are displays and every entry of these survives. -/
theorem preservesDocument_iff (host : Host) {content : List UInt8}
    {document : Json} (parsed : host.parseDocument content = some document)
    (conformant : Conformant document)
    (undoes : ∀ data, host.decodeDocument document = some data →
      host.Undoes document data) :
    PreservesDocument host content document ↔
      ∀ cell ∈ listAt (js "cells") document, CellSurvives cell := by
  obtain ⟨data, decoded⟩ := @exists_decodeDocument host document conformant
  have known := undoes data decoded
  have inOrder := inOrder_of_parseDocument parsed
  have views : documentView (host.encodeDocument data) =
      data.cells.map fun cell => cellView (host.encodeCell cell) :=
    List.map_map
  obtain ⟨cells, areCells, all⟩ := conformant
  have listed : listAt (js "cells") document = cells := by
    rw [listAt, areCells]
  rw [preservesDocument_iff_view parsed decoded known.saved, views]
  refine map_eq_map_iff_of_forall₂ (cells_of_decodeDocument decoded).1
    fun cell isCell result isResult => ?_
  have within (output : Json) (isOutput : output ∈ listAt (js "outputs") cell) :
      output ∈ documentOutputs document :=
    List.mem_flatMap.mpr ⟨cell, isCell, isOutput⟩
  have conformantCell : ConformantCell cell := all cell (listed ▸ isCell)
  exact cellView_encodeCell_iff isResult conformantCell
    (fun output isOutput => inOrder output (within output isOutput))
    (fun output isOutput => known.values output (within output isOutput))

theorem okText_preserved :
    PreservesDocument okHost (documentOctets (textDocument (js "ok")))
      (textDocument (js "ok")) := by
  have parsed := parseDocument_outputDocument (okHost_parse List.mem_cons_self)
  have conformant : Conformant (textDocument (js "ok")) :=
    conformant_outputDocument (.bundle (Or.inl rfl) ⟨_, rfl⟩)
  refine (preservesDocument_iff okHost parsed conformant ?_).mpr ?_
  · intro data decoded
    cases (decodeDocument_textDocument okHost (js "ok")).symm.trans decoded
    exact undoes_okHost
  · intro cell isCell
    cases List.mem_singleton.mp isCell
    refine ⟨by decide, fun output isOutput => ?_⟩
    cases List.mem_singleton.mp isOutput
    refine ⟨by decide, fun entry isEntry => ?_⟩
    cases List.mem_singleton.mp isEntry
    exact ⟨by decide, fun _ => ⟨_, rfl, by decide, by decide⟩⟩

/-! ### The output of a program -/

/-- What a program has printed. -/
def streamOutput : Json :=
  .object
    [(js "output_type", .string (js "stream")),
      (js "name", .string (js "stdout")), (js "text", .string (js "2\n"))]

/-- A host that knows a document with that output and what is saved of it. -/
def streamHost : Host :=
  knownValues [outputDocument streamOutput, outputDocument (displayOutput [])]
    rfl

theorem streamHost_parse {value : Json}
    (isKnown : value ∈
      [outputDocument streamOutput, outputDocument (displayOutput [])]) :
    streamHost.parse (jsonText (js "  ") value) = some value :=
  knownValues_parse (by decide +kernel) isKnown

theorem undoes_streamHost :
    streamHost.Undoes (outputDocument streamOutput) (outputNotebook []) where
  values := by
    intro output isOutput entry isEntry
    cases List.mem_singleton.mp isOutput
    cases isEntry
  saved := streamHost_parse (List.mem_cons_of_mem _ List.mem_cons_self)

/-- What a program has printed is lost when the notebook is saved. -/
theorem stream_lost :
    ∃ content,
      streamHost.parseDocument content = some (outputDocument streamOutput) ∧
        Conformant (outputDocument streamOutput) ∧
        (∀ data,
          streamHost.decodeDocument (outputDocument streamOutput) = some data →
            streamHost.Undoes (outputDocument streamOutput) data) ∧
        ¬ PreservesDocument streamHost content
          (outputDocument streamOutput) := by
  have parsed :=
    parseDocument_outputDocument (streamHost_parse List.mem_cons_self)
  have decoded : streamHost.decodeDocument (outputDocument streamOutput) =
      some (outputNotebook []) := rfl
  refine ⟨_, parsed, conformant_outputDocument (.stream rfl ⟨_, rfl, _, rfl⟩),
    ?_, ?_⟩
  · intro data isData
    cases decoded.symm.trans isData
    exact undoes_streamHost
  · intro preserved
    have same := (preservesDocument_iff_view parsed decoded
      undoes_streamHost.saved).mp preserved
    have types := congrArg
      (List.map fun cell => cell.outputs.map OutputView.type) same
    exact absurd types (by decide)

end RtsNotebook.Llmnb
