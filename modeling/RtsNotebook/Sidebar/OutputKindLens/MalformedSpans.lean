import RtsNotebook.Library.MappedLists
import RtsNotebook.Otel.Undecodable
import RtsNotebook.Sidebar.OutputKindLens.Extractor

/-!
# Malformed spans in the output-kind lens

The lens reads the attributes of a span without looking at their shape, and
catches nothing.  A span that the readers throw on hides all others.
-/

namespace RtsNotebook.Sidebar.OutputKindLens

open RtsNotebook.Js RtsNotebook.Library RtsNotebook.Otel
open RtsNotebook.Llmnb (CellOutput OutputItem RTS_RUN_MIME
  decodeText_jsonText jsonText)
open RtsNotebook.Sidebar.Search (NotebookCell outputItems decodeItem
  primaryCellId)

/-! ### What the lens is to show -/

/-- An attribute with a name and an `AnyValue`. -/
def isAttribute (entry : Json) : Bool :=
  ((entry.member? (js "key")).bind Json.asString?).isSome &&
    match entry.member? (js "value") with
    | some (.object _) => true
    | _ => false

/-- Whether the attribute has the key. -/
def hasKey (key : JsString) (entry : Json) : Bool :=
  (entry.member? (js "key")).bind Json.asString? = some key

/-- The attributes of a span where they are a well-formed list. -/
def wellFormed? (span : OtlpSpan) : Option (List Json) :=
  match span.members.lookup (js "attributes") with
  | some (.array attributes) =>
      if attributes.all isAttribute then some attributes else none
  | _ => none

/-- The output kind of a span with a well-formed list of attributes; the last
attribute of a name counts. -/
def outputKind? (span : OtlpSpan) : Option JsString := do
  let attributes ← wellFormed? span
  let entry ← attributes.reverse.find? (hasKey (js "llmnb.output.kind"))
  let value ← entry.member? (js "value")
  let kind ← (value.member? (js "stringValue")).bind Json.asString?
  if kind = [] then none else some kind

/-- Whether the lens is to show the span. -/
def hasOutputKind (placed : PlacedSpan) : Bool :=
  (outputKind? placed.span).isSome

/-- The bucket of the kind. -/
def IsBucket (kind : JsString) : Option OutputKind → Prop
  | some known => known.text = kind
  | none => ∀ known : OutputKind, known.text ≠ kind

/-- What the lens shows stands for the span, in its cell and under its kind. -/
structure TagOf (placed : PlacedSpan) (tagged : TaggedSpan) : Prop where
  cellIndex : tagged.cellIndex = placed.cellIndex
  cellId : tagged.cellId = placed.cellId
  spanId : tagged.spanId = placed.span.spanId
  outputKind : ∃ kind, outputKind? placed.span = some kind ∧
    IsBucket kind tagged.outputKind

/-- The lens does not throw, and what it shows contains, in their order, all
spans that have an output kind. -/
def ShowsEvery (parse : JsString → Option Json) (dateParse : DateParse)
    (notebook : Option (List LensCell)) : Prop :=
  ∃ shown, extractTaggedSpans? parse dateParse notebook = some shown ∧
    ∃ expected, List.Forall₂ TagOf
        ((spansOf parse notebook).filter hasOutputKind) expected ∧
      expected.Sublist shown

/-! ### When it does -/

/-- A span in a payload: the payload itself, an item of an array, or an item of
the `spans` or else of the `scopeSpans` of an object that is no span. -/
inductive SpanIn : Json → OtlpSpan → Prop
  | itself (span : OtlpSpan) : SpanIn (.object span.members) span
  | item {items : List Json} {item : Json} {span : OtlpSpan}
      (isItem : item ∈ items) (spanIn : SpanIn item span) :
      SpanIn (.array items) span
  | spans {members : List (JsString × Json)} {items : List Json}
      {span : OtlpSpan} (noSpan : ∀ other : OtlpSpan, other.members ≠ members)
      (isArray : members.lookup (js "spans") = some (.array items))
      (spanIn : SpanIn (.array items) span) : SpanIn (.object members) span
  | scopeSpans {members : List (JsString × Json)} {items : List Json}
      {span : OtlpSpan} (noSpan : ∀ other : OtlpSpan, other.members ≠ members)
      (noSpans : ∀ others, members.lookup (js "spans") ≠ some (.array others))
      (isArray : members.lookup (js "scopeSpans") = some (.array items))
      (spanIn : SpanIn (.array items) span) : SpanIn (.object members) span

/-- A span in a run output of a cell that is no markup. -/
def IsIn (parse : JsString → Option Json) (notebook : Option (List LensCell))
    (span : OtlpSpan) : Prop :=
  ∃ cell ∈ notebook.getD [], cell.kind ≠ .markup ∧
    ∃ payload ∈ iterateRunItems parse cell.cell, SpanIn payload span

/-- The names that the lens reads are readable: the output kind, and the two
others where the output kind is a text that is not empty. -/
def ReadsSafely (span : OtlpSpan) : Prop :=
  ∀ attributes, span.members.lookup (js "attributes") =
      some (.array attributes) →
    Readable attributes (js "llmnb.output.kind") ∧
      ∀ kind, stringAttr? attributes (js "llmnb.output.kind") = some kind →
        kind ≠ [] →
          Readable attributes (js "llmnb.agent_id") ∧
            Readable attributes (js "llmnb.emit_content")

section

variable {members : List (JsString × Json)} {attributes items : List Json}
  {span : OtlpSpan} {key : JsString} {parse : JsString → Option Json}
  {dateParse : DateParse} {notebook : Option (List LensCell)}

/-! ### The spans of a payload -/

theorem spanOf?_eq_some_iff :
    spanOf? members = some span ↔ span.members = members := by
  constructor
  · intro isSpan
    rw [spanOf?] at isSpan
    split at isSpan
    · cases isSpan
      rfl
    · cases isSpan
  · rintro rfl
    rw [spanOf?]
    split
    · rename_i traceId spanId hasTraceId hasSpanId
      have sameTrace := span.hasTraceId.symm.trans hasTraceId
      have sameSpan := span.hasSpanId.symm.trans hasSpanId
      cases span
      cases sameTrace
      cases sameSpan
      rfl
    · rename_i neither
      exact (neither _ _ span.hasTraceId span.hasSpanId).elim

theorem spanOf?_eq_none_iff : spanOf? members = none ↔
    ∀ other : OtlpSpan, other.members ≠ members := by
  rw [Option.eq_none_iff_forall_ne_some]
  simp only [ne_eq, spanOf?_eq_some_iff]

theorem hasArray_iff : hasArray members key = true ↔
    ∃ items, members.lookup key = some (.array items) := by
  rw [hasArray]
  split
  · rename_i items isArray
    exact ⟨fun _ => ⟨items, isArray⟩, fun _ => rfl⟩
  · rename_i noArray
    constructor
    · intro isTrue
      cases isTrue
    · rintro ⟨items, isArray⟩
      exact absurd isArray (noArray items)

theorem iterateMember_eq (key : JsString)
    (members : List (JsString × Json)) : iterateMember key members =
      ((members.lookup key).map iterateArray).getD [] :=
  search_eq rfl (fun _ _ _ => by rw [iterateMember]) members

theorem mem_iterateItems_iff : span ∈ iterateItems items ↔
    ∃ item ∈ items, span ∈ iterateSpans item := by
  induction items with
  | nil => simp [iterateItems]
  | cons item rest inductionHypothesis =>
      rw [iterateItems, List.mem_append, inductionHypothesis,
        List.exists_mem_cons_iff]

theorem mem_iterateMember_iff : span ∈ iterateMember key members ↔
    ∃ items, members.lookup key = some (.array items) ∧
      span ∈ iterateSpans (.array items) := by
  rw [iterateMember_eq]
  cases members.lookup key with
  | none => simp
  | some value => cases value <;> simp [iterateArray, iterateSpans]

theorem SpanIn.mem {payload : Json} (spanIn : SpanIn payload span) :
    span ∈ iterateSpans payload := by
  induction spanIn with
  | itself span =>
      rw [iterateSpans, spanOf?_eq_some_iff.mpr rfl]
      exact List.mem_singleton_self span
  | item isItem _ inductionHypothesis =>
      rw [iterateSpans, mem_iterateItems_iff]
      exact ⟨_, isItem, inductionHypothesis⟩
  | spans noSpan isArray _ inductionHypothesis =>
      rw [iterateSpans, spanOf?_eq_none_iff.mpr noSpan]
      dsimp only
      rw [if_pos (hasArray_iff.mpr ⟨_, isArray⟩), mem_iterateMember_iff]
      exact ⟨_, isArray, inductionHypothesis⟩
  | scopeSpans noSpan noSpans isArray _ inductionHypothesis =>
      rw [iterateSpans, spanOf?_eq_none_iff.mpr noSpan]
      dsimp only
      rw [if_neg fun both => (hasArray_iff.mp both).elim noSpans,
        mem_iterateMember_iff]
      exact ⟨_, isArray, inductionHypothesis⟩

mutual

theorem spanIn_of_mem : (payload : Json) → span ∈ iterateSpans payload →
    SpanIn payload span
  | .array items, isSpan => by
      rw [iterateSpans] at isSpan
      obtain ⟨item, isItem, spanIn⟩ := spanIn_of_mem_items items isSpan
      exact .item isItem spanIn
  | .object members, isSpan => by
      rw [iterateSpans] at isSpan
      cases itself : spanOf? members with
      | some only =>
          rw [itself] at isSpan
          obtain rfl := List.mem_singleton.mp isSpan
          rw [← spanOf?_eq_some_iff.mp itself]
          exact .itself span
      | none =>
          rw [itself] at isSpan
          have noSpan := spanOf?_eq_none_iff.mp itself
          dsimp only at isSpan
          by_cases hasSpans : hasArray members (js "spans") = true
          · rw [if_pos hasSpans] at isSpan
            obtain ⟨items, isArray, spanIn⟩ :=
              spanIn_of_mem_member (js "spans") members isSpan
            exact .spans noSpan isArray spanIn
          · rw [if_neg hasSpans] at isSpan
            obtain ⟨items, isArray, spanIn⟩ :=
              spanIn_of_mem_member (js "scopeSpans") members isSpan
            refine .scopeSpans noSpan (fun others isOthers => ?_) isArray spanIn
            exact hasSpans (hasArray_iff.mpr ⟨others, isOthers⟩)
  | .null, isSpan => by cases isSpan
  | .bool _, isSpan => by cases isSpan
  | .number _, isSpan => by cases isSpan
  | .string _, isSpan => by cases isSpan

theorem spanIn_of_mem_items : (items : List Json) →
    span ∈ iterateItems items → ∃ item ∈ items, SpanIn item span
  | [], isSpan => by cases isSpan
  | item :: rest, isSpan => by
      rw [iterateItems, List.mem_append] at isSpan
      rcases isSpan with isFirst | isLater
      · exact ⟨item, List.mem_cons_self, spanIn_of_mem item isFirst⟩
      · obtain ⟨later, isItem, spanIn⟩ := spanIn_of_mem_items rest isLater
        exact ⟨later, List.mem_cons_of_mem item isItem, spanIn⟩

theorem spanIn_of_mem_member (key : JsString) :
    (members : List (JsString × Json)) → span ∈ iterateMember key members →
      ∃ items, members.lookup key = some (.array items) ∧
        SpanIn (.array items) span
  | [], isSpan => by cases isSpan
  | (name, value) :: rest, isSpan => by
      rw [iterateMember] at isSpan
      rw [lookup_cons_eq]
      by_cases isName : name = key
      · rw [if_pos isName] at isSpan
        rw [if_pos isName.symm]
        obtain ⟨items, rfl, spanIn⟩ := spanIn_of_mem_array value isSpan
        exact ⟨items, rfl, spanIn⟩
      · rw [if_neg isName] at isSpan
        rw [if_neg (Ne.symm isName)]
        exact spanIn_of_mem_member key rest isSpan

theorem spanIn_of_mem_array : (value : Json) → span ∈ iterateArray value →
    ∃ items, value = .array items ∧ SpanIn (.array items) span
  | .array items, isSpan => by
      rw [iterateArray] at isSpan
      obtain ⟨item, isItem, spanIn⟩ := spanIn_of_mem_items items isSpan
      exact ⟨items, rfl, .item isItem spanIn⟩
  | .null, isSpan => by cases isSpan
  | .bool _, isSpan => by cases isSpan
  | .number _, isSpan => by cases isSpan
  | .string _, isSpan => by cases isSpan
  | .object _, isSpan => by cases isSpan

end

theorem mem_iterateSpans_iff {payload : Json} :
    span ∈ iterateSpans payload ↔ SpanIn payload span :=
  ⟨spanIn_of_mem payload, SpanIn.mem⟩

theorem exists_placed_iff :
    (∃ placed ∈ spansOf parse notebook, placed.span = span) ↔
      IsIn parse notebook span := by
  constructor
  · rintro ⟨placed, isPlaced, rfl⟩
    obtain ⟨⟨cell, index⟩, isEntry, ofCell⟩ := List.mem_flatMap.mp isPlaced
    rw [spansOfCell] at ofCell
    split at ofCell
    · cases ofCell
    · rename_i notMarkup
      obtain ⟨span, isSpan, rfl⟩ := List.mem_map.mp ofCell
      obtain ⟨payload, isPayload, inPayload⟩ := List.mem_flatMap.mp isSpan
      exact ⟨cell, List.fst_mem_of_mem_zipIdx isEntry, notMarkup, payload,
        isPayload, mem_iterateSpans_iff.mp inPayload⟩
  · rintro ⟨cell, isCell, notMarkup, payload, isPayload, inPayload⟩
    rw [← List.zipIdx_map_fst 0 (notebook.getD [])] at isCell
    obtain ⟨⟨cell, index⟩, isEntry, rfl⟩ := List.mem_map.mp isCell
    refine ⟨⟨index, primaryCellId cell.cell, span⟩,
      List.mem_flatMap.mpr ⟨(cell, index), isEntry, ?_⟩, rfl⟩
    rw [spansOfCell, if_neg notMarkup]
    apply List.mem_map_of_mem
    exact List.mem_flatMap.mpr
      ⟨payload, isPayload, mem_iterateSpans_iff.mpr inPayload⟩

/-! ### What throws -/

theorem stringAttr?_isSome_iff :
    (stringAttr? attributes key).isSome = true ↔ Readable attributes key := by
  rw [stringAttr?, getStringAttr?, getAttr?, Option.isSome_map,
    searchAttr?_isSome_iff]

theorem buildSnippet?_isSome_iff :
    (buildSnippet? span attributes).isSome = true ↔
      Readable attributes (js "llmnb.emit_content") := by
  rw [← stringAttr?_isSome_iff, buildSnippet?]
  cases stringAttr? attributes (js "llmnb.emit_content") with
  | none => rfl
  | some emit => rfl

theorem toTaggedSpan?_isSome_iff {cellIndex : Nat} {cellId : JsString} :
    (toTaggedSpan? dateParse cellIndex cellId span).isSome = true ↔
      ReadsSafely span := by
  rw [toTaggedSpan?, ReadsSafely]
  split
  · rename_i attributes isList
    have readable : ∀ key, Readable attributes key ↔
        (stringAttr? attributes key).isSome = true :=
      fun key => stringAttr?_isSome_iff.symm
    have snippet := @buildSnippet?_isSome_iff attributes span
    rw [isList]
    simp only [Option.some.injEq, Json.array.injEq, forall_eq', ← snippet]
    rw [readable, readable]
    cases stringAttr? attributes (js "llmnb.output.kind") with
    | none => simp
    | some kind =>
        by_cases isEmpty : kind = []
        · simp [isEmpty]
        · cases stringAttr? attributes (js "llmnb.agent_id") with
          | none => simp [isEmpty]
          | some agentId =>
              cases buildSnippet? span attributes <;> simp [isEmpty]
  · rename_i noList
    constructor
    · intro _ attributes isList
      exact absurd isList (noList attributes)
    · intro _
      rfl

theorem isSome_iff : (extractTaggedSpans? parse dateParse notebook).isSome =
    true ↔ ∀ span, IsIn parse notebook span → ReadsSafely span := by
  rw [extractTaggedSpans?, Option.isSome_map]
  constructor
  · intro isSome span isIn
    obtain ⟨results, mapped⟩ := Option.isSome_iff_exists.mp isSome
    obtain ⟨placed, isPlaced, rfl⟩ := exists_placed_iff.mpr isIn
    obtain ⟨result, _, isResult⟩ :=
      exists_of_mem_left (forall₂_of_mapM mapped) isPlaced
    apply toTaggedSpan?_isSome_iff.mp
    rw [isResult]
    rfl
  · intro safe
    rw [Option.isSome_iff_exists]
    apply exists_mapM
    intro placed isPlaced
    apply Option.isSome_iff_exists.mp
    apply toTaggedSpan?_isSome_iff.mpr
    exact safe placed.span (exists_placed_iff.mp ⟨placed, isPlaced, rfl⟩)

/-! ### What is shown -/

theorem OutputKind.mem_all (kind : OutputKind) : kind ∈ OutputKind.all := by
  cases kind <;> decide

theorem isBucket_knownOutputKind? (kind : JsString) :
    IsBucket kind (knownOutputKind? kind) := by
  rw [knownOutputKind?]
  cases found : OutputKind.all.find? fun known => known.text = kind with
  | some known =>
      have same := List.find?_some found
      exact of_decide_eq_true (p := known.text = kind) same
  | none =>
      intro known same
      have noKind := List.find?_eq_none.mp found known known.mem_all
      exact noKind (decide_eq_true same)

/-- In a list of attributes the search reads the first one with the key. -/
theorem searchAttr?_of_find? {entry : Json}
    (areAttributes : ∀ entry ∈ items, isAttribute entry = true)
    (found : items.find? (hasKey key) = some entry) :
    ∃ members, entry = .object members ∧
      searchAttr? key items = entryValue? members := by
  induction items with
  | nil => cases found
  | cons first rest inductionHypothesis =>
      have isFirst := areAttributes first List.mem_cons_self
      cases first with
      | object members =>
          rw [searchAttr?]
          rw [List.find?_cons] at found
          cases hasName : hasKey key (.object members) with
          | true =>
              rw [hasName] at found
              have isKey : (members.lookup (js "key")).bind Json.asString? =
                  some key := of_decide_eq_true hasName
              rw [if_pos isKey]
              exact ⟨members, (Option.some.inj found).symm, rfl⟩
          | false =>
              rw [hasName] at found
              have noKey : (members.lookup (js "key")).bind Json.asString? ≠
                  some key := of_decide_eq_false hasName
              rw [if_neg noKey]
              exact inductionHypothesis (fun other isOther =>
                areAttributes other (List.mem_cons_of_mem _ isOther)) found
      | _ => cases isFirst

theorem entryValue?_of_stringValue {value : Json} {text : JsString}
    (isValue : (Json.object members).member? (js "value") = some value)
    (isText : (value.member? (js "stringValue")).bind Json.asString? =
      some text) : entryValue? members = some (.string text) := by
  have isMember : members.lookup (js "value") = some value := isValue
  rw [Json.bind_asString?_eq_some_iff] at isText
  rw [entryValue?_eq, isMember]
  cases value with
  | object fields =>
      have isField : fields.lookup (js "stringValue") =
          some (.string text) := isText
      change decodeAnyValue? (.object fields) = some (.string text)
      rw [decodeAnyValue?, scalarValue?, isField]
      rfl
  | _ => cases isText

/-- The lens reads the output kind of a well-formed list. -/
theorem stringAttr?_of_outputKind? {kind : JsString}
    (isKind : outputKind? span = some kind) :
    ∃ attributes, span.members.lookup (js "attributes") =
        some (.array attributes) ∧
      stringAttr? attributes (js "llmnb.output.kind") = some kind ∧
        kind ≠ [] := by
  rw [outputKind?] at isKind
  obtain ⟨attributes, wellFormed, isKind⟩ := Option.bind_eq_some_iff.mp isKind
  obtain ⟨entry, found, isKind⟩ := Option.bind_eq_some_iff.mp isKind
  obtain ⟨value, isValue, isKind⟩ := Option.bind_eq_some_iff.mp isKind
  obtain ⟨text, isText, isKind⟩ := Option.bind_eq_some_iff.mp isKind
  by_cases isEmpty : text = []
  · rw [if_pos isEmpty] at isKind
    cases isKind
  rw [if_neg isEmpty] at isKind
  cases isKind
  rw [wellFormed?] at wellFormed
  split at wellFormed
  · rename_i list isList
    split at wellFormed
    · rename_i areAttributes
      obtain rfl : list = attributes := Option.some.inj wellFormed
      obtain ⟨members, rfl, searched⟩ := searchAttr?_of_find?
        (fun entry isEntry => List.all_eq_true.mp areAttributes entry
          (List.mem_reverse.mp isEntry)) found
      refine ⟨list, isList, ?_, isEmpty⟩
      rw [stringAttr?, getStringAttr?, getAttr?, searched,
        entryValue?_of_stringValue isValue isText]
      rfl
    · cases wellFormed
  · cases wellFormed

/-- A span with an output kind is tagged where nothing throws. -/
theorem exists_tagOf {placed : PlacedSpan} {result : Option TaggedSpan}
    (hasKind : hasOutputKind placed = true)
    (isResult : toTaggedSpan? dateParse placed.cellIndex placed.cellId
      placed.span = some result) :
    ∃ tagged, result = some tagged ∧ TagOf placed tagged := by
  obtain ⟨kind, isKind⟩ := Option.isSome_iff_exists.mp hasKind
  obtain ⟨attributes, isList, isRead, notEmpty⟩ :=
    stringAttr?_of_outputKind? isKind
  rw [toTaggedSpan?, isList] at isResult
  dsimp only at isResult
  rw [isRead] at isResult
  change (if kind = [] then some none else _) = some result at isResult
  rw [if_neg notEmpty] at isResult
  obtain ⟨agentId, _, isResult⟩ := Option.bind_eq_some_iff.mp isResult
  obtain ⟨snippet, _, isResult⟩ := Option.bind_eq_some_iff.mp isResult
  cases isResult
  exact ⟨_, rfl, rfl, rfl, rfl, kind, isKind, isBucket_knownOutputKind? kind⟩

theorem exists_expected {spans : List PlacedSpan}
    {results : List (Option TaggedSpan)}
    (related : List.Forall₂ (fun placed result =>
      toTaggedSpan? dateParse placed.cellIndex placed.cellId placed.span =
        some result) spans results) :
    ∃ expected, List.Forall₂ TagOf
        (spans.filter hasOutputKind) expected ∧
      expected.Sublist (results.filterMap id) := by
  induction related with
  | nil => exact ⟨[], .nil, List.Sublist.refl []⟩
  | @cons placed result spans results isResult _ inductionHypothesis =>
      obtain ⟨expected, tags, sublist⟩ := inductionHypothesis
      by_cases hasKind : hasOutputKind placed = true
      · obtain ⟨tagged, rfl, tagOf⟩ := exists_tagOf hasKind isResult
        refine ⟨tagged :: expected, ?_, ?_⟩
        · rw [List.filter_cons_of_pos hasKind]
          exact .cons tagOf tags
        · change (tagged :: expected).Sublist (tagged :: results.filterMap id)
          exact sublist.cons_cons tagged
      · refine ⟨expected, ?_, ?_⟩
        · rw [List.filter_cons_of_neg hasKind]
          exact tags
        · cases result with
          | none => exact sublist
          | some extra => exact sublist.cons extra

theorem showsEvery_of_isSome (isSome :
    (extractTaggedSpans? parse dateParse notebook).isSome = true) :
    ShowsEvery parse dateParse notebook := by
  obtain ⟨shown, isShown⟩ := Option.isSome_iff_exists.mp isSome
  obtain ⟨results, mapped, rfl⟩ := Option.map_eq_some_iff.mp isShown
  exact ⟨_, isShown, exists_expected (forall₂_of_mapM mapped)⟩

/-- The lens shows every span with an output kind if and only if all spans of
the notebook are read safely. -/
theorem showsEvery_iff (parse : JsString → Option Json)
    (dateParse : DateParse) (notebook : Option (List LensCell)) :
    ShowsEvery parse dateParse notebook ↔
      ∀ span, IsIn parse notebook span → ReadsSafely span := by
  have throws := @isSome_iff parse dateParse notebook
  rw [← throws]
  constructor
  · rintro ⟨shown, isShown, _⟩
    rw [isShown]
    rfl
  · exact showsEvery_of_isSome

/-! ### A run with a null entry -/

/-- A span with an output kind, and behind it one with a `null` for an
attribute. -/
def nullEntryRun : Json :=
  .array
    [.object
      [(js "traceId", .string (js "t")), (js "spanId", .string (js "a")),
        (js "attributes", .array
          [.object
            [(js "key", .string (js "llmnb.output.kind")),
              (js "value",
                .object [(js "stringValue", .string (js "prose"))])]])],
      .object
        [(js "traceId", .string (js "t")), (js "spanId", .string (js "b")),
          (js "attributes", .array [.null])]]

def nullEntryCell : LensCell where
  kind := .code
  cell :=
    { source := []
      uri := js "cell:a"
      metadata := none
      outputs :=
        [{ items :=
            [{ mime := RTS_RUN_MIME
               data := encodeText (jsonText [] nullEntryRun) }]
           metadata := .null }] }

/-- `JSON.parse` on the text of the run. -/
def parseNullEntryRun (text : JsString) : Option Json :=
  if text = jsonText [] nullEntryRun then some nullEntryRun else none

theorem iterateRunItems_nullEntryCell :
    iterateRunItems parseNullEntryRun nullEntryCell.cell = [nullEntryRun] := by
  have decoded := decodeText_jsonText Encodes.nil nullEntryRun
  have payload : runPayload? parseNullEntryRun
      ⟨RTS_RUN_MIME, encodeText (jsonText [] nullEntryRun)⟩ =
        some nullEntryRun := by
    have notEmpty : jsonText [] nullEntryRun ≠ [] := by decide
    rw [runPayload?, if_neg (not_not.mpr rfl), decodeItem, decoded,
      if_neg notEmpty, parseNullEntryRun, if_pos rfl]
  change [_].filterMap (runPayload? parseNullEntryRun) = _
  rw [List.filterMap_cons_some payload]
  rfl

/-- The span with an output kind is not shown either. -/
theorem nullEntry_hidesSpans : ¬ ShowsEvery parseNullEntryRun (fun _ => none)
    (some [nullEntryCell]) := by
  rintro ⟨shown, isShown, _⟩
  have spans : spansOf parseNullEntryRun (some [nullEntryCell]) =
      (iterateSpans nullEntryRun).map fun span => ⟨0, js "cell:a", span⟩ := by
    change spansOfCell parseNullEntryRun (nullEntryCell, 0) ++ [] = _
    rw [List.append_nil, spansOfCell, iterateRunItems_nullEntryCell]
    rfl
  rw [extractTaggedSpans?, spans] at isShown
  cases isShown

end

end RtsNotebook.Sidebar.OutputKindLens
