import RtsNotebook.Library.Ledger
import RtsNotebook.Notebook.CellDirective
import RtsNotebook.Notebook.MetadataLoader

/-!
# Section cells

The envelopes that `PtyKernelClient.executeCell` writes for every directive, and
the commits of `@@section` cells.  A commit carries an intent id, by which the
kernel tells what it has applied.
-/

namespace RtsNotebook.Notebook.SectionCell

open RtsNotebook.Library RtsNotebook.Js RtsNotebook.Notebook.CellDirective

/-! ### Arguments and ids -/

/-- What `parseSectionMagicArgs` returns. -/
structure SectionArgs where
  title : Option JsString
  sectionId : Option JsString

/-- `"([^"]+)"` at the start, behind a name. -/
def quotedArg? (name text : JsString) : Option JsString := do
  let opened ← after? (name ++ js "\"") text
  match run (fun codeUnit => codeUnit ≠ quote) opened with
  | ([], _) => none
  | (_, []) => none
  | (value, _ :: _) => some value

/-- `parseSectionMagicArgs` -/
def parseSectionMagicArgs (argsStr : JsString) : SectionArgs where
  sectionId := search (quotedArg? (js "id:")) argsStr
  title :=
    (search (quotedArg? (js "title:")) argsStr).orElse fun _ =>
      (quotedArg? [] (trim argsStr)).orElse fun _ =>
        (leadingWord? (trim argsStr)).filter fun word =>
          !(js "id:").isPrefixOf word

def underscore : UInt16 :=
  unit '_'

/-- `[a-z0-9]` -/
def isSlugUnit (codeUnit : UInt16) : Bool :=
  unit 'a' ≤ codeUnit ∧ codeUnit ≤ unit 'z' ∨
    unit '0' ≤ codeUnit ∧ codeUnit ≤ unit '9'

/-- `text.replace(/[^a-z0-9]+/g, '_')` -/
def replaceRuns : JsString → JsString
  | [] => []
  | codeUnit :: rest =>
      if isSlugUnit codeUnit then
        codeUnit :: replaceRuns rest
      else
        -- The underscore of a run stands at its last unit.
        match rest with
        | [] => [underscore]
        | next :: _ =>
            if isSlugUnit next then underscore :: replaceRuns rest
            else replaceRuns rest

/-- `text.replace(/^_+|_+$/g, '')` -/
def stripUnderscores (text : JsString) : JsString :=
  let stripped := text.dropWhile fun codeUnit => codeUnit = underscore
  (stripped.reverse.dropWhile fun codeUnit => codeUnit = underscore).reverse

/-- The slug of a title. -/
def slugOf (title : JsString) : JsString :=
  (stripUnderscores
    (replaceRuns (MetadataLoader.toLowerCase title))).take 24

/-- The slug and the tail, as they stand behind `sec_`. -/
def slugAndTail (title tail : JsString) : JsString :=
  (if slugOf title = [] then [] else slugOf title ++ js "_") ++ tail

/-- `mintSectionIdFromTitle`; the tail is random. -/
def mintSectionIdFromTitle (title tail : JsString) : JsString :=
  js "sec_" ++ slugAndTail title tail

/-! ### Envelopes -/

/-- A `KernelExecuteRequest`, with the tail that an id minted for it has. -/
structure Request where
  cellUri : JsString
  text : JsString
  directive : Option Directive
  tail : JsString

/-- The section that a cell declares. -/
structure Section where
  title : JsString
  explicitId : Option JsString
  tail : JsString

/-- `parsed.section_id ?? mintSectionIdFromTitle(parsed.title)` -/
def Section.id (declared : Section) : JsString :=
  declared.explicitId.getD
    (mintSectionIdFromTitle declared.title declared.tail)

/-- `sec-cell-${sectionId.slice(0, 12)}` -/
def intentIdOf (sectionId : JsString) : JsString :=
  js "sec-cell-" ++ sectionId.take 12

def operatorAction (payload : List (JsString × JsValue)) : JsValue :=
  .object [(js "type", .string (js "operator.action")),
    (js "payload", .object payload)]

/-- The envelope of a cell that is only edited. -/
def cellEdit (request : Request) : JsValue :=
  operatorAction
    [(js "action_type", .string (js "cell_edit")),
      (js "parameters", .object
        [(js "cell_id", .string request.cellUri),
          (js "source", .string request.text)]),
      (js "originating_cell_id", .string request.cellUri)]

def setCellMetadata (cellUri : JsString)
    (parameters : List (JsString × JsValue)) : JsValue :=
  operatorAction
    [(js "action_type", .string (js "set_cell_metadata")),
      (js "intent_kind", .string (js "set_cell_metadata")),
      (js "parameters", .object parameters),
      (js "originating_cell_id", .string cellUri)]

/-- The parameters of a line magic, with its flags. -/
def lineMagicParameters (cellUri magic args : JsString)
    (set unset : List JsString) : List (JsString × JsValue) :=
  let params :=
    [(js "cell_id", .string cellUri), (js "magic", .string magic),
      (js "args", .string args)]
  let params := set.foldl
    (fun params flag => assign flag (.bool true) params) params
  unset.foldl (fun params flag => assign flag (.bool false) params) params

/-- The envelope of a section cell with a title. -/
def applyOverlayCommit (cellUri : JsString) (declared : Section) : JsValue :=
  operatorAction
    [(js "action_type", .string (js "zone_mutate")),
      (js "intent_kind", .string (js "apply_overlay_commit")),
      (js "parameters", .object
        [(js "operations", .array
          [.object [(js "kind", .string (js "create_section")),
            (js "section_id", .string declared.id),
            (js "title", .string declared.title)]] []),
          (js "message", .string (js "@@section " ++ declared.title))]),
      (js "intent_id", .string (intentIdOf declared.id)),
      (js "originating_cell_id", .string cellUri)]

/-- The section of a request whose directive is `@@section` with a title. -/
def sectionOf? (request : Request) : Option Section :=
  match request.directive with
  | some (.cellMagic magic args _) =>
      if magic = js "section" then
        let parsed := parseSectionMagicArgs args
        parsed.title.map fun title =>
          ⟨title, parsed.sectionId, request.tail⟩
      else
        none
  | _ => none

/-- The envelope that `executeCell` writes. -/
def envelopeOf (request : Request) : JsValue :=
  match request.directive with
  | none => cellEdit request
  | some (.lineMagic magic args set unset) =>
      setCellMetadata request.cellUri
        (lineMagicParameters request.cellUri magic args set unset)
  | some (.cellMagic magic args cellKind) =>
      match sectionOf? request with
      | some declared => applyOverlayCommit request.cellUri declared
      | none =>
          setCellMetadata request.cellUri
            [(js "cell_id", .string request.cellUri),
              (js "kind", .string cellKind), (js "magic", .string magic),
              (js "args", .string args)]
  | some directive =>
      (agentEnvelope? request.cellUri directive).getD (cellEdit request)

/-! ### Commits -/

/-- A commit as the kernel reads it. -/
structure Commit where
  intentId : JsString
  sectionId : JsString
  deriving DecidableEq

/-- The commit of an envelope, if it is one. -/
def commit? (envelope : JsValue) : Option Commit := do
  let payload ← envelope.property? (js "payload")
  let intentKind ← payload.property? (js "intent_kind")
  if intentKind.asString? = some (js "apply_overlay_commit") then
    let intentId ← (← payload.property? (js "intent_id")).asString?
    let parameters ← payload.property? (js "parameters")
    let operations ← (← parameters.property? (js "operations")).asArray?
    let operation ← operations.head?
    let sectionId ← (← operation.property? (js "section_id")).asString?
    pure ⟨intentId, sectionId⟩
  else
    none

/-- The commits of a session. -/
def commitsOf (session : List Request) : List Commit :=
  session.filterMap fun request => commit? (envelopeOf request)

/-- What the kernel has applied after a session: it ignores a commit whose
intent id it has already applied. -/
def applied (session : List Request) : List Commit :=
  Ledger.run Commit.intentId (commitsOf session)

theorem commit?_applyOverlayCommit (cellUri : JsString) (declared : Section) :
    commit? (applyOverlayCommit cellUri declared) =
      some ⟨intentIdOf declared.id, declared.id⟩ :=
  rfl

theorem commit?_setCellMetadata (cellUri : JsString)
    (parameters : List (JsString × JsValue)) :
    commit? (setCellMetadata cellUri parameters) = none :=
  rfl

/-- Only section cells with a title commit. -/
theorem commit?_envelopeOf (request : Request) :
    commit? (envelopeOf request) =
      (sectionOf? request).map fun declared =>
        ⟨intentIdOf declared.id, declared.id⟩ := by
  rw [envelopeOf]
  cases hasDirective : request.directive with
  | none =>
      have noSection : sectionOf? request = none := by
        rw [sectionOf?, hasDirective]
      rw [noSection]
      rfl
  | some directive =>
      cases directive with
      | cellMagic magic args cellKind =>
          dsimp only
          cases sectionOf? request with
          | none => exact commit?_setCellMetadata _ _
          | some declared => exact commit?_applyOverlayCommit _ _
      | lineMagic magic args set unset =>
          have noSection : sectionOf? request = none := by
            rw [sectionOf?, hasDirective]
          rw [noSection]
          exact commit?_setCellMetadata _ _
      | spawn agentId task endpoint =>
          have noSection : sectionOf? request = none := by
            rw [sectionOf?, hasDirective]
          rw [noSection]
          rfl
      | «continue» agentId text =>
          have noSection : sectionOf? request = none := by
            rw [sectionOf?, hasDirective]
          rw [noSection]
          rfl

theorem mem_commitsOf {session : List Request} {commit : Commit} :
    commit ∈ commitsOf session ↔
      ∃ request ∈ session, ∃ declared, sectionOf? request = some declared ∧
        commit = ⟨intentIdOf declared.id, declared.id⟩ := by
  rw [commitsOf, List.mem_filterMap]
  constructor
  · rintro ⟨request, isRequest, isCommit⟩
    rw [commit?_envelopeOf] at isCommit
    obtain ⟨declared, hasSection, same⟩ := Option.map_eq_some_iff.mp isCommit
    exact ⟨request, isRequest, declared, hasSection, same.symm⟩
  · rintro ⟨request, isRequest, declared, hasSection, rfl⟩
    refine ⟨request, isRequest, ?_⟩
    rw [commit?_envelopeOf, hasSection]
    rfl

/-! ### Intent ids -/

/-- The part of a section that its intent id shows: twelve units of an explicit
id, and eight of a minted one behind `sec_`. -/
def Section.shown (declared : Section) : JsString :=
  match declared.explicitId with
  | some sectionId => sectionId.take 12
  | none =>
      js "sec_" ++ (slugAndTail declared.title declared.tail).take 8

theorem take_id (declared : Section) : declared.id.take 12 = declared.shown := by
  rw [Section.id, Section.shown]
  cases declared.explicitId with
  | some sectionId => rfl
  | none => rfl

theorem intentIdOf_inj_iff {first second : Section} :
    intentIdOf first.id = intentIdOf second.id ↔
      first.shown = second.shown := by
  rw [intentIdOf, intentIdOf, List.append_cancel_left_eq, take_id, take_id]

/-- Eight units of a slug hide the rest of it and the tail. -/
theorem shown_of_long {declared : Section} (minted : declared.explicitId = none)
    (long : 8 ≤ (slugOf declared.title).length) :
    declared.shown = js "sec_" ++ (slugOf declared.title).take 8 := by
  have nonempty : slugOf declared.title ≠ [] := by
    intro isEmpty
    rw [isEmpty] at long
    exact absurd long (by decide)
  rw [Section.shown, minted, slugAndTail, if_neg nonempty, List.append_assoc,
    List.take_append_of_le_length long]

/-- The commits of a session carry different intent ids where their sections
have different ids, and the kernel applies one for every section. -/
structure CommitsApply (session : List Request) : Prop where
  distinct : ∀ first ∈ session, ∀ second ∈ session, ∀ commit other,
    commit? (envelopeOf first) = some commit →
    commit? (envelopeOf second) = some other →
    commit.sectionId ≠ other.sectionId → commit.intentId ≠ other.intentId
  applies : ∀ request ∈ session, ∀ declared,
    sectionOf? request = some declared →
    ∃ commit ∈ applied session, commit.sectionId = declared.id

/-- Sections with different ids differ in what their intent ids show. -/
def ShownApart (session : List Request) : Prop :=
  ∀ first ∈ session, ∀ second ∈ session, ∀ declared other,
    sectionOf? first = some declared → sectionOf? second = some other →
    declared.id ≠ other.id → declared.shown ≠ other.shown

theorem applies_iff (session : List Request) :
    (∀ commit ∈ commitsOf session, ∃ kept ∈ applied session,
        kept.sectionId = commit.sectionId) ↔ ShownApart session := by
  have keyed : ∀ first ∈ commitsOf session, ∀ second ∈ commitsOf session,
      first.sectionId = second.sectionId →
      first.intentId = second.intentId := by
    intro first isFirst second isSecond same
    obtain ⟨_, _, declared, _, rfl⟩ := mem_commitsOf.mp isFirst
    obtain ⟨_, _, other, _, rfl⟩ := mem_commitsOf.mp isSecond
    exact congrArg intentIdOf same
  rw [applied, Ledger.all_taken_iff keyed]
  constructor
  · intro determined first isFirst second isSecond declared other hasSection
      hasOther different sameShown
    have isCommit := mem_commitsOf.mpr
      ⟨first, isFirst, declared, hasSection, rfl⟩
    have isOther := mem_commitsOf.mpr
      ⟨second, isSecond, other, hasOther, rfl⟩
    exact different (determined _ isCommit _ isOther
      (intentIdOf_inj_iff.mpr sameShown))
  · intro apart commit isCommit other isOther sameKey
    obtain ⟨first, isFirst, declared, hasSection, rfl⟩ :=
      mem_commitsOf.mp isCommit
    obtain ⟨second, isSecond, declaredOther, hasOther, rfl⟩ :=
      mem_commitsOf.mp isOther
    by_contra different
    exact apart first isFirst second isSecond declared declaredOther
      hasSection hasOther different (intentIdOf_inj_iff.mp sameKey)

/-- In a session, different sections have different intent ids and are all
applied if and only if they differ in the units that an intent id shows. -/
theorem commitsApply_iff (session : List Request) :
    CommitsApply session ↔ ShownApart session := by
  constructor
  · intro commitsApply
    rw [← applies_iff]
    intro commit isCommit
    obtain ⟨request, isRequest, declared, hasSection, rfl⟩ :=
      mem_commitsOf.mp isCommit
    exact commitsApply.applies request isRequest declared hasSection
  · intro apart
    constructor
    · intro first isFirst second isSecond commit other isCommit isOther
        different
      rw [commit?_envelopeOf] at isCommit isOther
      obtain ⟨declared, hasSection, rfl⟩ := Option.map_eq_some_iff.mp isCommit
      obtain ⟨declaredOther, hasOther, rfl⟩ :=
        Option.map_eq_some_iff.mp isOther
      rw [ne_eq, intentIdOf_inj_iff]
      exact apart first isFirst second isSecond declared declaredOther
        hasSection hasOther different
    · intro request isRequest declared hasSection
      have isCommit := mem_commitsOf.mpr
        ⟨request, isRequest, declared, hasSection, rfl⟩
      exact (applies_iff session).mpr apart _ isCommit

/-- The cell `@@section "title"`. -/
def sectionRequest (title tail : JsString) : Request where
  cellUri := js "cell:1"
  text := js "@@section \"" ++ title ++ js "\""
  directive := some (.cellMagic (js "section") (js "\"" ++ title ++ js "\"")
    (js "section"))
  tail := tail

def architectures : List Request :=
  [sectionRequest (js "Architecture A") (js "1a2b3c"),
    sectionRequest (js "Architecture B") (js "4d5e6f")]

/-- The two sections have different ids but one intent id, and the kernel
applies only the first. -/
theorem secondArchitecture_ignored :
    commitsOf architectures =
        [⟨js "sec-cell-sec_architec", js "sec_architecture_a_1a2b3c"⟩,
          ⟨js "sec-cell-sec_architec", js "sec_architecture_b_4d5e6f"⟩] ∧
      applied architectures =
        [⟨js "sec-cell-sec_architec", js "sec_architecture_a_1a2b3c"⟩] ∧
      ¬ CommitsApply architectures := by
  have commits : commitsOf architectures =
      [⟨js "sec-cell-sec_architec", js "sec_architecture_a_1a2b3c"⟩,
        ⟨js "sec-cell-sec_architec", js "sec_architecture_b_4d5e6f"⟩] := by
    decide
  refine ⟨commits, ?_, ?_⟩
  · rw [applied, commits]
    decide
  · intro commitsApply
    have first : commit? (envelopeOf (sectionRequest (js "Architecture A")
        (js "1a2b3c"))) =
        some ⟨js "sec-cell-sec_architec", js "sec_architecture_a_1a2b3c"⟩ := by
      decide
    have second : commit? (envelopeOf (sectionRequest (js "Architecture B")
        (js "4d5e6f"))) =
        some ⟨js "sec-cell-sec_architec", js "sec_architecture_b_4d5e6f"⟩ := by
      decide
    exact commitsApply.distinct _ List.mem_cons_self _
      (List.mem_cons_of_mem _ List.mem_cons_self) _ _ first second
      (by decide) rfl

end RtsNotebook.Notebook.SectionCell
