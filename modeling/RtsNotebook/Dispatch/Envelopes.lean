import RtsNotebook.Dispatch.AgentBody

/-!
# One cell, two dispatchers

The envelope that the command line derives from the record of a cell, beside
the one that the extension writes for the directive of the same text.
-/

namespace RtsNotebook.Dispatch

open RtsNotebook.Js RtsNotebook.Library RtsNotebook.LlmClient
open RtsNotebook.Python (PyString PyJson py strip utf16)
open RtsNotebook.Notebook.CellDirective

/-! ### Fields -/

/-- The string at a path of an envelope from the command line. -/
def derivedText? : List String → PyJson → Option PyString
  | [], value => value.str?
  | name :: path, .dict items => derivedText? path (Python.get items (py name))
  | _ :: _, _ => none

/-- The string at a path of an envelope from the extension. -/
def writtenText? : List String → JsValue → Option JsString
  | [], value => value.asString?
  | name :: path, value =>
      (value.property? (js name)).bind (writtenText? path)

def SameAt (path : List String) (derived : PyJson) (written : JsValue) :
    Prop :=
  ∃ text, derivedText? path derived = some text ∧
    writtenText? path written = some (utf16 text)

structure SameDispatch (textName : String) (derived : PyJson)
    (written : JsValue) : Prop where
  actionType : SameAt ["payload", "action_type"] derived written
  agentId : SameAt ["payload", "parameters", "agent_id"] derived written
  text : SameAt ["payload", "parameters", textName] derived written

/-! ### The cell -/

/-- The kind of the cell of a directive, and the parameter that holds its
text. -/
def kindOf : Directive → Option (PyString × String)
  | .spawn _ _ _ => some (py "spawn", "task")
  | .continue _ _ => some (py "agent", "text")
  | _ => none

def agentOf : Directive → Option JsString
  | .spawn agentId _ _ => some agentId
  | .continue agentId _ => some agentId
  | _ => none

/-- What a cell record says of its cell. -/
structure Records (record : List (PyString × PyJson))
    (kind agentId text : PyString) : Prop where
  kind : record.lookup (py "kind") = some (.str kind)
  agentId : record.lookup (py "bound_agent_id") = some (.str agentId)
  text : record.lookup (py "text") = some (.str text)

/-- The command line derives an envelope that says what the one of the
extension does. -/
def DispatchesSame (surroundings : Surroundings) (cellId : PyString)
    (record : List (PyString × PyJson)) (sessionId : PyString)
    (ordinal : Nat) (cellUri : JsString) (directive : Directive)
    (textName : String) : Prop :=
  ∃ derived written,
    deriveCellEnvelope surroundings cellId record sessionId ordinal =
      .ok (some derived) ∧
    agentEnvelope? cellUri directive = some written ∧
    SameDispatch textName derived written

/-! ### The envelopes of a recorded cell -/

section

variable {record : List (PyString × PyJson)} {agentId text : PyString}
  (surroundings : Surroundings) (cellId sessionId : PyString) (ordinal : Nat)

theorem orElse_str (text : PyString) :
    (PyJson.str text).orElse (.str []) = .str text := by
  cases text <;> rfl

theorem deriveCellEnvelope_spawn
    (records : Records record (py "spawn") agentId text) :
    deriveCellEnvelope surroundings cellId record sessionId ordinal =
      .ok (some (spawnEnvelope (requestIdOf sessionId ordinal) cellId
        (.str agentId) (taskOf (Python.splitLines text)))) := by
  unfold deriveCellEnvelope Python.get Python.getD
  rw [records.kind, records.agentId, records.text]
  simp only [Option.getD_some, orElse_str]
  rw [if_pos (by decide)]

theorem deriveCellEnvelope_agent
    (records : Records record (py "agent") agentId text)
    (bound : agentId ≠ []) :
    deriveCellEnvelope surroundings cellId record sessionId ordinal =
      .ok (some (continueEnvelope (requestIdOf sessionId ordinal) cellId
        (.str agentId) (agentBody text))) := by
  unfold deriveCellEnvelope Python.get Python.getD
  rw [records.kind, records.agentId, records.text]
  simp only [Option.getD_some, orElse_str]
  rw [if_neg (by decide), if_pos ⟨by decide, by simpa [PyJson.truthy]⟩]

end

theorem sameAt_iff
    {path : List String} {derived : PyJson} {written : JsValue}
    {text : PyString} {units : JsString}
    (isDerived : derivedText? path derived = some text)
    (isWritten : writtenText? path written = some units) :
    SameAt path derived written ↔ utf16 text = units := by
  constructor
  · rintro ⟨other, otherDerived, otherWritten⟩
    rw [isDerived] at otherDerived
    rw [isWritten] at otherWritten
    cases otherDerived
    exact (Option.some.inj otherWritten).symm
  · rintro rfl
    exact ⟨text, isDerived, isWritten⟩

section

variable {record : List (PyString × PyJson)} {agentId text : PyString}
  {surroundings : Surroundings} {cellId sessionId : PyString}
  {ordinal : Nat} {cellUri : JsString}

theorem dispatchesSame_spawn_iff
    {task : JsString} {endpoint : Option JsString}
    (records : Records record (py "spawn") agentId text) :
    DispatchesSame surroundings cellId record sessionId ordinal cellUri
        (.spawn (utf16 agentId) task endpoint) "task" ↔
      utf16 (taskOf (Python.splitLines text)) = task := by
  unfold DispatchesSame
  rw [deriveCellEnvelope_spawn surroundings cellId sessionId ordinal records]
  constructor
  · rintro ⟨derived, written, isDerived, isWritten, same⟩
    cases isDerived
    cases isWritten
    exact (sameAt_iff rfl rfl).mp same.text
  · intro sameTask
    exact ⟨_, _, rfl, rfl, (sameAt_iff rfl rfl).mpr (by decide),
      (sameAt_iff rfl rfl).mpr rfl, (sameAt_iff rfl rfl).mpr sameTask⟩

theorem dispatchesSame_continue_iff
    {body : JsString} (records : Records record (py "agent") agentId text)
    (bound : agentId ≠ []) :
    DispatchesSame surroundings cellId record sessionId ordinal cellUri
        (.continue (utf16 agentId) body) "text" ↔
      utf16 (agentBody text) = body := by
  unfold DispatchesSame
  rw [deriveCellEnvelope_agent surroundings cellId sessionId ordinal records
    bound]
  constructor
  · rintro ⟨derived, written, isDerived, isWritten, same⟩
    cases isDerived
    cases isWritten
    exact (sameAt_iff rfl rfl).mp same.text
  · intro sameBody
    exact ⟨_, _, rfl, rfl, (sameAt_iff rfl rfl).mpr (by decide),
      (sameAt_iff rfl rfl).mpr rfl, (sameAt_iff rfl rfl).mpr sameBody⟩

end

/-! ### The task of a spawn cell -/

/-- A line in which the command line looks for no task. -/
def Skipped (line : PyString) : Prop :=
  strip line = [] ∨ py "@@" <+: strip line

/-- The first line that is not skipped is the task, or there is none and the
task is empty. -/
def LinesGive (lines : List PyString) (task : JsString) : Prop :=
  (task = [] ∧ ∀ line ∈ lines, Skipped line) ∨
    ∃ before line after, lines = before ++ line :: after ∧
      (∀ line ∈ before, Skipped line) ∧ ¬Skipped line ∧
      utf16 (strip line) = task

/-- The cell repeats the quoted task of its head as its first line that is not
skipped. -/
def RepeatsTask (text : PyString) : Prop :=
  ∃ head restLines args task, fromHead (utf16 text) = head :: restLines ∧
    cellMagic? head = some (js "spawn", args) ∧
    FirstTask (trim args) task ∧ LinesGive (Python.splitLines text) task

def givesTask (line : PyString) : Bool :=
  strip line ≠ [] && !(py "@@").isPrefixOf (strip line)

theorem givesTask_eq_false_iff (line : PyString) :
    givesTask line = false ↔ Skipped line := by
  unfold givesTask Skipped
  rw [← List.isPrefixOf_iff_prefix]
  by_cases blank : strip line = [] <;> simp [blank]

theorem taskOf_eq (lines : List PyString) :
    taskOf lines = ((lines.find? givesTask).map strip).getD [] := by
  unfold taskOf
  rw [List.find?_map]
  rfl

theorem taskOf_eq_iff {task : JsString} {lines : List PyString} :
    utf16 (taskOf lines) = task ↔ LinesGive lines task := by
  rw [taskOf_eq]
  cases found : lines.find? givesTask with
  | none =>
      have allSkipped : ∀ line ∈ lines, Skipped line := by
        intro line member
        rw [← givesTask_eq_false_iff]
        simpa using List.find?_eq_none.mp found line member
      constructor
      · intro same
        exact Or.inl ⟨same.symm, allSkipped⟩
      · rintro (⟨empty, _⟩ | ⟨before, line, after, linesEq, _, keeps, _⟩)
        · exact empty.symm
        · exact absurd (allSkipped line (by rw [linesEq]; simp)) keeps
  | some line =>
      obtain ⟨gives, before, after, linesEq, allBefore⟩ :=
        List.find?_eq_some_iff_append.mp found
      have keeps : ¬Skipped line := by
        rw [← givesTask_eq_false_iff, gives]
        exact Bool.noConfusion
      have skipsBefore : ∀ line ∈ before, Skipped line := by
        intro other member
        rw [← givesTask_eq_false_iff]
        simpa using allBefore other member
      constructor
      · intro same
        exact Or.inr ⟨before, line, after, linesEq, skipsBefore, keeps, same⟩
      · rintro (⟨_, allSkipped⟩ | ⟨otherBefore, other, otherAfter, otherEq,
          otherSkips, otherKeeps, same⟩)
        · exact absurd (allSkipped line (by rw [linesEq]; simp)) keeps
        · have foundOther : lines.find? givesTask = some other := by
            refine List.find?_eq_some_iff_append.mpr ⟨?_, otherBefore,
              otherAfter, otherEq, fun line member => ?_⟩
            · rwa [← givesTask_eq_false_iff, Bool.not_eq_false] at otherKeeps
            · rw [(givesTask_eq_false_iff line).mpr (otherSkips line member)]
              rfl
          rw [found] at foundOther
          cases foundOther
          exact same

/-! ### Any directive that names an agent -/

/-- Where both sides read the same out of a cell. -/
def ReadsAlike (text : PyString) : Directive → Prop
  | .spawn _ _ _ => RepeatsTask text
  | _ => KeepsBody (utf16 text)

theorem repeatsTask_iff
    {text : PyString} {agentId task : JsString} {endpoint : Option JsString}
    (parsed : parseCellDirective (utf16 text) =
      some (.spawn agentId task endpoint))
    (canonical : IsCellMagic (utf16 text)) :
    RepeatsTask text ↔ utf16 (taskOf (Python.splitLines text)) = task := by
  obtain ⟨head, restLines, magic, args, found, matched, branch⟩ :=
    parseCellDirective_of_isCellMagic parsed canonical
  obtain ⟨rfl, isTask⟩ := cellMagicDirective_eq_spawn branch
  rw [taskOf_eq_iff]
  constructor
  · rintro ⟨otherHead, _, otherArgs, otherTask, otherFound, otherMatched,
      otherIsTask, gives⟩
    rw [found] at otherFound
    cases otherFound
    rw [matched] at otherMatched
    cases otherMatched
    obtain ⟨_, searched⟩ := firstTask_iff.mp isTask
    obtain ⟨_, otherSearched⟩ := firstTask_iff.mp otherIsTask
    rw [searched] at otherSearched
    cases otherSearched
    exact gives
  · intro gives
    exact ⟨head, restLines, args, task, found, matched, isTask, gives⟩

theorem keepsBody_iff
    {text : PyString} {agentId body : JsString}
    (parsed : parseCellDirective (utf16 text) =
      some (.continue agentId body))
    (canonical : IsCellMagic (utf16 text)) :
    agentId ≠ [] ∧
      (KeepsBody (utf16 text) ↔ utf16 (agentBody text) = body) := by
  obtain ⟨head, restLines, magic, args, found, matched, branch⟩ :=
    parseCellDirective_of_isCellMagic parsed canonical
  obtain ⟨rfl, bound, bodyEq, nonempty⟩ :=
    cellMagicDirective_eq_continue branch
  obtain ⟨tail, headEq⟩ := cellMagic?_prefix matched
  exact ⟨bound, sameBody_of_keepsBody found headEq bodyEq nonempty,
    keepsBody_of_sameBody found headEq bodyEq nonempty⟩

/-- The two dispatchers say the same of a cell if and only if both read the
same out of its text. -/
theorem dispatchesSame_iff
    {text agentId kind : PyString} {textName : String}
    {directive : Directive} {record : List (PyString × PyJson)}
    (surroundings : Surroundings) (cellId sessionId : PyString)
    (ordinal : Nat) (cellUri : JsString)
    (parsed : parseCellDirective (utf16 text) = some directive)
    (canonical : IsCellMagic (utf16 text))
    (names : agentOf directive = some (utf16 agentId))
    (isKind : kindOf directive = some (kind, textName))
    (records : Records record kind agentId text) :
    DispatchesSame surroundings cellId record sessionId ordinal cellUri
        directive textName ↔
      ReadsAlike text directive := by
  cases directive with
  | spawn named task endpoint =>
      cases names
      cases isKind
      rw [dispatchesSame_spawn_iff records]
      exact (repeatsTask_iff parsed canonical).symm
  | «continue» named body =>
      cases names
      cases isKind
      obtain ⟨bound, keeps⟩ := keepsBody_iff parsed canonical
      rw [dispatchesSame_continue_iff records
        fun empty => bound (by rw [empty]; rfl)]
      exact keeps.symm
  | cellMagic magic args cellKind => cases names
  | lineMagic magic args set unset => cases names

/-! ### Cells that one side reads otherwise -/

def noSurroundings : Surroundings where
  parseCellArgs := fun _ => none
  uuidTail := fun _ => []

def cellRecord (kind agentId text : PyString) : List (PyString × PyJson) :=
  [(py "kind", .str kind), (py "bound_agent_id", .str agentId),
    (py "text", .str text)]

theorem records_cellRecord (kind agentId text : PyString) :
    Records (cellRecord kind agentId text) kind agentId text where
  kind := rfl
  agentId := rfl
  text := rfl

def quotedText : PyString := py "@@spawn alpha task:\"build\""

def blankText : PyString := py "\n@@agent alpha\nhello"

def plainText : PyString := py "@@agent alpha\nhello"

/-- A task that only the head gives is lost, and a directive below a blank line
is sent as a part of the body. -/
theorem quotedTask_and_blankLine :
    (parseCellDirective (utf16 quotedText) =
        some (.spawn (utf16 (py "alpha")) (js "build") none) ∧
      IsCellMagic (utf16 quotedText) ∧
      Records (cellRecord (py "spawn") (py "alpha") quotedText) (py "spawn")
        (py "alpha") quotedText ∧
      ¬DispatchesSame noSurroundings (py "c")
        (cellRecord (py "spawn") (py "alpha") quotedText) (py "s") 0 (js "u")
        (.spawn (utf16 (py "alpha")) (js "build") none) "task") ∧
    parseCellDirective (utf16 blankText) =
        some (.continue (utf16 (py "alpha")) (js "hello")) ∧
      IsCellMagic (utf16 blankText) ∧
      Records (cellRecord (py "agent") (py "alpha") blankText) (py "agent")
        (py "alpha") blankText ∧
      ¬DispatchesSame noSurroundings (py "c")
        (cellRecord (py "agent") (py "alpha") blankText) (py "s") 0 (js "u")
        (.continue (utf16 (py "alpha")) (js "hello")) "text" := by
  refine ⟨⟨by decide, ⟨_, _, rfl, by decide⟩, records_cellRecord _ _ _, ?_⟩,
    by decide, ⟨_, _, rfl, by decide⟩, records_cellRecord _ _ _, ?_⟩
  · rw [dispatchesSame_spawn_iff (records_cellRecord _ _ _)]
    decide
  · rw [dispatchesSame_continue_iff (records_cellRecord _ _ _) (by decide)]
    decide

theorem dispatchesSame_iff_plainText :
    parseCellDirective (utf16 plainText) =
        some (.continue (utf16 (py "alpha")) (js "hello")) ∧
      (DispatchesSame noSurroundings (py "c")
          (cellRecord (py "agent") (py "alpha") plainText) (py "s") 0 (js "u")
          (.continue (utf16 (py "alpha")) (js "hello")) "text" ↔
        ReadsAlike plainText
          (.continue (utf16 (py "alpha")) (js "hello"))) ∧
      KeepsBody (utf16 plainText) := by
  have parsed : parseCellDirective (utf16 plainText) =
      some (.continue (utf16 (py "alpha")) (js "hello")) := by decide
  refine ⟨parsed, dispatchesSame_iff noSurroundings (py "c") (py "s") 0
    (js "u") parsed ⟨_, _, rfl, by decide⟩ rfl rfl
    (records_cellRecord _ _ _), ?_⟩
  have nothingLeft : leftOfHead (utf16 plainText) = [] := by decide
  have noBreak : (js "hello").all fun codeUnit =>
      !Python.isLineBreakUnit codeUnit := by decide
  refine ⟨js "@@agent alpha", [js "hello"], [], js "hello", [], by decide,
    by decide, by rw [nothingLeft]; exact nofun, by decide, nofun,
    bare_of_ends (by decide) (by decide),
    bare_of_ends (by decide) (by decide), fun codeUnit member breaks => ?_⟩
  have continues := List.all_eq_true.mp noBreak codeUnit member
  rw [breaks] at continues
  cases continues

end RtsNotebook.Dispatch
