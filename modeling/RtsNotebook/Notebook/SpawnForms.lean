import RtsNotebook.Library.Infixes
import RtsNotebook.Notebook.ContinueForms

/-!
# The forms of a spawn

`/spawn` and `@@spawn`, as `parseCellDirective` reads them.  The canonical form
looks for its endpoint anywhere in the arguments.
-/

namespace RtsNotebook.Notebook.CellDirective

open RtsNotebook.Js RtsNotebook.Library

/-- `task:"<task>"` -/
def taskArgument (task : JsString) : JsString :=
  js "task:\"" ++ (task ++ js "\"")

/-- `/spawn <id> task:"<task>"` -/
def spawnAlias (agentId task : JsString) : JsString :=
  js "/spawn " ++ (agentId ++ js " " ++ taskArgument task)

/-- `@@spawn <id> task:"<task>"` -/
def spawnCell (agentId task : JsString) : JsString :=
  js "@@spawn " ++ (agentId ++ js " " ++ taskArgument task)

/-- `@@spawn <id> endpoint:<name> task:"<task>"` -/
def spawnCellAt (agentId name task : JsString) : JsString :=
  js "@@spawn " ++
    (agentId ++ js " " ++
      (js "endpoint:" ++ (name ++ js " " ++ taskArgument task)))

/-- Every form yields the agent id and the task, and the endpoint exactly where
one is given. -/
def SpawnFormsAgree (agentId name task : JsString) : Prop :=
  parseCellDirective (spawnAlias agentId task) =
      some (.spawn agentId task none) ∧
    parseCellDirective (spawnCell agentId task) =
      some (.spawn agentId task none) ∧
    parseCellDirective (spawnCellAt agentId name task) =
      some (.spawn agentId task (some name))

/-- A text without white space and double quotes. -/
structure IsUnquoted (word : JsString) : Prop where
  solid : IsSolid word
  noQuote : quote ∉ word

/-- `/endpoint:(\S+)/` at the start. -/
def endpointAt? (text : JsString) : Option JsString :=
  (after? (js "endpoint:") text).bind leadingWord?

/-- The text holds `endpoint:` with something behind it that is no white
space. -/
def NamesEndpoint (text : JsString) : Prop :=
  ∃ codeUnit, isWhiteSpace codeUnit = false ∧
    js "endpoint:" ++ [codeUnit] <:+: text

section

variable {agentId name task text rest : JsString}

/-! ### Searching -/

/-- Where an expression matches nowhere in the beginning, the search goes on
behind it. -/
theorem search_append {Found : Type} {matchAt : JsString → Option Found}
    {before : JsString}
    (nowhere : ∀ codeUnit part, (codeUnit :: part) <:+ before →
      matchAt (codeUnit :: part ++ rest) = none) :
    search matchAt (before ++ rest) = search matchAt rest := by
  induction before with
  | nil => rfl
  | cons codeUnit before inductionHypothesis =>
      have noMatch := nowhere codeUnit before (List.suffix_refl _)
      rw [List.cons_append] at noMatch
      rw [List.cons_append, search, noMatch, Option.orElse_none]
      exact inductionHypothesis fun first part isSuffix =>
        nowhere first part (isSuffix.trans (List.suffix_cons _ _))

theorem search_eq_none_iff {Found : Type}
    {matchAt : JsString → Option Found} :
    search matchAt text = none ↔ ∀ part, part <:+ text → matchAt part = none := by
  induction text with
  | nil =>
      rw [search]
      constructor
      · intro noMatch part isSuffix
        rw [List.suffix_nil.mp isSuffix, noMatch]
      · exact fun nowhere => nowhere [] (List.suffix_refl _)
  | cons codeUnit text inductionHypothesis =>
      rw [search, Option.orElse_eq_or, Option.or_eq_none_iff,
        inductionHypothesis]
      constructor
      · rintro ⟨noMatch, nowhere⟩ part isSuffix
        rcases List.suffix_cons_iff.mp isSuffix with rfl | inTail
        · exact noMatch
        · exact nowhere part inTail
      · intro nowhere
        exact ⟨nowhere _ (List.suffix_refl _), fun part isSuffix =>
          nowhere part (isSuffix.trans (List.suffix_cons _ _))⟩

theorem endpointAt?_eq_none_iff :
    endpointAt? text = none ↔ ∀ codeUnit, isWhiteSpace codeUnit = false →
      ¬ js "endpoint:" ++ [codeUnit] <+: text := by
  rw [endpointAt?, Option.bind_eq_none_iff]
  constructor
  · rintro noMatch codeUnit notSpace ⟨others, rfl⟩
    have isAfter : after? (js "endpoint:")
        (js "endpoint:" ++ [codeUnit] ++ others) =
          some (codeUnit :: others) :=
      after?_eq_some_iff.mpr (by rw [List.append_assoc]; rfl)
    have noWord := noMatch _ isAfter
    rw [leadingWord?, List.takeWhile_cons_of_pos (by simp [notSpace])] at noWord
    cases noWord
  · intro noName afterName isAfter
    rw [after?_eq_some_iff] at isAfter
    cases afterName with
    | nil => rfl
    | cons codeUnit others =>
        cases space : isWhiteSpace codeUnit with
        | true =>
            rw [leadingWord?, List.takeWhile_cons_of_neg (by simp [space])]
        | false =>
            refine absurd ⟨others, ?_⟩ (noName codeUnit space)
            rw [isAfter, List.append_assoc]
            rfl

/-- The search finds an endpoint exactly where the text names one. -/
theorem search_endpointAt?_eq_none_iff :
    search endpointAt? text = none ↔ ¬ NamesEndpoint text := by
  rw [search_eq_none_iff]
  constructor
  · rintro nowhere ⟨codeUnit, notSpace, before, after, rfl⟩
    rw [List.append_assoc] at nowhere
    exact endpointAt?_eq_none_iff.mp (nowhere _ (List.suffix_append _ _))
      codeUnit notSpace (List.prefix_append _ _)
  · intro noName part isSuffix
    rw [endpointAt?_eq_none_iff]
    intro codeUnit notSpace isPrefix
    exact noName ⟨codeUnit, notSpace,
      isPrefix.isInfix.trans isSuffix.isInfix⟩

/-! ### Where the arguments name an endpoint -/

theorem blank_notMem_endpoint {codeUnit : UInt16}
    (notSpace : isWhiteSpace codeUnit = false) :
    unit ' ' ∉ js "endpoint:" ++ [codeUnit] := by
  intro member
  rcases List.mem_append.mp member with inName | isLast
  · revert inName
    decide
  · rw [← List.mem_singleton.mp isLast] at notSpace
    revert notSpace
    decide

theorem namesEndpoint_append_blank :
    NamesEndpoint (agentId ++ js " " ++ rest) ↔
      NamesEndpoint agentId ∨ NamesEndpoint rest := by
  have blank : agentId ++ js " " ++ rest = agentId ++ unit ' ' :: rest := by
    rw [List.append_assoc]
    rfl
  rw [blank]
  constructor
  · rintro ⟨codeUnit, notSpace, isInfix⟩
    rcases (infix_append_cons_iff (blank_notMem_endpoint notSpace)).mp isInfix
      with inId | inRest
    · exact Or.inl ⟨codeUnit, notSpace, inId⟩
    · exact Or.inr ⟨codeUnit, notSpace, inRest⟩
  · rintro (⟨codeUnit, notSpace, inId⟩ | ⟨codeUnit, notSpace, inRest⟩)
    · exact ⟨codeUnit, notSpace,
        (infix_append_cons_iff (blank_notMem_endpoint notSpace)).mpr
          (Or.inl inId)⟩
    · exact ⟨codeUnit, notSpace,
        (infix_append_cons_iff (blank_notMem_endpoint notSpace)).mpr
          (Or.inr inRest)⟩

/-- `task:"` holds no `e`, with which an endpoint begins. -/
theorem namesEndpoint_taskArgument :
    NamesEndpoint (taskArgument task) ↔ NamesEndpoint (task ++ js "\"") := by
  have absent : unit 'e' ∉ js "task:\"" := by decide
  have skips (codeUnit : UInt16) : js "endpoint:" ++ [codeUnit] <:+:
      js "task:\"" ++ (task ++ js "\"") ↔
        js "endpoint:" ++ [codeUnit] <:+: task ++ js "\"" :=
    @infix_append_iff_of_head _ (js "ndpoint:" ++ [codeUnit]) _ _ _ absent
  simp only [NamesEndpoint, taskArgument, skips]

/-! ### The task and the endpoint -/

theorem quotedTask?_taskArgument (noQuote : quote ∉ task) :
    quotedTask? (taskArgument task) = some (task, []) :=
  quotedTask?_eq_some_iff.mpr ⟨noQuote, rfl⟩

/-- The first quote of the arguments opens the task. -/
theorem search_quotedTask? {before : JsString} (unquoted : quote ∉ before)
    (noQuote : quote ∉ task) :
    search quotedTask? (before ++ taskArgument task) = some (task, []) := by
  rw [search_append, search_of_match (quotedTask?_taskArgument noQuote)]
  intro codeUnit part isSuffix
  rw [Option.eq_none_iff_forall_ne_some]
  rintro ⟨found, others⟩ matched
  obtain ⟨_, textEq⟩ := quotedTask?_eq_some_iff.mp matched
  have beforeQuote : quote ∉ codeUnit :: part ++ js "task:" := by
    intro member
    rcases List.mem_append.mp member with inPart | inName
    · exact unquoted (isSuffix.mem inPart)
    · revert inName
      decide
  have left : codeUnit :: part ++ taskArgument task =
      codeUnit :: part ++ js "task:" ++ quote :: (task ++ js "\"") := by
    rw [List.append_assoc]
    rfl
  have right : js "task:\"" ++ (found ++ quote :: others) =
      js "task:" ++ quote :: (found ++ quote :: others) := rfl
  rw [left, right] at textEq
  have sameBefore := (eq_of_append_quote beforeQuote (by decide) textEq).1
  have lengths := congrArg List.length sameBefore
  simp only [List.length_append, List.length_cons] at lengths
  omega

/-- The endpoint is searched for behind an id that names none. -/
theorem search_endpointAt?_behindId (noName : ¬ NamesEndpoint agentId) :
    search endpointAt? (agentId ++ js " " ++ rest) = search endpointAt? rest := by
  refine search_append fun codeUnit part isSuffix => ?_
  rw [endpointAt?_eq_none_iff]
  intro last notSpace isPrefix
  rcases List.suffix_concat_iff.mp isSuffix with empty | ⟨before, partEq, inId⟩
  · cases empty
  · rw [partEq, List.append_assoc] at isPrefix
    have inBefore := @prefix_of_prefix_append_cons _ (unit ' ') _ _ _
      (blank_notMem_endpoint notSpace) isPrefix
    exact noName ⟨last, notSpace, inBefore.isInfix.trans inId.isInfix⟩

theorem search_endpointAt?_named (isName : IsUnquoted name)
    (nonempty : name ≠ []) :
    search endpointAt? (js "endpoint:" ++ (name ++ js " " ++ rest)) =
      some name := by
  refine search_of_match ?_
  have isAfter : after? (js "endpoint:")
      (js "endpoint:" ++ (name ++ js " " ++ rest)) =
        some (name ++ js " " ++ rest) := after?_eq_some_iff.mpr rfl
  rw [endpointAt?, isAfter, Option.bind_some, List.append_assoc]
  refine isName.solid.leadingWord? nonempty fun stop isStop => ?_
  rw [← Option.some.inj isStop]
  decide

theorem exists_of_search {Found : Type} {matchAt : JsString → Option Found}
    {found : Found} (searched : search matchAt text = some found) :
    ∃ part, matchAt part = some found := by
  induction text with
  | nil => exact ⟨[], searched⟩
  | cons codeUnit text inductionHypothesis =>
      rw [search] at searched
      cases matched : matchAt (codeUnit :: text) with
      | none =>
          rw [matched] at searched
          exact inductionHypothesis searched
      | some first =>
          rw [matched] at searched
          exact ⟨_, matched.trans searched⟩

/-- An endpoint that is found is not empty. -/
theorem ne_nil_of_search_endpointAt?
    (searched : search endpointAt? text = some name) : name ≠ [] := by
  obtain ⟨part, matched⟩ := exists_of_search searched
  obtain ⟨_, _, word⟩ := Option.bind_eq_some_iff.mp matched
  exact leadingWord?_ne_nil word

/-! ### The alias -/

theorem quote_notSpace : isWhiteSpace quote = false := by
  decide

theorem getLast?_taskArgument :
    (rest ++ taskArgument task).getLast? = some quote := by
  have concat : rest ++ taskArgument task =
      rest ++ (js "task:\"" ++ task) ++ [quote] := by
    rw [taskArgument, List.append_assoc, List.append_assoc]
    rfl
  rw [concat, List.getLast?_concat]

theorem legacySpawn?_alias (isId : IsUnquoted agentId) (nonempty : agentId ≠ [])
    (noQuote : quote ∉ task) :
    legacySpawn? (spawnAlias agentId task) =
      some (.spawn agentId task none) := by
  obtain ⟨first, others, rfl⟩ := List.exists_cons_of_ne_nil nonempty
  have isAfter : after? (js "/spawn") (spawnAlias (first :: others) task) =
      some (js " " ++ first :: (others ++ js " " ++ taskArgument task)) :=
    after?_eq_some_iff.mpr rfl
  have gap : run isWhiteSpace
      (js " " ++ first :: (others ++ js " " ++ taskArgument task)) =
        (js " ", first :: others ++ (js " " ++ taskArgument task)) := by
    rw [run_append (List.all_eq_true.mp (by decide))
      (isId.solid first List.mem_cons_self), List.append_assoc]
    rfl
  have word : leadingWord?
      (first :: others ++ (js " " ++ taskArgument task)) =
        some (first :: others) :=
    isId.solid.leadingWord? nonempty fun stop isStop => by
      rw [← Option.some.inj isStop]
      decide
  have secondGap : run isWhiteSpace (js " " ++ taskArgument task) =
      (js " ", taskArgument task) :=
    run_append (List.all_eq_true.mp (by decide)) (by decide)
  rw [legacySpawn?, isAfter]
  simp only [Option.bind_eq_bind, Option.bind_some, gap, word, List.drop_left,
    secondGap, quotedTask?_taskArgument noQuote]
  rw [if_pos ⟨by decide, by decide, rfl⟩]

theorem parse_spawnAlias (isId : IsUnquoted agentId) (nonempty : agentId ≠ [])
    (noQuote : quote ∉ task) (oneLine : newline ∉ task) :
    parseCellDirective (spawnAlias agentId task) =
      some (.spawn agentId task none) := by
  have noNewline : newline ∉ spawnAlias agentId task := by
    have inHead : newline ∉ js "/spawn " := by decide
    have inGap : newline ∉ js " " := by decide
    have inName : newline ∉ js "task:\"" := by decide
    have inEnd : newline ∉ js "\"" := by decide
    have inId : newline ∉ agentId := isId.solid.notMem (by decide)
    simp [spawnAlias, taskArgument, inHead, inGap, inName, inEnd, inId, oneLine]
  have bare : Bare isWhiteSpace (spawnAlias agentId task) := by
    refine ⟨fun codeUnit isHead => ?_, fun codeUnit isLast => ?_⟩
    · rw [← Option.some.inj isHead]
      decide
    · rw [spawnAlias, ← List.append_assoc, getLast?_taskArgument] at isLast
      rw [← Option.some.inj isLast]
      exact quote_notSpace
  have trimmed : trim (spawnAlias agentId task) = spawnAlias agentId task :=
    trimBy_of_bare bare
  have found := fromHead_of_head (splitLines_line noNewline) (by
    rw [trimmed]
    exact List.cons_ne_nil _ _)
  have notBreak : spawnAlias agentId task ≠ js "@@break" := by
    intro same
    injection same with same _
    revert same
    decide
  have legacy : plainDirective (spawnAlias agentId task) =
      some (.spawn agentId task none) := by
    have notLineMagic : lineMagic? (spawnAlias agentId task) = none := rfl
    rw [plainDirective, notLineMagic]
    simp only [plainDirective.legacy, trimmed,
      legacySpawn?_alias isId nonempty noQuote, Option.orElse_some]
  have notCellMagic : knownCellMagic? (spawnAlias agentId task) = none := rfl
  rw [parseCellDirective, found]
  simp only [trimmed, if_neg notBreak, notCellMagic, legacy]

/-! ### What a spawn says -/

/-- A spawn that names its agent, and an endpoint only if it is not empty. -/
def NamesParts : Directive → Prop
  | .spawn agentId _ endpoint => agentId ≠ [] ∧ endpoint ≠ some []
  | _ => True

theorem namesParts_cellMagic {magic args : JsString}
    {restLines : List JsString} {directive : Directive}
    (parsed : cellMagicDirective magic args restLines = some directive) :
    NamesParts directive := by
  unfold cellMagicDirective at parsed
  split at parsed
  · simp only [Option.bind_eq_bind, Option.bind_eq_some_iff] at parsed
    obtain ⟨_, isWord, _, _, result⟩ := parsed
    rw [← Option.some.inj result]
    exact ⟨leadingWord?_ne_nil isWord,
      fun searched => ne_nil_of_search_endpointAt? searched rfl⟩
  · split at parsed
    · simp only [Option.bind_eq_bind, Option.bind_eq_some_iff] at parsed
      obtain ⟨_, _, result⟩ := parsed
      split at result
      · rw [← Option.some.inj result]
        exact trivial
      · cases result
    · rw [← Option.some.inj parsed]
      exact trivial

theorem legacySpawn?_eq_some {trimmed : JsString} {directive : Directive}
    (parsed : legacySpawn? trimmed = some directive) :
    trimmed.head? = some (unit '/') ∧ NamesParts directive := by
  unfold legacySpawn? at parsed
  simp only [Option.bind_eq_bind, Option.bind_eq_some_iff] at parsed
  obtain ⟨_, isAfter, _, isWord, _, _, result⟩ := parsed
  rw [after?_eq_some_iff] at isAfter
  refine ⟨by rw [isAfter]; rfl, ?_⟩
  split at result
  · rw [← Option.some.inj result]
    exact ⟨leadingWord?_ne_nil isWord, nofun⟩
  · cases result

theorem legacyContinue?_eq_some {trimmed : JsString} {directive : Directive}
    (parsed : legacyContinue? trimmed = some directive) :
    ∃ agentId text, directive = .continue agentId text := by
  unfold legacyContinue? at parsed
  simp only [Option.bind_eq_bind, Option.bind_eq_some_iff] at parsed
  obtain ⟨_, _, result⟩ := parsed
  split at result
  · split at result
    · exact ⟨_, _, (Option.some.inj result).symm⟩
    · cases result
  · cases result

/-- Without a cell magic a spawn comes from the alias. -/
theorem plainDirective_eq_some {head : JsString} {directive : Directive}
    (parsed : plainDirective head = some directive) :
    NamesParts directive ∧ ∀ agentId task endpoint,
      directive = .spawn agentId task endpoint →
        (trim head).head? = some (unit '/') := by
  have legacy (parsed : plainDirective.legacy head = some directive) :
      NamesParts directive ∧ ∀ agentId task endpoint,
        directive = .spawn agentId task endpoint →
          (trim head).head? = some (unit '/') := by
    rw [plainDirective.legacy, Option.orElse_eq_or, Option.or_eq_some_iff]
      at parsed
    rcases parsed with isSpawn | ⟨_, isContinue⟩
    · obtain ⟨isHead, named⟩ := legacySpawn?_eq_some isSpawn
      exact ⟨named, fun _ _ _ _ => isHead⟩
    · obtain ⟨_, _, rfl⟩ := legacyContinue?_eq_some isContinue
      exact ⟨trivial, fun _ _ _ same => by cases same⟩
  unfold plainDirective at parsed
  split at parsed
  · split at parsed
    · rw [← Option.some.inj parsed]
      exact ⟨trivial, fun _ _ _ same => by cases same⟩
    · exact legacy parsed
  · exact legacy parsed

/-- Every spawn names its agent, and its endpoint where it has one. -/
theorem namesParts_of_parse {directive : Directive}
    (parsed : parseCellDirective text = some directive) :
    NamesParts directive := by
  unfold parseCellDirective at parsed
  split at parsed
  · cases parsed
  · split at parsed
    · cases parsed
    · split at parsed
      · exact namesParts_cellMagic parsed
      · exact (plainDirective_eq_some parsed).1

/-! ### The canonical form -/

variable {mid : JsString}

/-- The arguments of a spawn cell, with something between the id and the
task. -/
theorem bare_spawnArgs (isId : IsUnquoted agentId) (nonempty : agentId ≠ []) :
    Bare isWhiteSpace (agentId ++ js " " ++ (mid ++ taskArgument task)) := by
  refine ⟨fun codeUnit isHead => ?_, fun codeUnit isLast => ?_⟩
  · obtain ⟨first, others, idEq⟩ := List.exists_cons_of_ne_nil nonempty
    have argsHead : (agentId ++ js " " ++ (mid ++ taskArgument task)).head? =
        some first := by
      rw [idEq]
      rfl
    rw [← Option.some.inj (argsHead.symm.trans isHead)]
    exact isId.solid first (by rw [idEq]; exact List.mem_cons_self)
  · rw [← List.append_assoc, getLast?_taskArgument] at isLast
    rw [← Option.some.inj isLast]
    exact quote_notSpace

theorem trim_spawnHead :
    trim (js "@@spawn " ++ (agentId ++ js " " ++ (mid ++ taskArgument task))) =
      js "@@spawn " ++ (agentId ++ js " " ++ (mid ++ taskArgument task)) := by
  refine trimBy_of_bare ⟨fun codeUnit isHead => ?_, fun codeUnit isLast => ?_⟩
  · rw [← Option.some.inj isHead]
    decide
  · rw [← List.append_assoc (agentId ++ js " "), ← List.append_assoc,
      getLast?_taskArgument] at isLast
    rw [← Option.some.inj isLast]
    exact quote_notSpace

theorem newline_notMem_spawnHead (isId : IsUnquoted agentId)
    (oneLine : newline ∉ mid ++ taskArgument task) :
    newline ∉
      js "@@spawn " ++ (agentId ++ js " " ++ (mid ++ taskArgument task)) := by
  have inHead : newline ∉ js "@@spawn " := by decide
  have inGap : newline ∉ js " " := by decide
  have inId : newline ∉ agentId := isId.solid.notMem (by decide)
  rw [List.mem_append, List.mem_append, List.mem_append]
  rintro (inFirst | (inSecond | inThird) | inRest)
  · exact inHead inFirst
  · exact inId inSecond
  · exact inGap inThird
  · exact oneLine inRest

/-- Only a line terminator in the arguments hides the magic. -/
theorem knownCellMagic?_spawn (isId : IsUnquoted agentId)
    (nonempty : agentId ≠ []) :
    knownCellMagic?
        (js "@@spawn " ++ (agentId ++ js " " ++ (mid ++ taskArgument task))) =
      if (mid ++ taskArgument task).any isLineTerminator then none
      else some
        (js "spawn", agentId ++ js " " ++ (mid ++ taskArgument task)) := by
  have bareArgs : Bare isWhiteSpace
      (agentId ++ js " " ++ (mid ++ taskArgument task)) :=
    bare_spawnArgs isId nonempty
  have gap : (js " ").any isLineTerminator = false := by decide
  have terminators :
      (agentId ++ js " " ++ (mid ++ taskArgument task)).any isLineTerminator =
        (mid ++ taskArgument task).any isLineTerminator := by
    rw [List.any_append, List.any_append, isId.solid.noTerminator, gap,
      Bool.false_or, Bool.false_or]
  have isKnown : decide (js "spawn" ∈ cellMagicNames) = true := by decide
  generalize agentId ++ js " " ++ (mid ++ taskArgument task) = args
    at bareArgs terminators ⊢
  have isWordOf : ∀ codeUnit ∈ js "spawn", isWord codeUnit = true :=
    List.all_eq_true.mp (by decide)
  have spaced := @cellMagic?_spaced _ args (by decide) isWordOf
  have headEq : js "@@spawn " ++ args =
      js "@@" ++ (js "spawn" ++ unit ' ' :: args) := rfl
  rw [dropWhile_eq_self bareArgs.head, terminators] at spaced
  rw [knownCellMagic?, headEq, spaced]
  split
  · rfl
  · rw [Option.filter_some, if_pos isKnown]

/-- The task behind the id is the first quoted one. -/
theorem search_quotedTask?_spawnArgs (isId : IsUnquoted agentId)
    (midUnquoted : quote ∉ mid) (noQuote : quote ∉ task) :
    search quotedTask? (agentId ++ js " " ++ (mid ++ taskArgument task)) =
      some (task, []) := by
  have unquoted : quote ∉ agentId ++ js " " ++ mid := by
    have inGap : quote ∉ js " " := by decide
    simp [isId.noQuote, inGap, midUnquoted]
  rw [← List.append_assoc]
  exact search_quotedTask? unquoted noQuote

theorem leadingWord?_spawnArgs (isId : IsUnquoted agentId)
    (nonempty : agentId ≠ []) :
    leadingWord? (agentId ++ js " " ++ (mid ++ taskArgument task)) =
      some agentId := by
  rw [List.append_assoc]
  refine isId.solid.leadingWord? nonempty fun stop isStop => ?_
  rw [← Option.some.inj isStop]
  decide

/-- The head line of a spawn cell, with something between the id and the
task. -/
theorem parse_spawnCell (isId : IsUnquoted agentId) (nonempty : agentId ≠ [])
    (midUnquoted : quote ∉ mid) (noQuote : quote ∉ task)
    (oneLine : newline ∉ mid ++ taskArgument task) :
    parseCellDirective
        (js "@@spawn " ++ (agentId ++ js " " ++ (mid ++ taskArgument task))) =
      if (mid ++ taskArgument task).any isLineTerminator then
        plainDirective
          (js "@@spawn " ++ (agentId ++ js " " ++ (mid ++ taskArgument task)))
      else
        some (.spawn agentId task
          (search endpointAt?
            (agentId ++ js " " ++ (mid ++ taskArgument task)))) := by
  have word : leadingWord? (agentId ++ js " " ++ (mid ++ taskArgument task)) =
      some agentId := leadingWord?_spawnArgs isId nonempty
  have quoted := search_quotedTask?_spawnArgs isId midUnquoted noQuote
  have known : knownCellMagic?
      (js "@@spawn " ++ (agentId ++ js " " ++ (mid ++ taskArgument task))) = _ :=
    knownCellMagic?_spawn isId nonempty
  have trimmedArgs :
      trim (agentId ++ js " " ++ (mid ++ taskArgument task)) = _ :=
    trimBy_of_bare (bare_spawnArgs isId nonempty)
  have trimmedHead :
      trim (js "@@spawn " ++
        (agentId ++ js " " ++ (mid ++ taskArgument task))) = _ := trim_spawnHead
  have noNewline := newline_notMem_spawnHead isId oneLine
  generalize agentId ++ js " " ++ (mid ++ taskArgument task) = args
    at word quoted known trimmedArgs trimmedHead noNewline ⊢
  have found := fromHead_of_head (splitLines_line noNewline) (by
    rw [trimmedHead]
    exact List.cons_ne_nil _ _)
  have notBreak : trim (js "@@spawn " ++ args) ≠ js "@@break" := by
    rw [trimmedHead]
    exact magic_ne_break (by decide)
  rw [parseCellDirective, found]
  simp only [if_neg notBreak, known]
  by_cases terminator : (mid ++ taskArgument task).any isLineTerminator = true
  · rw [if_pos terminator, if_pos terminator]
  · rw [if_neg terminator, if_neg terminator]
    simp only [cellMagicDirective, if_pos, trimmedArgs, word, quoted,
      Option.bind_eq_bind, Option.bind_some]
    rfl

/-- A spawn cell that no cell magic reads is no spawn. -/
theorem plainDirective_spawnCell {args : JsString} {endpoint : Option JsString} :
    plainDirective (js "@@spawn " ++ args) ≠
      some (.spawn agentId task endpoint) := by
  intro parsed
  have isHead := (plainDirective_eq_some parsed).2 _ _ _ rfl
  have bareAt : Bare isWhiteSpace (js "@") :=
    bare_of_ends (by decide) (by decide)
  obtain ⟨rest, trimmed⟩ := prefix_trimBy bareAt (by decide)
    (js "@spawn " ++ args)
  have headEq : js "@@spawn " ++ args = js "@" ++ (js "@spawn " ++ args) := rfl
  have isAt : (js "@" ++ rest).head? = some atSign := rfl
  rw [headEq, trim_eq_trimBy, ← trimmed, isAt] at isHead
  revert isHead
  decide

theorem any_taskArgument :
    (taskArgument task).any isLineTerminator = task.any isLineTerminator := by
  have inName : (js "task:\"").any isLineTerminator = false := by decide
  have inEnd : (js "\"").any isLineTerminator = false := by decide
  rw [taskArgument, List.any_append, List.any_append, inName, inEnd,
    Bool.false_or, Bool.or_false]

theorem newline_notMem_taskArgument (oneLine : newline ∉ task) :
    newline ∉ taskArgument task := by
  have inName : newline ∉ js "task:\"" := by decide
  have inEnd : newline ∉ js "\"" := by decide
  simp [taskArgument, inName, inEnd, oneLine]

/-- `endpoint:<name> ` -/
def endpointArgument (name : JsString) : JsString :=
  js "endpoint:" ++ (name ++ js " ")

theorem spawnCellAt_eq : spawnCellAt agentId name task =
    js "@@spawn " ++ (agentId ++ js " " ++
      (endpointArgument name ++ taskArgument task)) := by
  simp only [spawnCellAt, endpointArgument, List.append_assoc]

theorem IsUnquoted.endpointArgument (isName : IsUnquoted name) :
    quote ∉ endpointArgument name ∧ newline ∉ endpointArgument name ∧
      (endpointArgument name).any isLineTerminator = false := by
  have quoteStart : quote ∉ js "endpoint:" := by decide
  have quoteGap : quote ∉ js " " := by decide
  have newlineStart : newline ∉ js "endpoint:" := by decide
  have newlineGap : newline ∉ js " " := by decide
  have start : (js "endpoint:").any isLineTerminator = false := by decide
  have gap : (js " ").any isLineTerminator = false := by decide
  have inName : newline ∉ name := isName.solid.notMem (by decide)
  refine ⟨by simp [CellDirective.endpointArgument, quoteStart, quoteGap, isName.noQuote],
    by simp [CellDirective.endpointArgument, newlineStart, newlineGap, inName], ?_⟩
  rw [CellDirective.endpointArgument, List.any_append, List.any_append, start, gap,
    isName.solid.noTerminator]
  rfl

/-- For an id and an endpoint without white space and quotes and a task on one
line without quotes, the forms agree if and only if the id and the endpoint are
not empty, the task holds no further line terminator, and neither the id nor the
quoted task holds `endpoint:` with something behind it that is no white
space. -/
theorem spawnFormsAgree_iff (isId : IsUnquoted agentId)
    (isName : IsUnquoted name) (noQuote : quote ∉ task)
    (oneLine : newline ∉ task) :
    SpawnFormsAgree agentId name task ↔
      agentId ≠ [] ∧ name ≠ [] ∧ task.any isLineTerminator = false ∧
        ¬ NamesEndpoint agentId ∧ ¬ NamesEndpoint (task ++ js "\"") := by
  have oneLineTask := newline_notMem_taskArgument oneLine
  have named : NamesEndpoint (agentId ++ js " " ++ taskArgument task) ↔
      NamesEndpoint agentId ∨ NamesEndpoint (task ++ js "\"") := by
    rw [namesEndpoint_append_blank, namesEndpoint_taskArgument]
  constructor
  · rintro ⟨_, cell, cellAt⟩
    have nonempty := (namesParts_of_parse cell).1
    have nameNonempty : name ≠ [] := fun empty =>
      (namesParts_of_parse cellAt).2 (by rw [empty])
    have parsed := @parse_spawnCell agentId task [] isId nonempty
      List.not_mem_nil noQuote oneLineTask
    rw [List.nil_append, any_taskArgument] at parsed
    rw [spawnCell, parsed] at cell
    by_cases terminator : task.any isLineTerminator = true
    · rw [if_pos terminator] at cell
      exact absurd cell plainDirective_spawnCell
    · rw [if_neg terminator, Option.some.injEq, Directive.spawn.injEq] at cell
      have noName := search_endpointAt?_eq_none_iff.mp cell.2.2
      rw [named, not_or] at noName
      exact ⟨nonempty, nameNonempty, by simpa using terminator, noName⟩
  · rintro ⟨nonempty, nameNonempty, noTerminator, idNone, taskNone⟩
    refine ⟨parse_spawnAlias isId nonempty noQuote oneLine, ?_, ?_⟩
    · have parsed := @parse_spawnCell agentId task [] isId nonempty
        List.not_mem_nil noQuote oneLineTask
      have noEndpoint := search_endpointAt?_eq_none_iff.mpr
        (fun names => (named.mp names).elim idNone taskNone)
      rw [List.nil_append, any_taskArgument, noTerminator,
        if_neg Bool.false_ne_true, noEndpoint] at parsed
      exact parsed
    · obtain ⟨midUnquoted, midLine, midTerminator⟩ := isName.endpointArgument
      have oneLineArgs : newline ∉ endpointArgument name ++ taskArgument task :=
        by
          rw [List.mem_append, not_or]
          exact ⟨midLine, oneLineTask⟩
      have parsed := parse_spawnCell isId nonempty midUnquoted noQuote
        oneLineArgs
      have found : search endpointAt? (agentId ++ js " " ++
          (endpointArgument name ++ taskArgument task)) = some name := by
        rw [search_endpointAt?_behindId idNone, endpointArgument,
          List.append_assoc]
        exact search_endpointAt?_named isName nameNonempty
      rw [List.any_append, midTerminator, any_taskArgument, noTerminator,
        Bool.false_or, if_neg Bool.false_ne_true, found] at parsed
      rw [spawnCellAt_eq]
      exact parsed

theorem isUnquoted_of_all {word : JsString}
    (all : word.all (fun codeUnit =>
      !isWhiteSpace codeUnit && decide (codeUnit ≠ quote)) = true) :
    IsUnquoted word where
  solid := fun codeUnit member => by
    have held := List.all_eq_true.mp all codeUnit member
    simp at held
    exact held.1
  noQuote := fun member => by
    have held := List.all_eq_true.mp all quote member
    simp at held

/-- An agent and a task with a further colon. -/
theorem audit_formsAgree :
    SpawnFormsAgree (js "alpha") (js "cheap") (js "audit: all") :=
  (spawnFormsAgree_iff (isUnquoted_of_all (by decide))
    (isUnquoted_of_all (by decide)) (by decide) (by decide)).mpr
    ⟨by decide, by decide, by decide,
      search_endpointAt?_eq_none_iff.mp (by decide),
      search_endpointAt?_eq_none_iff.mp (by decide)⟩

/-- A task that speaks of an endpoint sets one. -/
theorem quotedEndpoint_isSet : ¬ ∀ agentId name task,
    agentId ≠ [] → name ≠ [] → IsUnquoted agentId → IsUnquoted name →
      quote ∉ task → task.any isLineTerminator = false →
        SpawnFormsAgree agentId name task := by
  intro agrees
  obtain ⟨_, cell, _⟩ := agrees (js "alpha") (js "cheap")
    (js "compare endpoint:dear with it") (by decide) (by decide)
    (isUnquoted_of_all (by decide)) (isUnquoted_of_all (by decide))
    (by decide) (by decide)
  revert cell
  decide +kernel

end

end RtsNotebook.Notebook.CellDirective
