import RtsNotebook.Notebook.DirectiveLines

/-!
# The two forms of a continuation

`@<id>: <message>` and `@@agent <id>` with the message on the next lines, as
`parseCellDirective` reads them.  The first form is matched against the head
line of the cell alone.
-/

namespace RtsNotebook.Notebook.CellDirective

open RtsNotebook.Js RtsNotebook.Library

def atSign : UInt16 := unit '@'

/-- `@<id>: <message>` -/
def continueAlias (agentId message : JsString) : JsString :=
  js "@" ++ agentId ++ js ": " ++ message

/-- `@@agent <id>` with the message on the next lines. -/
def continueCell (agentId message : JsString) : JsString :=
  js "@@agent " ++ agentId ++ js "\n" ++ message

/-- What follows the first colon of a text. -/
def afterColon (text : JsString) : JsString :=
  (text.dropWhile fun codeUnit => codeUnit ≠ colon).drop 1

/-- An agent id that is not empty and holds no white space, colon or `@`. -/
structure IsAgentId (agentId : JsString) : Prop where
  nonempty : agentId ≠ []
  solid : IsSolid agentId
  noColon : colon ∉ agentId
  noAt : atSign ∉ agentId

/-- The alias yields a continuation with everything behind its first colon,
trimmed, and the canonical form yields the same directive. -/
def KeepsBody (agentId message : JsString) : Prop :=
  parseCellDirective (continueAlias agentId message) =
      some (.continue agentId
        (trim (afterColon (continueAlias agentId message)))) ∧
    parseCellDirective (continueAlias agentId message) =
      parseCellDirective (continueCell agentId message)

/-- The message up to its first newline. -/
def firstLine (message : JsString) : JsString :=
  message.takeWhile fun codeUnit => codeUnit ≠ newline

/-- The message from its first newline on. -/
def afterFirstLine (message : JsString) : JsString :=
  message.dropWhile fun codeUnit => codeUnit ≠ newline

theorem trim_eq_trimBy (text : JsString) : trim text = trimBy isWhiteSpace text :=
  rfl

/-! ### Lines -/

section

variable {line rest before begun : JsString}

theorem dropReturn_append (notReturn : before.getLast? ≠ some (unit '\r')) :
    dropReturn (before ++ line) = before ++ dropReturn line := by
  cases line using List.reverseRecOn with
  | nil =>
      rw [List.append_nil, dropReturn, if_neg notReturn, dropReturn,
        List.getLast?_nil, if_neg nofun, List.append_nil]
  | append_singleton others last =>
      rw [dropReturn, dropReturn, ← List.append_assoc, List.getLast?_concat,
        List.getLast?_concat]
      split
      · rw [List.dropLast_concat, List.dropLast_concat]
      · rw [List.append_assoc]

theorem splitLinesFrom_line (noNewline : newline ∉ line) :
    splitLinesFrom begun line = [begun.reverse ++ line] := by
  induction line generalizing begun with
  | nil => rw [splitLinesFrom, List.append_nil]
  | cons codeUnit line inductionHypothesis =>
      rw [List.mem_cons, not_or] at noNewline
      have notReturn : ¬(codeUnit = carriageReturn ∧
          line.head? = some newline) := fun isReturn =>
        noNewline.2 (List.mem_of_mem_head? isReturn.2)
      rw [splitLinesFrom, if_neg (Ne.symm noNewline.1), if_neg notReturn,
        inductionHypothesis noNewline.2, List.reverse_cons, List.append_assoc,
        List.singleton_append]

theorem splitLinesFrom_append_newline (noNewline : newline ∉ line) :
    splitLinesFrom begun (line ++ newline :: rest) =
      (begun.reverse ++ dropReturn line) :: splitLines rest := by
  induction line generalizing begun with
  | nil =>
      rw [List.nil_append, splitLinesFrom, if_pos rfl, dropReturn,
        List.getLast?_nil, if_neg (Option.some_ne_none _).symm,
        List.append_nil, splitLines]
  | cons codeUnit line inductionHypothesis =>
      rw [List.mem_cons, not_or] at noNewline
      rw [List.cons_append, splitLinesFrom, if_neg (Ne.symm noNewline.1)]
      by_cases isReturn : codeUnit = carriageReturn ∧
          (line ++ newline :: rest).head? = some newline
      · -- The return stands right before the newline.
        have isLast : line = [] := by
          cases line with
          | nil => rfl
          | cons next line =>
              have isNewline : next = newline := Option.some.inj isReturn.2
              exact absurd (by rw [isNewline]; exact List.mem_cons_self)
                noNewline.2
        rw [if_pos isReturn, inductionHypothesis noNewline.2, isLast,
          isReturn.1]
        rfl
      · rw [if_neg isReturn, inductionHypothesis noNewline.2,
          List.reverse_cons, List.append_assoc, List.singleton_append]
        congr 2
        cases line with
        | nil =>
            have notReturn : codeUnit ≠ carriageReturn := fun same =>
              isReturn ⟨same, rfl⟩
            simp [dropReturn, carriageReturn] at notReturn ⊢
            exact notReturn
        | cons next line =>
            rw [dropReturn, dropReturn, List.getLast?_cons_cons]
            split
            · rfl
            · rfl

theorem splitLines_line (noNewline : newline ∉ line) :
    splitLines line = [line] :=
  splitLinesFrom_line noNewline

theorem splitLines_append_newline (noNewline : newline ∉ line) :
    splitLines (line ++ newline :: rest) = dropReturn line :: splitLines rest :=
  splitLinesFrom_append_newline noNewline

end

/-! ### The alias -/

section

variable {agentId message text body : JsString} {restLines : List JsString}

theorem bare_alias (agentId : JsString) :
    Bare isWhiteSpace (js "@" ++ agentId ++ js ":") where
  head := by
    intro codeUnit isHead
    have isAt : codeUnit = atSign := (Option.some.inj isHead).symm
    rw [isAt]
    decide
  last := by
    intro codeUnit isLast
    have isColon : codeUnit = colon := by
      have lastEq : (js "@" ++ agentId ++ js ":").getLast? = some colon :=
        List.getLast?_concat
      exact (Option.some.inj (lastEq.symm.trans isLast)).symm
    rw [isColon]
    decide

theorem trim_alias (agentId text : JsString) :
    trim (js "@" ++ agentId ++ js ":" ++ text) =
      js "@" ++ agentId ++ js ":" ++ text.rdropWhile isWhiteSpace :=
  trimBy_append_of_bare (bare_alias agentId) (List.cons_ne_nil _ _) text

/-- The expression takes the id up to the colon and the rest after it. -/
theorem legacyContinue?_alias (isId : IsAgentId agentId) :
    legacyContinue? (js "@" ++ agentId ++ js ":" ++ text) =
      if trim text = [] then none
      else some (.continue agentId (trim text)) := by
  have afterAt : after? (js "@") (js "@" ++ agentId ++ js ":" ++ text) =
      some (agentId ++ colon :: text) := by
    rw [after?_eq_some_iff, List.append_assoc, List.append_assoc]
    rfl
  have idRun : run (fun codeUnit =>
      !isWhiteSpace codeUnit && decide (codeUnit ≠ colon))
        (agentId ++ colon :: text) = (agentId, colon :: text) := by
    refine run_append (fun codeUnit member => ?_) (by simp)
    have notColon : codeUnit ≠ colon := fun same =>
      isId.noColon (same ▸ member)
    simp [isId.solid codeUnit member, notColon]
  have separator : (colon :: text).dropWhile isWhiteSpace = colon :: text :=
    List.dropWhile_cons_of_neg (by decide)
  rw [legacyContinue?, afterAt]
  simp only [Option.bind_eq_bind, Option.bind_some]
  rw [idRun]
  obtain ⟨first, others, rfl⟩ := List.exists_cons_of_ne_nil isId.nonempty
  simp only [separator]
  by_cases blank : trim text = []
  · simp [blank]
  · simp [blank]

/-- The alias is no magic of either kind, and no spawn. -/
theorem plainDirective_alias (isId : IsAgentId agentId) :
    plainDirective (js "@" ++ agentId ++ js ":" ++ text) =
      if trim text = [] then none
      else some (.continue agentId (trim text)) := by
  have hasColon : colon ∈ js "@" ++ agentId ++ js ":" ++ text := by
    simp [js, unitsOfChar, colon, unit]
  have notSpawn : legacySpawn? (trim (js "@" ++ agentId ++ js ":" ++ text)) =
      none := by
    rw [trim_alias]
    rfl
  have legacy : plainDirective.legacy (js "@" ++ agentId ++ js ":" ++ text) =
      if trim text = [] then none
      else some (.continue agentId (trim text)) := by
    rw [plainDirective.legacy, notSpawn, Option.orElse_none, trim_alias,
      legacyContinue?_alias isId, trim_eq_trimBy, trim_eq_trimBy,
      trimBy_rdropWhile]
  rw [plainDirective]
  split
  · rw [if_neg (fun lineMagic => lineMagic.2 hasColon), legacy]
  · exact legacy

/-- The head line of the alias decides alone. -/
theorem parse_of_aliasHead (isId : IsAgentId agentId)
    (split : splitLines text =
      (js "@" ++ agentId ++ js ":" ++ body) :: restLines) :
    parseCellDirective text =
      if trim body = [] then none
      else some (.continue agentId (trim body)) := by
  have found := fromHead_of_head split (by
    rw [trim_alias]
    exact List.cons_ne_nil _ _)
  obtain ⟨first, others, rfl⟩ := List.exists_cons_of_ne_nil isId.nonempty
  have notAt : first ≠ atSign := fun same =>
    isId.noAt (same ▸ List.mem_cons_self)
  have notBreak : trim (js "@" ++ (first :: others) ++ js ":" ++ body) ≠
      js "@@break" := by
    rw [trim_alias]
    intro same
    injection same with _ same
    injection same with same _
    exact notAt same
  have notCellMagic :
      knownCellMagic? (js "@" ++ (first :: others) ++ js ":" ++ body) =
        none := by
    have noPrefix : after? (js "@@")
        (js "@" ++ (first :: others) ++ js ":" ++ body) = none := by
      rw [Option.eq_none_iff_forall_ne_some]
      intro rest isAfter
      rw [after?_eq_some_iff] at isAfter
      injection isAfter with _ isAfter
      injection isAfter with same _
      exact notAt same
    rw [knownCellMagic?, cellMagic?, noPrefix]
    rfl
  rw [parseCellDirective, found]
  simp only [if_neg notBreak, notCellMagic]
  exact plainDirective_alias isId

/-! ### The first line of a message -/

theorem firstLine_append (message : JsString) :
    message = firstLine message ++ afterFirstLine message :=
  List.takeWhile_append_dropWhile.symm

theorem newline_notMem_firstLine (message : JsString) :
    newline ∉ firstLine message := by
  intro member
  have held := List.mem_takeWhile_imp member
  simp at held

/-- What follows the first line begins with the newline that ends it. -/
theorem afterFirstLine_eq (message : JsString) :
    afterFirstLine message = [] ∨
      ∃ rest, afterFirstLine message = newline :: rest := by
  have stops := List.head?_dropWhile_not
    (fun codeUnit => decide (codeUnit ≠ newline)) message
  rw [afterFirstLine]
  cases found : message.dropWhile fun codeUnit => codeUnit ≠ newline with
  | nil => exact Or.inl rfl
  | cons first rest =>
      rw [found] at stops
      have isNewline : first = newline := by simpa using stops
      exact Or.inr ⟨rest, by rw [isNewline]⟩

theorem trim_dropReturn (line : JsString) : trim (dropReturn line) = trim line := by
  rw [dropReturn]
  split
  · rename_i isLast
    obtain ⟨others, rfl⟩ := List.getLast?_eq_some_iff.mp isLast
    rw [List.dropLast_concat, trim_eq_trimBy, trim_eq_trimBy]
    refine (trimBy_append_right fun codeUnit member => ?_).symm
    rw [List.mem_singleton.mp member]
    decide
  · rfl

theorem trim_space (line : JsString) : trim (js " " ++ line) = trim line :=
  trimBy_append_left (List.all_eq_true.mp (by decide))

/-- Only the first line of the message reaches the directive. -/
theorem parse_continueAlias (isId : IsAgentId agentId) :
    parseCellDirective (continueAlias agentId message) =
      if trim (firstLine message) = [] then none
      else some (.continue agentId (trim (firstLine message))) := by
  have headEq (line : JsString) : js "@" ++ agentId ++ js ": " ++ line =
      js "@" ++ agentId ++ js ":" ++ (js " " ++ line) := by
    have colonSpace : js ": " = js ":" ++ js " " := rfl
    simp only [colonSpace, List.append_assoc]
  have noNewline : newline ∉ js "@" ++ agentId ++ js ": " ++
      firstLine message := by
    have solid : newline ∉ agentId := isId.solid.notMem (by decide)
    have inAt : newline ∉ js "@" := by decide
    have inColon : newline ∉ js ": " := by decide
    simp [solid, inAt, inColon, newline_notMem_firstLine]
  have cellEq : continueAlias agentId message =
      js "@" ++ agentId ++ js ": " ++ firstLine message ++
        afterFirstLine message := by
    rw [List.append_assoc, ← firstLine_append, continueAlias]
  rcases afterFirstLine_eq message with isLast | ⟨rest, more⟩
  · have split := splitLines_line noNewline
    rw [headEq] at split
    rw [cellEq, isLast, List.append_nil, headEq, parse_of_aliasHead isId split,
      trim_space]
  · have split := @splitLines_append_newline _ rest noNewline
    have notReturn : (js "@" ++ agentId ++ js ": ").getLast? ≠
        some (unit '\r') := by
      rw [List.getLast?_append_of_ne_nil _ (by decide)]
      decide
    rw [dropReturn_append notReturn,
      headEq (dropReturn (firstLine message))] at split
    rw [cellEq, more, parse_of_aliasHead isId split, trim_space,
      trim_dropReturn]

/-! ### The canonical form -/

theorem splitLines_continueCell (isId : IsAgentId agentId) :
    splitLines (continueCell agentId message) =
      (js "@@agent " ++ agentId) :: splitLines message := by
  have noNewline : newline ∉ js "@@agent " ++ agentId := by
    have inHead : newline ∉ js "@@agent " := by decide
    have inId : newline ∉ agentId := isId.solid.notMem (by decide)
    simp [inHead, inId]
  have keepsHead : dropReturn (js "@@agent " ++ agentId) =
      js "@@agent " ++ agentId := by
    rw [dropReturn, List.getLast?_append_of_ne_nil _ isId.nonempty, if_neg]
    intro isReturn
    exact isId.solid.notMem (by decide) (List.mem_of_getLast? isReturn)
  have lines := @splitLines_append_newline _ message noNewline
  rw [keepsHead] at lines
  rw [← lines, continueCell, List.append_assoc]
  rfl

theorem trim_cellHead (isId : IsAgentId agentId) :
    trim (js "@@agent " ++ agentId) = js "@@agent " ++ agentId := by
  refine trimBy_of_bare ⟨fun codeUnit isHead => ?_, fun codeUnit isLast => ?_⟩
  · rw [← Option.some.inj isHead]
    decide
  · rw [List.getLast?_append_of_ne_nil _ isId.nonempty] at isLast
    exact isId.solid.bare.last codeUnit isLast

theorem knownCellMagic?_agent (isId : IsAgentId agentId) :
    knownCellMagic? (js "@@agent " ++ agentId) =
      some (js "agent", agentId) := by
  have isWordOf : ∀ codeUnit ∈ js "agent", isWord codeUnit = true :=
    List.all_eq_true.mp (by decide)
  have spaced := @cellMagic?_spaced _ agentId (by decide) isWordOf
  rw [dropWhile_eq_self isId.solid.bare.head, isId.solid.noTerminator,
    if_neg Bool.false_ne_true] at spaced
  have headEq : js "@@agent " ++ agentId =
      js "@@" ++ (js "agent" ++ unit ' ' :: agentId) := rfl
  have known : decide (js "agent" ∈ cellMagicNames) = true := by decide
  rw [knownCellMagic?, headEq, spaced, Option.filter_some, if_pos known]

/-- The canonical form takes all lines of the message. -/
theorem parse_continueCell (isId : IsAgentId agentId) :
    parseCellDirective (continueCell agentId message) =
      if trim (foldReturns carriageReturn newline message) = [] then none
      else some (.continue agentId
        (trim (foldReturns carriageReturn newline message))) := by
  have notBlank : trim (js "@@agent " ++ agentId) ≠ [] := by
    rw [trim_cellHead isId]
    exact List.cons_ne_nil _ _
  have found := fromHead_of_head
    (@splitLines_continueCell _ message isId) notBlank
  have notBreak : trim (js "@@agent " ++ agentId) ≠ js "@@break" := by
    rw [trim_cellHead isId]
    exact magic_ne_break (by decide)
  have word : leadingWord? (agentId ++ []) = some agentId :=
    isId.solid.leadingWord? isId.nonempty nofun
  rw [List.append_nil] at word
  have trimmed : trim agentId = agentId := trimBy_of_bare isId.solid.bare
  rw [parseCellDirective, found]
  simp only [if_neg notBreak, knownCellMagic?_agent isId]
  rw [cellMagicDirective, if_neg (by decide), if_pos rfl, trimmed, word,
    join_splitLines]
  by_cases blank : trim (foldReturns carriageReturn newline message) = []
  · simp [blank]
  · simp [blank]

/-! ### Both forms -/

/-- White space behind the first line is trimmed, in either form. -/
theorem trim_of_blankRest
    (blank : ∀ codeUnit ∈ afterFirstLine message, isWhiteSpace codeUnit = true) :
    trim message = trim (firstLine message) ∧
      trim (foldReturns carriageReturn newline message) =
        trim (firstLine message) := by
  constructor
  · rw [firstLine_append message]
    nth_rewrite 2 [← firstLine_append message]
    exact trimBy_append_right blank
  · rcases afterFirstLine_eq message with isLast | ⟨rest, more⟩
    · have whole := firstLine_append message
      rw [isLast, List.append_nil] at whole
      have split := splitLines_line (newline_notMem_firstLine message)
      rw [← whole] at split ⊢
      rw [← join_splitLines, split]
      rfl
    · have whole := firstLine_append message
      rw [more] at whole blank
      have split := @splitLines_append_newline _ rest
        (newline_notMem_firstLine message)
      rw [← whole] at split
      rw [← join_splitLines, split,
        join_cons _ _ (show splitLines rest ≠ [] from
          splitLinesFrom_ne_nil [] rest),
        join_splitLines, List.append_assoc,
        ← trim_dropReturn (firstLine message)]
      refine trimBy_append_right fun codeUnit member => ?_
      rcases List.mem_append.mp member with isNewline | inRest
      · rw [List.mem_singleton.mp isNewline]
        decide
      · exact blank codeUnit (List.mem_cons_of_mem _
          ((foldReturns_sublist _ _ _).mem inRest))

/-- A message with something on its first line and on a later one keeps a
newline when it is trimmed. -/
theorem newline_mem_trim (first : trim (firstLine message) ≠ [])
    (later : ¬ ∀ codeUnit ∈ afterFirstLine message,
      isWhiteSpace codeUnit = true) :
    newline ∈ trim message := by
  have keptFirst : (firstLine message).dropWhile isWhiteSpace ≠ [] := by
    intro empty
    rw [trim_eq_trimBy, trimBy, empty] at first
    exact first rfl
  have keptRest : (afterFirstLine message).rdropWhile isWhiteSpace ≠ [] := by
    rwa [ne_eq, List.rdropWhile_eq_nil_iff]
  have start : message.dropWhile isWhiteSpace =
      (firstLine message).dropWhile isWhiteSpace ++ afterFirstLine message := by
    conv_lhs => rw [firstLine_append message]
    rw [List.dropWhile_append, if_neg (by simpa using keptFirst)]
  rw [trim_eq_trimBy, trimBy, start, rdropWhile_append_of_ne_nil keptRest]
  refine List.mem_append_right _ ?_
  rcases afterFirstLine_eq message with isLast | ⟨rest, more⟩
  · rw [isLast] at keptRest
    exact absurd rfl keptRest
  · obtain ⟨others, isPrefix⟩ := List.rdropWhile_prefix isWhiteSpace
      (afterFirstLine message)
    obtain ⟨head, kept, keptEq⟩ := List.exists_cons_of_ne_nil keptRest
    rw [keptEq, more] at isPrefix
    injection isPrefix with headEq _
    rw [keptEq, headEq]
    exact List.mem_cons_self

theorem afterColon_alias (isId : IsAgentId agentId) :
    trim (afterColon (continueAlias agentId message)) = trim message := by
  have passes : ∀ codeUnit ∈ js "@" ++ agentId,
      decide (codeUnit ≠ colon) = true := by
    intro codeUnit member
    rw [decide_eq_true_eq]
    rintro rfl
    rcases List.mem_append.mp member with inAt | inId
    · revert inAt
      decide
    · exact isId.noColon inId
  have cellEq : continueAlias agentId message =
      js "@" ++ agentId ++ colon :: (js " " ++ message) := by
    rw [continueAlias, List.append_assoc]
    rfl
  rw [afterColon, cellEq, List.dropWhile_append_of_pos passes,
    List.dropWhile_cons_of_neg (by simp), List.drop_one, List.tail_cons,
    trim_space]

/-- A message that is not blank reaches the directive whole, and the same as in
the canonical form, if and only if only white space follows its first line. -/
theorem continueForms_keepBody_iff (isId : IsAgentId agentId)
    (notBlank : trim message ≠ []) :
    KeepsBody agentId message ↔
      ∀ codeUnit ∈ afterFirstLine message, isWhiteSpace codeUnit = true := by
  rw [KeepsBody, afterColon_alias isId, parse_continueAlias isId,
    parse_continueCell isId]
  constructor
  · rintro ⟨keeps, _⟩
    by_contra later
    by_cases first : trim (firstLine message) = []
    · rw [if_pos first] at keeps
      cases keeps
    · rw [if_neg first] at keeps
      injection keeps with keeps
      injection keeps with _ sameText
      have inFirst := newline_mem_trim first later
      rw [← sameText] at inFirst
      exact newline_notMem_firstLine message
        ((trimBy_sublist _ _).mem inFirst)
  · intro blank
    obtain ⟨sameFirst, sameFolded⟩ := trim_of_blankRest blank
    rw [sameFirst] at notBlank
    rw [sameFolded, sameFirst, if_neg notBlank]
    exact ⟨rfl, rfl⟩

theorem isAgentId_alpha : IsAgentId (js "alpha") where
  nonempty := by decide
  solid := by
    have noneHolds : (js "alpha").all (fun codeUnit =>
        decide (isWhiteSpace codeUnit = false)) = true := by decide
    intro codeUnit member
    exact of_decide_eq_true (List.all_eq_true.mp noneHolds codeUnit member)
  noColon := by decide
  noAt := by decide

/-- A message of one line, with a colon in it. -/
theorem ratio_keepsBody : KeepsBody (js "alpha") (js "ratio is 1:2") :=
  (continueForms_keepBody_iff isAgentId_alpha (by decide)).mpr
    (List.all_eq_true.mp (by decide))

/-- The second line of a message is dropped. -/
theorem secondLine_dropped : ¬ ∀ agentId message,
    IsAgentId agentId → trim message ≠ [] → KeepsBody agentId message := by
  intro keepsAll
  obtain ⟨keeps, _⟩ := keepsAll (js "alpha") (js "one\ntwo") isAgentId_alpha
    (by decide)
  revert keeps
  decide +kernel

end

end RtsNotebook.Notebook.CellDirective
