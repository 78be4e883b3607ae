import RtsNotebook.Notebook.ContinueForms

/-!
# The line magics

`@<name> <args>` at the head of a cell, as `parseCellDirective` reads it.  The
test that sets a line magic apart from a continuation asks for a colon in the
whole head line, and so in the arguments too.
-/

namespace RtsNotebook.Notebook.CellDirective

open RtsNotebook.Js RtsNotebook.Library

/-- `@<name> <args>` -/
def lineMagicLine (name args : JsString) : JsString :=
  js "@" ++ (name ++ unit ' ' :: args)

/-- The line yields a line magic with the name and the trimmed arguments. -/
def RecognisesLineMagic (name args : JsString) : Prop :=
  ∃ set unset, parseCellDirective (lineMagicLine name args) =
    some (.lineMagic name (trim args) set unset)

section

variable {name args head : JsString}

/-! ### Names -/

theorem isWhiteSpace_of_isWord {codeUnit : UInt16}
    (word : isWord codeUnit = true) : isWhiteSpace codeUnit = false := by
  have noneIsWord : ∀ space ∈
      ([0x09, 0x0A, 0x0B, 0x0C, 0x0D, 0x20, 0xA0, 0x1680, 0x2000, 0x2001,
        0x2002, 0x2003, 0x2004, 0x2005, 0x2006, 0x2007, 0x2008, 0x2009,
        0x200A, 0x2028, 0x2029, 0x202F, 0x205F, 0x3000, 0xFEFF] : List UInt16),
      (!isWord space) = true := List.all_eq_true.mp (by decide)
  rw [isWhiteSpace, decide_eq_false_iff_not]
  intro member
  have notWord := noneIsWord codeUnit member
  rw [word] at notWord
  cases notWord

/-- `[A-Za-z_]\w*` -/
structure IsMagicName (name : JsString) : Prop where
  named : name.head?.any isNameStart = true
  word : ∀ codeUnit ∈ name, isWord codeUnit = true

namespace IsMagicName

theorem solid (isName : IsMagicName name) : IsSolid name :=
  fun codeUnit member => isWhiteSpace_of_isWord (isName.word codeUnit member)

theorem notMem {codeUnit : UInt16} (isName : IsMagicName name)
    (notWord : isWord codeUnit = false) : codeUnit ∉ name := by
  intro member
  rw [isName.word codeUnit member] at notWord
  cases notWord

theorem eq_cons (isName : IsMagicName name) :
    ∃ first others, name = first :: others ∧ first ≠ atSign := by
  cases nameEq : name with
  | nil =>
      have named := isName.named
      rw [nameEq] at named
      cases named
  | cons first others =>
      refine ⟨first, others, rfl, ?_⟩
      rintro rfl
      have noAt : atSign ∉ name := isName.notMem (by decide)
      rw [nameEq] at noAt
      exact noAt List.mem_cons_self

end IsMagicName

/-- Every name of the table is one that the expression matches. -/
theorem isMagicName_of_mem (known : name ∈ lineMagicNames) :
    IsMagicName name := by
  have allNamed : ∀ magic ∈ lineMagicNames,
      (magic.head?.any isNameStart && magic.all isWord) = true :=
    List.all_eq_true.mp (by decide)
  have both := allNamed name known
  rw [Bool.and_eq_true, List.all_eq_true] at both
  exact ⟨both.1, both.2⟩

/-! ### The head line -/

theorem trim_dropWhile (text : JsString) :
    trim (text.dropWhile isWhiteSpace) = trim text := by
  rw [trim_eq_trimBy, trim_eq_trimBy, trimBy, trimBy,
    List.dropWhile_idempotent]

theorem trim_lineMagicLine (isName : IsMagicName name) :
    trim (lineMagicLine name args) =
      js "@" ++ name ++ (unit ' ' :: args).rdropWhile isWhiteSpace := by
  have nonempty : js "@" ++ name ≠ [] := List.cons_ne_nil _ _
  have solid : IsSolid (js "@" ++ name) := by
    intro codeUnit member
    rcases List.mem_append.mp member with inAt | inName
    · rw [List.mem_singleton.mp inAt]
      decide
    · exact isName.solid codeUnit inName
  rw [lineMagicLine, ← List.append_assoc]
  exact trimBy_append_of_bare solid.bare nonempty _

/-- The expression takes the name up to the blank and the rest after it. -/
theorem lineMagic?_lineMagicLine (isName : IsMagicName name) :
    lineMagic? (lineMagicLine name args) =
      some (name, args.dropWhile isWhiteSpace) := by
  have afterAt : after? (js "@") (lineMagicLine name args) =
      some (name ++ unit ' ' :: args) := after?_eq_some_iff.mpr rfl
  have ends : isWord (unit ' ') = false := by decide
  have blank : isWhiteSpace (unit ' ') = true := by decide
  rw [lineMagic?, afterAt]
  simp only [Option.bind_eq_bind, Option.bind_some,
    run_append isName.word ends, isName.named, if_true, blank,
    List.dropWhile_cons_of_pos]

theorem knownCellMagic?_lineMagicLine (isName : IsMagicName name) :
    knownCellMagic? (lineMagicLine name args) = none := by
  obtain ⟨first, others, rfl, notAt⟩ := isName.eq_cons
  have noPrefix : after? (js "@@") (lineMagicLine (first :: others) args) =
      none := by
    rw [Option.eq_none_iff_forall_ne_some]
    intro rest isAfter
    rw [after?_eq_some_iff] at isAfter
    injection isAfter with _ isAfter
    injection isAfter with same _
    exact notAt same
  rw [knownCellMagic?, cellMagic?, noPrefix]
  rfl

/-- The only line of the cell decides by the forms of a plain head. -/
theorem parse_lineMagicLine (isName : IsMagicName name)
    (singleLine : newline ∉ args) :
    parseCellDirective (lineMagicLine name args) =
      plainDirective (lineMagicLine name args) := by
  have noNewline : newline ∉ lineMagicLine name args := by
    have inName : newline ∉ name := isName.notMem (by decide)
    have inMarks : newline ∉ js "@" ++ [unit ' '] := by decide
    simp only [lineMagicLine, List.mem_append, List.mem_cons,
      List.not_mem_nil, or_false, not_or] at inMarks ⊢
    exact ⟨inMarks.1, inName, inMarks.2, singleLine⟩
  have found : fromHead (lineMagicLine name args) =
      [lineMagicLine name args] := by
    apply fromHead_of_head (splitLines_line noNewline)
    rw [trim_lineMagicLine isName]
    exact List.cons_ne_nil _ _
  have notBreak : trim (lineMagicLine name args) ≠ js "@@break" := by
    rw [trim_lineMagicLine isName]
    obtain ⟨first, others, rfl, notAt⟩ := isName.eq_cons
    intro same
    injection same with _ same
    injection same with same _
    exact notAt same
  rw [parseCellDirective, found]
  simp only [if_neg notBreak, knownCellMagic?_lineMagicLine isName]

/-! ### Recognition -/

/-- The legacy forms yield no line magic. -/
theorem legacy_ne_lineMagic {magic text : JsString}
    {set unset : List JsString} :
    plainDirective.legacy head ≠ some (.lineMagic magic text set unset) := by
  intro parsed
  rw [plainDirective.legacy, Option.orElse_eq_or,
    Option.or_eq_some_iff] at parsed
  rcases parsed with spawned | ⟨_, continued⟩
  · simp only [legacySpawn?, Option.bind_eq_bind, Option.bind_eq_some_iff,
      Option.ite_none_right_eq_some] at spawned
    obtain ⟨_, _, _, _, ⟨_, _⟩, _, _, result⟩ := spawned
    cases result
  · simp only [legacyContinue?, Option.bind_eq_bind,
      Option.bind_eq_some_iff] at continued
    obtain ⟨_, _, result⟩ := continued
    split at result
    · split at result
      · cases result
      · cases result
    · cases result

theorem colon_mem_lineMagicLine (isName : IsMagicName name) :
    colon ∈ lineMagicLine name args ↔ colon ∈ args := by
  have inName : colon ∉ name := isName.notMem (by decide)
  have inMarks : colon ∉ js "@" ++ [unit ' '] := by decide
  simp only [List.mem_append, List.mem_singleton, not_or] at inMarks
  simp [lineMagicLine, inName, inMarks]

/-- Without a colon in the arguments, the directive of the branch. -/
theorem parse_of_noColon (known : name ∈ lineMagicNames)
    (singleLine : newline ∉ args) (noColon : colon ∉ args) :
    parseCellDirective (lineMagicLine name args) =
      some (lineMagicDirective name args) := by
  have isName := isMagicName_of_mem known
  have passes : name ∈ lineMagicNames ∧
      colon ∉ lineMagicLine name args :=
    ⟨known, mt (colon_mem_lineMagicLine isName).mp noColon⟩
  rw [parse_lineMagicLine isName singleLine, plainDirective,
    lineMagic?_lineMagicLine isName]
  simp only [if_pos passes, lineMagicDirective, trim_dropWhile]

/-- With one, only the legacy forms are tried. -/
theorem parse_of_colon (isName : IsMagicName name)
    (singleLine : newline ∉ args) (hasColon : colon ∈ args) :
    parseCellDirective (lineMagicLine name args) =
      plainDirective.legacy (lineMagicLine name args) := by
  have fails : ¬(name ∈ lineMagicNames ∧
      colon ∉ lineMagicLine name args) := fun both =>
    both.2 ((colon_mem_lineMagicLine isName).mpr hasColon)
  rw [parse_lineMagicLine isName singleLine, plainDirective,
    lineMagic?_lineMagicLine isName]
  simp only [if_neg fails]

/-- A known name with arguments on its line is a line magic if and only if no
colon stands in the arguments. -/
theorem recognisesLineMagic_iff (known : name ∈ lineMagicNames)
    (singleLine : newline ∉ args) :
    RecognisesLineMagic name args ↔ colon ∉ args := by
  constructor
  · rintro ⟨set, unset, parsed⟩ hasColon
    rw [parse_of_colon (isMagicName_of_mem known) singleLine hasColon] at parsed
    exact legacy_ne_lineMagic parsed
  · intro noColon
    exact ⟨_, _, parse_of_noColon known singleLine noColon⟩

theorem affinity_recognised :
    RecognisesLineMagic (js "affinity") (js " primary,cheap ") :=
  (recognisesLineMagic_iff (by decide) (by decide)).mpr (by decide)

/-- A note with a colon in it leaves the cell without a directive. -/
theorem note_notRecognised : ¬ ∀ name args, name ∈ lineMagicNames →
    newline ∉ args → trim args ≠ [] → args.head? ≠ some colon →
      RecognisesLineMagic name args := by
  intro recognisesAll
  obtain ⟨set, unset, parsed⟩ := recognisesAll (js "mark") (js "note: x")
    (by decide) (by decide) (by decide) (by decide)
  have isNull : parseCellDirective (lineMagicLine (js "mark") (js "note: x")) =
      none := by decide +kernel
  rw [isNull] at parsed
  cases parsed

end

end RtsNotebook.Notebook.CellDirective
