import RtsNotebook.Library.LineEnds
import RtsNotebook.Library.Trimming
import RtsNotebook.Notebook.CellDirective

/-!
# What a parsed directive says about its text

The lines of the text as one text again, and for each regular expression that
the agent directives rest on the texts that it matches.
-/

namespace RtsNotebook.Notebook.CellDirective

open RtsNotebook.Js RtsNotebook.Library

/-! ### Lines -/

theorem join_cons (separator first : JsString) {rest : List JsString}
    (nonempty : rest ≠ []) :
    join separator (first :: rest) =
      first ++ separator ++ join separator rest := by
  cases rest with
  | nil => exact absurd rfl nonempty
  | cons second rest =>
      rw [join]
      exact nofun

theorem splitLinesFrom_ne_nil (begun text : JsString) :
    splitLinesFrom begun text ≠ [] := by
  fun_induction splitLinesFrom begun text with
  | case1 => exact List.cons_ne_nil _ _
  | case2 => exact List.cons_ne_nil _ _
  | case3 _ _ _ _ _ inductionHypothesis => exact inductionHypothesis
  | case4 _ _ _ _ _ inductionHypothesis => exact inductionHypothesis

theorem join_splitLinesFrom (begun text : JsString) :
    join [newline] (splitLinesFrom begun text) =
      begun.reverse ++ foldReturns carriageReturn newline text := by
  fun_induction splitLinesFrom begun text with
  | case1 begun => rw [join, foldReturns, List.append_nil]
  | case2 begun rest inductionHypothesis =>
      have notReturn : ¬(newline = carriageReturn ∧
          rest.head? = some newline) := fun both => absurd both.1 (by decide)
      rw [join_cons _ _ (splitLinesFrom_ne_nil [] rest), inductionHypothesis,
        foldReturns, if_neg notReturn, List.append_assoc]
      rfl
  | case3 begun codeUnit rest notNewline isReturn inductionHypothesis =>
      rw [inductionHypothesis, foldReturns, if_pos isReturn]
  | case4 begun codeUnit rest notNewline notReturn inductionHypothesis =>
      rw [inductionHypothesis, foldReturns, if_neg notReturn,
        List.reverse_cons, List.append_assoc, List.singleton_append]

theorem join_splitLines (text : JsString) :
    join [newline] (splitLines text) =
      foldReturns carriageReturn newline text := by
  rw [splitLines, join_splitLinesFrom, List.reverse_nil, List.nil_append]

/-- A line that is not the last one ends at the first newline, with the return
before it. -/
theorem splitLinesFrom_eq_cons {begun text head : JsString}
    {restLines : List JsString}
    (split : splitLinesFrom begun text = head :: restLines)
    (more : restLines ≠ []) :
    ∃ line tail rest, text = line ++ newline :: rest ∧ newline ∉ line ∧
      begun.reverse ++ line = head ++ tail ∧
      (∀ codeUnit ∈ tail, codeUnit = carriageReturn) ∧
      restLines = splitLines rest := by
  fun_induction splitLinesFrom begun text with
  | case1 begun =>
      injection split with _ isLast
      exact absurd isLast.symm more
  | case2 begun rest inductionHypothesis =>
      injection split with headEq restEq
      exact ⟨[], [], rest, rfl, List.not_mem_nil, by simp [headEq], nofun,
        restEq.symm⟩
  | case3 begun codeUnit rest notNewline isReturn inductionHypothesis =>
      obtain ⟨rfl, isHead⟩ := isReturn
      obtain ⟨others, rfl⟩ := List.head?_eq_some_iff.mp isHead
      rw [splitLinesFrom, if_pos rfl] at split
      injection split with headEq restEq
      exact ⟨[carriageReturn], [carriageReturn], others, rfl, by decide,
        by rw [headEq], by simp, restEq.symm⟩
  | case4 begun codeUnit rest notNewline notReturn inductionHypothesis =>
      obtain ⟨line, tail, others, restEq, noNewline, lineEq, tailIsReturn,
        restLinesEq⟩ := inductionHypothesis split
      refine ⟨codeUnit :: line, tail, others, by rw [restEq]; rfl, ?_, ?_,
        tailIsReturn, restLinesEq⟩
      · simp [Ne.symm notNewline, noNewline]
      · rw [← lineEq, List.reverse_cons, List.append_assoc]
        rfl

/-- The first line that is not blank, and the blank ones before it. -/
theorem fromHead_eq_cons {text head : JsString} {restLines : List JsString}
    (found : fromHead text = head :: restLines) :
    trim head ≠ [] ∧ ∃ blanks, splitLines text =
      blanks ++ head :: restLines ∧ ∀ line ∈ blanks, trim line = [] := by
  unfold fromHead at found
  have stops := List.head?_dropWhile_not (fun line => decide (trim line = []))
    (splitLines text)
  rw [found] at stops
  refine ⟨by simpa using stops,
    (splitLines text).takeWhile fun line => trim line = [], ?_, ?_⟩
  · rw [← found, List.takeWhile_append_dropWhile]
  · intro line member
    have held := List.mem_takeWhile_imp member
    simpa using held

theorem fromHead_of_head {text head : JsString} {restLines : List JsString}
    (split : splitLines text = head :: restLines) (notBlank : trim head ≠ []) :
    fromHead text = head :: restLines := by
  rw [fromHead, split, List.dropWhile_cons_of_neg (by simpa using notBlank)]

/-! ### Regular expressions -/

theorem after?_eq_some_iff {literal text rest : JsString} :
    after? literal text = some rest ↔ text = literal ++ rest := by
  unfold after?
  constructor
  · intro found
    split at found
    · rename_i isPrefix
      obtain ⟨others, rfl⟩ := List.isPrefixOf_iff_prefix.mp isPrefix
      rw [List.drop_left] at found
      rw [Option.some.inj found]
    · cases found
  · rintro rfl
    rw [if_pos (List.isPrefixOf_iff_prefix.mpr (List.prefix_append _ _)),
      List.drop_left]

theorem run_eq (holds : UInt16 → Bool) (text : JsString) :
    run holds text = (text.takeWhile holds, text.dropWhile holds) :=
  rfl

theorem cellMagic?_prefix {head name args : JsString}
    (matched : cellMagic? head = some (name, args)) :
    ∃ tail, head = js "@@" ++ name ++ tail := by
  unfold cellMagic? at matched
  rw [Option.bind_eq_bind, Option.bind_eq_some_iff] at matched
  obtain ⟨rest, isAfter, matched⟩ := matched
  rw [after?_eq_some_iff] at isAfter
  rw [run_eq] at matched
  dsimp only at matched
  rw [Option.ite_none_right_eq_some] at matched
  obtain ⟨_, found⟩ := matched
  injection found with found
  injection found with nameEq _
  exact ⟨rest.dropWhile isWord, by
    rw [isAfter, ← nameEq, List.append_assoc,
      List.takeWhile_append_dropWhile]⟩

/-- A run ends before the first unit that does not hold. -/
theorem run_append {holds : UInt16 → Bool} {word rest : JsString}
    {stop : UInt16} (allHold : ∀ codeUnit ∈ word, holds codeUnit = true)
    (stops : holds stop = false) :
    run holds (word ++ stop :: rest) = (word, stop :: rest) := by
  rw [run_eq, List.takeWhile_append_of_pos allHold,
    List.dropWhile_append_of_pos allHold,
    List.takeWhile_cons_of_neg (by simp [stops]), List.append_nil,
    List.dropWhile_cons_of_neg (by simp [stops])]

theorem run_quote {task rest : JsString} (noQuote : quote ∉ task) :
    run (fun codeUnit => codeUnit ≠ quote) (task ++ quote :: rest) =
      (task, quote :: rest) := by
  refine run_append (fun codeUnit member => ?_) (by simp)
  rw [decide_eq_true_eq]
  rintro rfl
  exact noQuote member

/-- The texts in front of the first quote are the same, and those behind it. -/
theorem eq_of_append_quote {before before' rest rest' : JsString}
    (noQuote : quote ∉ before) (noQuote' : quote ∉ before')
    (same : before ++ quote :: rest = before' ++ quote :: rest') :
    before = before' ∧ rest = rest' := by
  have runs := congrArg
    (run fun codeUnit => decide (codeUnit ≠ quote)) same
  rw [run_quote noQuote, run_quote noQuote'] at runs
  injection runs with beforeEq restEq
  injection restEq with _ restEq
  exact ⟨beforeEq, restEq⟩

theorem quotedTask?_eq_some_iff {text task rest : JsString} :
    quotedTask? text = some (task, rest) ↔
      quote ∉ task ∧ text = js "task:\"" ++ (task ++ quote :: rest) := by
  unfold quotedTask?
  rw [Option.bind_eq_bind, Option.bind_eq_some_iff]
  constructor
  · rintro ⟨opened, isAfter, matched⟩
    rw [after?_eq_some_iff] at isAfter
    have whole := List.takeWhile_append_dropWhile
      (p := fun codeUnit => decide (codeUnit ≠ quote)) (l := opened)
    simp only [run] at matched
    cases closing : opened.dropWhile fun codeUnit => codeUnit ≠ quote with
    | nil =>
        rw [closing] at matched
        cases matched
    | cons first others =>
        rw [closing] at matched whole
        injection matched with found
        injection found with taskEq restEq
        have stops := List.head?_dropWhile_not
          (fun codeUnit => decide (codeUnit ≠ quote)) opened
        rw [closing] at stops
        have firstEq : first = quote := by
          simpa using stops
        rw [taskEq, restEq, firstEq] at whole
        refine ⟨?_, by rw [isAfter, whole]⟩
        intro member
        rw [← taskEq] at member
        have held := List.mem_takeWhile_imp member
        simp at held
  · rintro ⟨noQuote, textEq⟩
    refine ⟨task ++ quote :: rest, after?_eq_some_iff.mpr textEq, ?_⟩
    rw [run_quote noQuote]

/-- A magic whose name does not begin as `break` is another one. -/
theorem magic_ne_break {first : UInt16} {rest : JsString}
    (different : first ≠ unit 'b') :
    unit '@' :: unit '@' :: first :: rest ≠ js "@@break" := by
  intro same
  injection same with _ same
  injection same with _ same
  injection same with same _
  exact different same

/-- A magic with a blank after its name. -/
theorem cellMagic?_spaced {name args : JsString}
    (named : name.head?.any isNameStart = true)
    (word : ∀ codeUnit ∈ name, isWord codeUnit = true) :
    cellMagic? (js "@@" ++ (name ++ unit ' ' :: args)) =
      if (args.dropWhile isWhiteSpace).any isLineTerminator then none
      else some (name, args.dropWhile isWhiteSpace) := by
  have afterAt : after? (js "@@") (js "@@" ++ (name ++ unit ' ' :: args)) =
      some (name ++ unit ' ' :: args) := after?_eq_some_iff.mpr rfl
  have blank : (unit ' ' :: args).dropWhile isWhiteSpace =
      args.dropWhile isWhiteSpace := List.dropWhile_cons_of_pos (by decide)
  have ends : isWord (unit ' ') = false := by decide
  rw [cellMagic?, afterAt]
  simp only [Option.bind_eq_bind, Option.bind_some, run_append word ends,
    blank, named]
  cases (args.dropWhile isWhiteSpace).any isLineTerminator with
  | true => rfl
  | false => rfl

/-! ### Words -/

/-- A text without white space. -/
def IsSolid (word : JsString) : Prop :=
  ∀ codeUnit ∈ word, isWhiteSpace codeUnit = false

namespace IsSolid

variable {word : JsString}

theorem notMem {codeUnit : UInt16} (solid : IsSolid word)
    (isSpace : isWhiteSpace codeUnit = true) : codeUnit ∉ word := by
  intro member
  rw [solid codeUnit member] at isSpace
  cases isSpace

theorem bare (solid : IsSolid word) : Bare isWhiteSpace word where
  head := fun codeUnit isHead => solid codeUnit (List.mem_of_mem_head? isHead)
  last := fun codeUnit isLast => solid codeUnit (List.mem_of_getLast? isLast)

theorem noTerminator (solid : IsSolid word) :
    word.any isLineTerminator = false := by
  rw [List.any_eq_false]
  intro codeUnit member isTerminator
  simp only [isLineTerminator, decide_eq_true_eq, List.mem_cons,
    List.not_mem_nil, or_false] at isTerminator
  rcases isTerminator with rfl | rfl | rfl | rfl <;>
    exact solid.notMem (by decide) member

/-- The whole word is found before white space. -/
theorem leadingWord? (solid : IsSolid word) (nonempty : word ≠ [])
    {rest : JsString} (stops : ∀ stop ∈ rest.head?, isWhiteSpace stop = true) :
    leadingWord? (word ++ rest) = some word := by
  have allPass : ∀ codeUnit ∈ word, (!isWhiteSpace codeUnit) = true := by
    intro codeUnit member
    rw [solid codeUnit member]
    rfl
  have whole : (word ++ rest).takeWhile
      (fun codeUnit => !isWhiteSpace codeUnit) = word := by
    rw [List.takeWhile_append_of_pos allPass]
    cases rest with
    | nil => rw [List.takeWhile_nil, List.append_nil]
    | cons stop rest =>
        rw [List.takeWhile_cons_of_neg (by simp [stops stop rfl]),
          List.append_nil]
  rw [CellDirective.leadingWord?, whole]
  obtain ⟨first, others, rfl⟩ := List.exists_cons_of_ne_nil nonempty
  rfl

end IsSolid

/-- The first quoted task of a text. -/
inductive FirstTask : JsString → JsString → Prop where
  | here {task rest : JsString} (noQuote : quote ∉ task) :
      FirstTask (js "task:\"" ++ (task ++ quote :: rest)) task
  | later {codeUnit : UInt16} {text task : JsString}
      (noMatch : quotedTask? (codeUnit :: text) = none)
      (found : FirstTask text task) :
      FirstTask (codeUnit :: text) task

theorem search_of_match
    {Found : Type} {matchAt : JsString → Option Found} {text : JsString}
    {found : Found} (matched : matchAt text = some found) :
    search matchAt text = some found := by
  cases text with
  | nil => exact matched
  | cons codeUnit text =>
      rw [search, matched]
      rfl

theorem firstTask_iff {text task : JsString} :
    FirstTask text task ↔
      ∃ rest, search quotedTask? text = some (task, rest) := by
  constructor
  · intro found
    induction found with
    | here noQuote =>
        rename_i task rest
        refine ⟨rest, ?_⟩
        have matched : quotedTask? (js "task:\"" ++ (task ++ quote :: rest)) =
            some (task, rest) :=
          quotedTask?_eq_some_iff.mpr ⟨noQuote, rfl⟩
        exact search_of_match matched
    | later noMatch found inductionHypothesis =>
        obtain ⟨rest, searched⟩ := inductionHypothesis
        exact ⟨rest, by rw [search, noMatch]; exact searched⟩
  · rintro ⟨rest, searched⟩
    induction text with
    | nil =>
        have matched := quotedTask?_eq_some_iff.mp searched
        exact matched.2 ▸ FirstTask.here matched.1
    | cons codeUnit text inductionHypothesis =>
        rw [search] at searched
        cases found : quotedTask? (codeUnit :: text) with
        | none =>
            rw [found] at searched
            exact FirstTask.later found (inductionHypothesis searched)
        | some result =>
            rw [found] at searched
            have matched := quotedTask?_eq_some_iff.mp
              (found.trans searched)
            exact matched.2 ▸ FirstTask.here matched.1

/-! ### Directives -/

/-- The branch of the parser that a canonical cell magic takes. -/
theorem parseCellDirective_of_isCellMagic
    {text : JsString} {directive : Directive}
    (parsed : parseCellDirective text = some directive)
    (canonical : IsCellMagic text) :
    ∃ head restLines magic args, fromHead text = head :: restLines ∧
      cellMagic? head = some (magic, args) ∧
      cellMagicDirective magic (trim args) restLines = some directive := by
  obtain ⟨head, restLines, found, known⟩ := canonical
  obtain ⟨⟨magic, args⟩, isKnown⟩ := Option.isSome_iff_exists.mp known
  have matched : cellMagic? head = some (magic, args) :=
    (Option.filter_eq_some_iff.mp isKnown).1
  refine ⟨head, restLines, magic, args, found, matched, ?_⟩
  unfold parseCellDirective at parsed
  rw [found] at parsed
  simp only [isKnown] at parsed
  split at parsed
  · cases parsed
  · exact parsed

theorem cellMagicDirective_eq_spawn
    {magic args agentId task : JsString} {endpoint : Option JsString}
    {restLines : List JsString}
    (parsed : cellMagicDirective magic args restLines =
      some (.spawn agentId task endpoint)) :
    magic = js "spawn" ∧ FirstTask args task := by
  unfold cellMagicDirective at parsed
  split at parsed
  · rename_i isSpawn
    simp only [Option.bind_eq_bind, Option.bind_eq_some_iff] at parsed
    obtain ⟨_, _, ⟨found, rest⟩, searched, result⟩ := parsed
    injection result with result
    injection result with _ taskEq _
    exact ⟨isSpawn, firstTask_iff.mpr ⟨rest, taskEq ▸ searched⟩⟩
  · split at parsed
    · simp only [Option.bind_eq_bind, Option.bind_eq_some_iff] at parsed
      obtain ⟨_, _, result⟩ := parsed
      split at result <;> cases result
    · cases parsed

theorem leadingWord?_ne_nil {text word : JsString}
    (found : leadingWord? text = some word) : word ≠ [] := by
  unfold leadingWord? at found
  split at found
  · cases found
  · rename_i nonempty
    injection found with wordEq
    rw [← wordEq]
    exact nonempty

theorem cellMagicDirective_eq_continue
    {magic args agentId body : JsString} {restLines : List JsString}
    (parsed : cellMagicDirective magic args restLines =
      some (.continue agentId body)) :
    magic = js "agent" ∧ agentId ≠ [] ∧
      body = trim (join [newline] restLines) ∧ body ≠ [] := by
  unfold cellMagicDirective at parsed
  split at parsed
  · simp only [Option.bind_eq_bind, Option.bind_eq_some_iff] at parsed
    obtain ⟨_, _, _, _, result⟩ := parsed
    cases result
  · split at parsed
    · rename_i isAgent
      simp only [Option.bind_eq_bind, Option.bind_eq_some_iff] at parsed
      obtain ⟨word, isWord, result⟩ := parsed
      split at result
      · rename_i nonempty
        injection result with result
        injection result with agentEq bodyEq
        exact ⟨isAgent, agentEq ▸ leadingWord?_ne_nil isWord, bodyEq.symm,
          bodyEq ▸ nonempty⟩
      · cases result
    · cases parsed

end RtsNotebook.Notebook.CellDirective
