import RtsNotebook.Js.RegExp.Literals
import RtsNotebook.Sidebar.Search.Scanning

/-!
# Searching for a text

An escaped query is a pattern of its own characters, so that the scan finds its
occurrences from the left.
-/

namespace RtsNotebook.Sidebar.Search

open RtsNotebook.Js RtsNotebook.Js.RegExp RtsNotebook.Library

section

variable {engine : Engine} {rules : Rules} {codeUnit : UInt16}
  {query text rest : JsString} {room lastIndex : Nat}
  {ranges : List (Nat × Nat)}

/-! ### The escaped query -/

/-- The special characters of a pattern. -/
def metaUnits : List UInt16 :=
  [unit '.', unit '*', unit '+', unit '?', unit '^', unit '$', unit '\x7b',
    unit '\x7d', unit '(', unit ')', unit '|', unit '[', unit ']', unit '\\']

theorem isMeta_iff : isMeta codeUnit = true ↔ codeUnit ∈ metaUnits := by
  have same : js ".*+?^$\x7b\x7d()|[]\\" = metaUnits := by decide +kernel
  rw [isMeta, decide_eq_true_eq, same]

/-- An escaped special character stands for itself. -/
theorem nextToken_escaped (special : isMeta codeUnit = true) :
    nextToken rules (unit '\\' :: codeUnit :: rest) =
      some (.set (.single codeUnit), rest) := by
  rw [isMeta_iff] at special
  simp only [metaUnits, List.mem_cons, List.not_mem_nil, or_false] at special
  rcases special with rfl | rfl | rfl | rfl | rfl | rfl | rfl | rfl | rfl | rfl |
    rfl | rfl | rfl | rfl
  all_goals rfl

/-- So does every other character. -/
theorem nextToken_plain (plain : ¬ isMeta codeUnit = true) :
    nextToken rules (codeUnit :: rest) =
      some (.set (.single codeUnit), rest) := by
  rw [isMeta_iff] at plain
  simp only [metaUnits, List.mem_cons, List.not_mem_nil, or_false, not_or]
    at plain
  have isToken : tokenFrom rules codeUnit =
      pure (.set (.single codeUnit)) := by
    simp only [tokenFrom, plain, if_false]
  rw [nextToken, Scanner.bind_apply]
  change tokenFrom rules codeUnit rest = _
  rw [isToken]
  rfl

/-- The tokens of an escaped query are its characters. -/
theorem all_nextToken_escape :
    Scanner.all (nextToken rules) (escapeRegexLiterals query).length
      (escapeRegexLiterals query) = some (literalTokens query) := by
  induction query with
  | nil => rfl
  | cons codeUnit rest inductionHypothesis =>
      rw [escapeRegexLiterals, List.flatMap_cons]
      change Scanner.all (nextToken rules)
        ((if isMeta codeUnit then [unit '\\', codeUnit] else [codeUnit]) ++
          escapeRegexLiterals rest).length
        ((if isMeta codeUnit then [unit '\\', codeUnit] else [codeUnit]) ++
          escapeRegexLiterals rest) = _
      by_cases special : isMeta codeUnit = true
      · rw [if_pos special]
        have more := Scanner.all_of_le
          (Nat.le_add_right (escapeRegexLiterals rest).length 1)
          inductionHypothesis
        simp only [List.cons_append, List.nil_append, List.length_cons,
          Scanner.all, nextToken_escaped special, Option.bind_some, more]
        rfl
      · rw [if_neg special]
        simp only [List.cons_append, List.nil_append, List.length_cons,
          Scanner.all, nextToken_plain special, Option.bind_some,
          inductionHypothesis]
        rfl

/-- The pattern of an escaped query is the query itself. -/
theorem parsePattern_escape (identifierName : JsString → Option JsString) :
    parsePattern identifierName (escapeRegexLiterals query) =
      some (literalPattern query) := by
  have isTokens : tokensOf identifierName (escapeRegexLiterals query) =
      some (literalTokens query) := by
    simp only [tokensOf, tokensWith, all_nextToken_escape, Option.bind_eq_bind,
      Option.bind_some]
  have isPattern := @parseTokens?_literalTokens query
  obtain ⟨output, isOutput, same⟩ := Option.map_eq_some_iff.mp isPattern
  simp only [parsePattern, isTokens, Option.bind_eq_bind, Option.bind_some,
    isOutput]
  exact congrArg some same

/-! ### Occurrences -/

/-- The query stands in the text at an index. -/
def OccursAt (query text : JsString) (index : Nat) : Prop :=
  query <+: text.drop index

/-- The ranges of the occurrences of a query from an index on, always the first
one that does not overlap the one before. -/
inductive LeftmostOccurrences (query text : JsString) :
    Nat → List (Nat × Nat) → Prop where
  | none {first : Nat} (absent : ∀ index, first ≤ index →
      ¬ OccursAt query text index) : LeftmostOccurrences query text first []
  | cons {first start : Nat} {ranges : List (Nat × Nat)}
      (atLeast : first ≤ start) (occurs : OccursAt query text start)
      (leftmost : ∀ index, first ≤ index → index < start →
        ¬ OccursAt query text index)
      (others : LeftmostOccurrences query text (start + query.length) ranges) :
      LeftmostOccurrences query text first
        ((start, start + query.length) :: ranges)

/-- The expression of a query that stands for itself. -/
def literalExpression (query : JsString) : Expression where
  pattern := literalPattern query
  canonicalize := none

theorem index_le_of_occursAt {index : Nat} (nonempty : query ≠ [])
    (occurs : OccursAt query text index) :
    index + query.length ≤ text.length := by
  have atMost := occurs.length_le
  have positive := List.length_pos_iff.mpr nonempty
  rw [List.length_drop] at atMost
  omega

theorem matchAt_of_occursAt {index : Nat}
    (occurs : OccursAt query text index) :
    (literalExpression query).matchAt text index =
      some (index + query.length) :=
  matchAt_literal.trans (if_pos occurs)

theorem matchAt_of_not_occursAt {index : Nat}
    (absent : ¬ OccursAt query text index) :
    (literalExpression query).matchAt text index = none :=
  matchAt_literal.trans (if_neg absent)

/-- The matches of a query are its occurrences. -/
theorem leftmostOccurrences_scan (nonempty : query ≠ [])
    (enough : text.length + 1 - lastIndex ≤ room) :
    LeftmostOccurrences query text lastIndex
      (scan (literalExpression query) text room lastIndex) := by
  induction room generalizing lastIndex with
  | zero =>
      refine .none fun index atLeast occurs => ?_
      have inText := index_le_of_occursAt nonempty occurs
      omega
  | succ room inductionHypothesis =>
      cases found : (literalExpression query).exec text lastIndex with
      | none =>
          rw [scan_of_none found]
          refine .none fun index atLeast occurs => ?_
          have inText := index_le_of_occursAt nonempty occurs
          have noMatch := Expression.exec_eq_none.mp found index atLeast
            (by omega)
          rw [matchAt_of_occursAt occurs] at noMatch
          cases noMatch
      | some range =>
          obtain ⟨start, finish⟩ := range
          obtain ⟨atLeast, _, isMatch, isFirst⟩ :=
            Expression.exec_eq_some.mp found
          by_cases occurs : OccursAt query text start
          · rw [matchAt_of_occursAt occurs] at isMatch
            cases isMatch
            have positive := List.length_pos_iff.mpr nonempty
            have goesOn : nextIndex (start, start + query.length) =
                start + query.length := if_neg (by omega)
            rw [scan_of_some found, goesOn]
            refine .cons atLeast occurs ?_ (inductionHypothesis (by omega))
            intro index fromLast below alsoOccurs
            have noMatch := isFirst index fromLast below
            rw [matchAt_of_occursAt alsoOccurs] at noMatch
            cases noMatch
          · rw [matchAt_of_not_occursAt occurs] at isMatch
            cases isMatch

/-! ### The search -/

/-- The rounds of a scan without a bound on their number. -/
inductive ScansTo (regex : Expression) (text : JsString) :
    Nat → List (Nat × Nat) → Prop where
  | ends {lastIndex : Nat} (noMatch : regex.exec text lastIndex = none) :
      ScansTo regex text lastIndex []
  | goesOn {lastIndex : Nat} {range : Nat × Nat} {ranges : List (Nat × Nat)}
      (isMatch : regex.exec text lastIndex = some range)
      (others : ScansTo regex text (nextIndex range) ranges) :
      ScansTo regex text lastIndex (range :: ranges)

theorem scansTo_scan {regex : Expression}
    (enough : text.length + 1 - lastIndex ≤ room) :
    ScansTo regex text lastIndex (scan regex text room lastIndex) := by
  induction room generalizing lastIndex with
  | zero =>
      refine .ends (Expression.exec_eq_none.mpr fun index atLeast inText => ?_)
      omega
  | succ room inductionHypothesis =>
      cases found : regex.exec text lastIndex with
      | none =>
          rw [scan_of_none found]
          exact .ends found
      | some range =>
          have bounds := nextIndex_bounds found
          rw [scan_of_some found]
          exact .goesOn found (inductionHypothesis (by omega))

/-- A search for a text with its case finds the first 250 occurrences from the
left that do not overlap.  The scan for any expression ends, and its matches
begin one behind the other. -/
theorem literalSearch_exact (engine : Engine) :
    (∀ options : SearchOptions, options.query ≠ [] →
      options.regex = false → options.caseSensitive = true →
        options.wholeWord = false →
          ∃ regex, buildSearchRegex engine options = .regex regex ∧
            ∀ text, ∃ ranges,
              LeftmostOccurrences options.query text 0 ranges ∧
                foundRanges regex text = ranges.take 250) ∧
    ∀ (regex : Expression) (text : JsString),
      (∃ ranges, ScansTo regex text 0 ranges ∧
        foundRanges regex text = ranges.take 250) ∧
      (foundRanges regex text).Pairwise
        fun first second => first.1 < second.1 := by
  constructor
  · intro options nonempty literal sensitive anywhere
    refine ⟨literalExpression options.query, ?_, fun text =>
      ⟨allRanges (literalExpression options.query) text,
        leftmostOccurrences_scan nonempty (Nat.le_refl _), foundRanges_eq⟩⟩
    simp only [buildSearchRegex, if_neg nonempty, literal, anywhere, sensitive,
      Bool.false_eq_true, if_false, Engine.compile, parsePattern_escape]
    rfl
  · intro regex text
    exact ⟨⟨allRanges regex text, scansTo_scan (Nat.le_refl _), foundRanges_eq⟩,
      pairwise_scan.imp And.left⟩

/-- A query with a dot finds the dot alone. -/
theorem dotted_found :
    ∃ regex, buildSearchRegex plainEngine (inputSearch (js "a.b") false false) =
        .regex regex ∧
      ∀ text, ∃ ranges, LeftmostOccurrences (js "a.b") text 0 ranges ∧
        foundRanges regex text = ranges.take 250 :=
  (literalSearch_exact plainEngine).1 (inputSearch (js "a.b") false false)
    (by decide +kernel) rfl rfl rfl

end

end RtsNotebook.Sidebar.Search
