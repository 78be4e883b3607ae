import RtsNotebook.Js.RegExp.Guarded
import RtsNotebook.Sidebar.Search.Scanning

/-!
# Searching for whole words

A search for whole words puts boundaries around the pattern as text.  With
several alternatives the first one is guarded in front only, the last one behind
only, and the others not at all.
-/

namespace RtsNotebook.Sidebar.Search

open RtsNotebook.Js RtsNotebook.Js.RegExp

section

variable {engine : Engine} {options : SearchOptions} {pattern : Pattern}
  {text : JsString}

/-- The ranges of the matches that a search finds in a text. -/
def searchRanges (engine : Engine) (options : SearchOptions)
    (text : JsString) : List (Nat × Nat) :=
  match buildSearchRegex engine options with
  | .regex regex => foundRanges regex text
  | _ => []

/-- A range begins and ends at a word boundary. -/
def IsWholeWord (text : JsString) (range : Nat × Nat) : Prop :=
  isBoundary text range.1 = true ∧ isBoundary text range.2 = true

/-- What a query is matched against. -/
def searchInput (engine : Engine) (options : SearchOptions)
    (text : JsString) : Input where
  text := text
  canonicalize :=
    if !options.caseSensitive then some engine.canonicalize else none

/-- The place of the alternative of the query that supplies the match at an
index, with the end of the match. -/
def suppliedAt (engine : Engine) (options : SearchOptions) (pattern : Pattern)
    (text : JsString) (start : Nat) : Option (Nat × Nat) :=
  supplier (searchInput engine options text) pattern.alternatives
    { index := start, captures := List.replicate pattern.groups none }

/-- A match with the place of the alternative that supplies it. -/
structure SuppliedMatch where
  place : Nat
  start : Nat
  finish : Nat
  deriving DecidableEq

def SuppliedMatch.range (found : SuppliedMatch) : Nat × Nat :=
  (found.start, found.finish)

/-- The first match from an index on that an alternative supplies. -/
def nextSupplied (engine : Engine) (options : SearchOptions)
    (pattern : Pattern) (text : JsString) (lastIndex : Nat) :
    Option SuppliedMatch :=
  (List.range' lastIndex (text.length + 1 - lastIndex)).findSome? fun start =>
    (suppliedAt engine options pattern text start).map fun supplied =>
      { place := supplied.1, start := start, finish := supplied.2 }

/-- So many matches that the alternatives of a query supply, one behind the
other. -/
def suppliedMatches (engine : Engine) (options : SearchOptions)
    (pattern : Pattern) (text : JsString) : Nat → Nat → List SuppliedMatch
  | 0, _ => []
  | room + 1, lastIndex =>
      match nextSupplied engine options pattern text lastIndex with
      | none => []
      | some found =>
          found :: suppliedMatches engine options pattern text room
            (nextIndex found.range)

/-- Where there is a boundary even though the alternative that supplies the match
is not guarded there. -/
def IsBoundedAnyway (pattern : Pattern) (text : JsString)
    (found : SuppliedMatch) : Prop :=
  (found.place ≠ 0 → isBoundary text found.start = true) ∧
    (found.place + 1 ≠ pattern.alternatives.length →
      isBoundary text found.finish = true)

/-- The expression of a search for whole words matches what the alternatives
supply. -/
theorem exists_built (isRegex : options.regex = true)
    (wholeWord : options.wholeWord = true)
    (valid : parsePattern engine.identifierName options.query = some pattern)
    (nonempty : options.query ≠ []) :
    ∃ regex, buildSearchRegex engine options = .regex regex ∧
      ∀ text start, regex.matchAt text start =
        (suppliedAt engine options pattern text start).map Prod.snd := by
  obtain ⟨guarded, isGuarded, sameGroups, isMatches⟩ :=
    parsePattern_guarded valid
  refine ⟨⟨guarded, if !options.caseSensitive then some engine.canonicalize
    else none⟩, ?_, fun text start => ?_⟩
  · simp only [buildSearchRegex, if_neg nonempty, isRegex, wholeWord, if_true,
      Engine.compile, isGuarded, Option.map_some]
  · rw [Expression.matchAt, isMatches, sameGroups]
    exact head?_guardedMatches _

theorem exec_eq_nextSupplied {regex : Expression}
    (sameMatch : ∀ start, regex.matchAt text start =
      (suppliedAt engine options pattern text start).map Prod.snd)
    (lastIndex : Nat) :
    regex.exec text lastIndex =
      (nextSupplied engine options pattern text lastIndex).map
        SuppliedMatch.range := by
  rw [Expression.exec, nextSupplied, List.map_findSome?]
  congr 1
  funext start
  rw [sameMatch, Function.comp_apply, Option.map_map, Option.map_map]
  rfl

theorem scan_eq_suppliedMatches {regex : Expression}
    (sameMatch : ∀ start, regex.matchAt text start =
      (suppliedAt engine options pattern text start).map Prod.snd)
    (room lastIndex : Nat) :
    scan regex text room lastIndex =
      (suppliedMatches engine options pattern text room lastIndex).map
        SuppliedMatch.range := by
  induction room generalizing lastIndex with
  | zero => rfl
  | succ room inductionHypothesis =>
      have first := exec_eq_nextSupplied sameMatch lastIndex
      rw [suppliedMatches]
      cases supplied : nextSupplied engine options pattern text lastIndex with
      | none =>
          rw [supplied] at first
          exact scan_of_none first
      | some found =>
          rw [supplied] at first
          rw [scan_of_some first, inductionHypothesis, List.map_cons]

/-- The search for whole words is a scan for what the alternatives supply. -/
theorem searchRanges_eq (isRegex : options.regex = true)
    (wholeWord : options.wholeWord = true)
    (valid : parsePattern engine.identifierName options.query = some pattern)
    (nonempty : options.query ≠ []) :
    searchRanges engine options text =
      (suppliedMatches engine options pattern text PER_CELL_MATCH_CAP 0).map
        SuppliedMatch.range := by
  obtain ⟨regex, built, sameMatch⟩ :=
    exists_built isRegex wholeWord valid nonempty
  rw [searchRanges, built]
  exact scan_eq_suppliedMatches (sameMatch text) _ _

/-- A match has the boundaries of its alternative. -/
theorem boundaries_of_mem_suppliedMatches {room lastIndex : Nat}
    {found : SuppliedMatch}
    (isFound : found ∈
      suppliedMatches engine options pattern text room lastIndex) :
    found.place < pattern.alternatives.length ∧
      (found.place = 0 → isBoundary text found.start = true) ∧
        (found.place + 1 = pattern.alternatives.length →
          isBoundary text found.finish = true) := by
  induction room generalizing lastIndex with
  | zero => cases isFound
  | succ room inductionHypothesis =>
      rw [suppliedMatches] at isFound
      cases supplied : nextSupplied engine options pattern text lastIndex with
      | none =>
          rw [supplied] at isFound
          cases isFound
      | some first =>
          rw [supplied] at isFound
          rcases List.mem_cons.mp isFound with rfl | isLater
          · obtain ⟨start, _, isStart⟩ :=
              List.exists_of_findSome?_eq_some supplied
            obtain ⟨_, atStart, rfl⟩ := Option.map_eq_some_iff.mp isStart
            exact supplier_bounds atStart
          · exact inductionHypothesis isLater

theorem isWholeWord_iff_isBoundedAnyway {room lastIndex : Nat}
    {found : SuppliedMatch}
    (isFound : found ∈
      suppliedMatches engine options pattern text room lastIndex) :
    IsWholeWord text found.range ↔ IsBoundedAnyway pattern text found := by
  obtain ⟨_, front, behind⟩ := boundaries_of_mem_suppliedMatches isFound
  constructor
  · intro isWhole
    exact ⟨fun _ => isWhole.1, fun _ => isWhole.2⟩
  · intro bounded
    constructor
    · by_cases isFirst : found.place = 0
      · exact front isFirst
      · exact bounded.1 isFirst
    · by_cases isLast : found.place + 1 = pattern.alternatives.length
      · exact behind isLast
      · exact bounded.2 isLast

theorem isBoundedAnyway_of_single (single : pattern.alternatives.length = 1)
    {room lastIndex : Nat} {found : SuppliedMatch}
    (isFound : found ∈
      suppliedMatches engine options pattern text room lastIndex) :
    IsBoundedAnyway pattern text found := by
  obtain ⟨below, _, _⟩ := boundaries_of_mem_suppliedMatches isFound
  rw [IsBoundedAnyway, single]
  exact ⟨fun notFirst => absurd (by omega) notFirst,
    fun notLast => absurd (by omega) notLast⟩

/-- With one alternative every match is a whole word.  In general the matches are
whole words if and only if those from an alternative other than the first begin
at a boundary, and those from an alternative other than the last end at one. -/
theorem wholeWord_iff (isRegex : options.regex = true)
    (wholeWord : options.wholeWord = true)
    (valid : parsePattern engine.identifierName options.query =
      some pattern) :
    (pattern.alternatives.length = 1 → ∀ text,
      ∀ range ∈ searchRanges engine options text, IsWholeWord text range) ∧
    ∀ text,
      (∀ range ∈ searchRanges engine options text, IsWholeWord text range) ↔
        ∀ found ∈ suppliedMatches engine options pattern text
          PER_CELL_MATCH_CAP 0, IsBoundedAnyway pattern text found := by
  have whole (text : JsString) :
      (∀ range ∈ searchRanges engine options text, IsWholeWord text range) ↔
        ∀ found ∈ suppliedMatches engine options pattern text
          PER_CELL_MATCH_CAP 0, IsBoundedAnyway pattern text found := by
    by_cases noQuery : options.query = []
    · -- Nothing is searched for, and the empty pattern has one alternative.
      have noRanges : searchRanges engine options text = [] := by
        rw [searchRanges, buildSearchRegex, if_pos noQuery]
      have single : pattern.alternatives.length = 1 := by
        rw [noQuery] at valid
        cases valid
        rfl
      rw [noRanges]
      exact iff_of_true (by simp) fun found isFound =>
        isBoundedAnyway_of_single single isFound
    · rw [searchRanges_eq isRegex wholeWord valid noQuery, List.forall_mem_map]
      exact forall₂_congr fun found isFound =>
        isWholeWord_iff_isBoundedAnyway isFound
  refine ⟨fun single text => ?_, whole⟩
  rw [whole]
  exact fun found isFound => isBoundedAnyway_of_single single isFound

end

/-- The pattern of a word of three letters. -/
def catPattern : Pattern where
  alternatives :=
    [.seq (.set (.single (unit 'c'))) (.seq (.set (.single (unit 'a')))
      (.seq (.set (.single (unit 't'))) .empty))]
  groups := 0

theorem cat_isWholeWord :
    searchRanges plainEngine (inputSearch (js "cat") true true)
        (js "a cat sat") = [(2, 5)] ∧
      IsWholeWord (js "a cat sat") (2, 5) := by
  have found : searchRanges plainEngine (inputSearch (js "cat") true true)
      (js "a cat sat") = [(2, 5)] := by decide +kernel
  exact ⟨found, (@wholeWord_iff plainEngine (inputSearch (js "cat") true true)
    catPattern rfl rfl (by rfl)).1 rfl _ (2, 5)
      (by rw [found]; exact List.mem_singleton_self _)⟩

/-- Each of two words is found within a longer one. -/
theorem foobar_not_isWholeWord :
    ¬ ∀ (engine : Engine) (options : SearchOptions) (text : JsString),
      options.regex = true → options.wholeWord = true →
        (parsePattern engine.identifierName options.query).isSome = true →
          ∀ range ∈ searchRanges engine options text,
            IsWholeWord text range := by
  intro always
  have isWholeWord := always plainEngine
    (inputSearch (js "foo|bar") true true) (js "foobar") rfl rfl
    (by decide +kernel) (0, 3) (by decide +kernel)
  exact absurd isWholeWord.2 (by decide +kernel)

end RtsNotebook.Sidebar.Search
