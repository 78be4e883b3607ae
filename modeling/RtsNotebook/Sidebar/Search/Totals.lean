import Mathlib.Algebra.Order.BigOperators.Group.List
import Mathlib.Algebra.Order.Ring.Nat
import RtsNotebook.Sidebar.Search.Scanning

/-!
# The total of a search

The total counts no more matches of a cell than are kept for it, and no match of
a cell without text.
-/

namespace RtsNotebook.Sidebar.Search

open RtsNotebook.Js RtsNotebook.Js.RegExp

section

variable {engine : Engine} {parse : JsString → Option Json}
  {cells : List NotebookCell} {selectedCellIndices : List Nat}
  {options : SearchOptions} {regex : Expression} {text : JsString}
  {progress : Progress}

/-- The texts of the cells in scope. -/
def searchedTexts (parse : JsString → Option Json) (cells : List NotebookCell)
    (selectedCellIndices : List Nat) (options : SearchOptions) :
    List JsString :=
  (cells.zipIdx.filter fun entry =>
    !isOutOfScope selectedCellIndices options entry.2).map fun entry =>
      getSearchableText parse entry.1 options.scope

/-- The number of matches in some texts. -/
def matchCount (regex : Expression) (texts : List JsString) : Nat :=
  (texts.map fun text => (allRanges regex text).length).sum

/-- The number of matches that the search counts in a text. -/
def countedMatches (regex : Expression) (text : JsString) : Nat :=
  if text = [] then 0 else min PER_CELL_MATCH_CAP (allRanges regex text).length

theorem length_findMatchesInText :
    (findMatchesInText regex text).length =
      min PER_CELL_MATCH_CAP (allRanges regex text).length := by
  rw [findMatchesInText, List.length_map, foundRanges_eq, List.length_take]

theorem total_searchCell (entry : NotebookCell × Nat) :
    (searchCell parse regex selectedCellIndices options progress entry).total =
      progress.total +
        if isOutOfScope selectedCellIndices options entry.2 = true then
          0
        else
          countedMatches regex
            (getSearchableText parse entry.1 options.scope) := by
  rw [searchCell, countedMatches]
  by_cases out : isOutOfScope selectedCellIndices options entry.2 = true
  · rw [if_pos out, if_pos out, Nat.add_zero]
  · rw [if_neg out, if_neg out]
    by_cases noText : getSearchableText parse entry.1 options.scope = []
    · rw [if_pos noText, if_pos noText, Nat.add_zero]
    · rw [if_neg noText, if_neg noText, ← length_findMatchesInText]

/-- The total is the sum of what is counted in each text. -/
theorem total_foldl_searchCell (entries : List (NotebookCell × Nat)) :
    (entries.foldl (searchCell parse regex selectedCellIndices options)
        progress).total =
      progress.total + (((entries.filter fun entry =>
        !isOutOfScope selectedCellIndices options entry.2).map fun entry =>
          getSearchableText parse entry.1 options.scope).map
            (countedMatches regex)).sum := by
  induction entries generalizing progress with
  | nil => rfl
  | cons entry rest inductionHypothesis =>
      rw [List.foldl_cons, inductionHypothesis, total_searchCell]
      cases out : isOutOfScope selectedCellIndices options entry.2 with
      | true =>
          rw [if_pos rfl, List.filter_cons_of_neg (by simp [out])]
          rfl
      | false =>
          rw [if_neg Bool.false_ne_true,
            List.filter_cons_of_pos (by simp [out])]
          rw [List.map_cons, List.map_cons, List.sum_cons, Nat.add_assoc]

theorem countedMatches_le : countedMatches regex text ≤
    (allRanges regex text).length := by
  rw [countedMatches]
  by_cases noText : text = []
  · rw [if_pos noText]
    exact Nat.zero_le _
  · rw [if_neg noText]
    exact Nat.min_le_right _ _

/-- The search counts all matches of a text with at most as many as are kept,
unless the text is empty and the expression matches it. -/
theorem countedMatches_eq_iff :
    countedMatches regex text = (allRanges regex text).length ↔
      (allRanges regex text).length ≤ PER_CELL_MATCH_CAP ∧
        (text = [] → allRanges regex text = []) := by
  rw [countedMatches]
  by_cases noText : text = []
  · rw [if_pos noText]
    constructor
    · intro noMatch
      rw [← noMatch]
      exact ⟨Nat.zero_le _, fun _ => List.eq_nil_of_length_eq_zero noMatch.symm⟩
    · rintro ⟨_, noMatch⟩
      rw [noMatch noText, List.length_nil]
  · rw [if_neg noText]
    constructor
    · intro atMost
      exact ⟨min_eq_right_iff.mp atMost, fun isEmpty => absurd isEmpty noText⟩
    · rintro ⟨atMost, _⟩
      exact Nat.min_eq_right atMost

/-- Sums of smaller numbers are equal only if all the numbers are. -/
theorem sum_eq_sum_iff {Item : Type} {first second : Item → Nat}
    (atMost : ∀ item, first item ≤ second item) (items : List Item) :
    (items.map first).sum = (items.map second).sum ↔
      ∀ item ∈ items, first item = second item := by
  induction items with
  | nil => simp
  | cons item rest inductionHypothesis =>
      have restAtMost : (rest.map first).sum ≤ (rest.map second).sum :=
        List.sum_le_sum fun other _ => atMost other
      have itemAtMost := atMost item
      rw [List.map_cons, List.map_cons, List.sum_cons, List.sum_cons,
        List.forall_mem_cons, ← inductionHypothesis]
      omega

/-- The expression matches the empty text, or it has no match there. -/
theorem allRanges_nil :
    allRanges regex [] = [] ↔ regex.matchAt [] 0 = none := by
  have noMatch : regex.exec [] 0 = none ↔ regex.matchAt [] 0 = none := by
    rw [Expression.exec_eq_none]
    constructor
    · exact fun absent => absent 0 (Nat.le_refl 0) (Nat.le_refl 0)
    · intro absent index _ inText
      rw [Nat.le_zero.mp inText]
      exact absent
  rw [← noMatch, allRanges]
  cases found : regex.exec [] 0 with
  | none => simp [scan_of_none found]
  | some range => simp [scan_of_some found]

/-- The total is the number of matches, and the message says whether fewer are
returned. -/
structure IsHonest (message : SearchResultsMessage) (count : Nat) : Prop where
  total : message.total = count
  truncated : message.truncated = true ↔ message.matchList.length < count

/-- The results are honest if and only if no searched text has more matches than
are kept for a cell, and the expression does not match the empty text where a
searched text is empty. -/
theorem isHonest_iff
    (built : buildSearchRegex engine options = .regex regex) :
    IsHonest
        (findMatches engine parse (some cells) selectedCellIndices options)
        (matchCount regex
          (searchedTexts parse cells selectedCellIndices options)) ↔
      ∀ text ∈ searchedTexts parse cells selectedCellIndices options,
        (allRanges regex text).length ≤ PER_CELL_MATCH_CAP ∧
          (text = [] → regex.matchAt [] 0 = none) := by
  have totalEq : (findMatches engine parse (some cells) selectedCellIndices
      options).total =
        ((searchedTexts parse cells selectedCellIndices options).map
          (countedMatches regex)).sum := by
    simp only [findMatches, built, total_foldl_searchCell, Nat.zero_add,
      searchedTexts]
  have truncatedIff : (findMatches engine parse (some cells)
      selectedCellIndices options).truncated = true ↔
        (findMatches engine parse (some cells) selectedCellIndices
          options).matchList.length <
        (findMatches engine parse (some cells) selectedCellIndices
          options).total := by
    simp only [findMatches, built, decide_eq_true_eq]
  have allCounted := sum_eq_sum_iff (@countedMatches_le regex)
    (searchedTexts parse cells selectedCellIndices options)
  rw [← totalEq] at allCounted
  constructor
  · intro honest text isSearched
    have counted := allCounted.mp honest.total text isSearched
    obtain ⟨atMost, noMatch⟩ := countedMatches_eq_iff.mp counted
    refine ⟨atMost, fun noText => ?_⟩
    rw [noText] at noMatch
    exact allRanges_nil.mp (noMatch rfl)
  · intro condition
    have total := allCounted.mpr fun text isSearched => by
      obtain ⟨atMost, noMatch⟩ := condition text isSearched
      refine countedMatches_eq_iff.mpr ⟨atMost, fun noText => ?_⟩
      rw [noText]
      exact allRanges_nil.mpr (noMatch noText)
    exact ⟨total, by rw [truncatedIff, total]; rfl⟩

end

def sourceCell (source : JsString) : NotebookCell where
  source := source
  uri := js "vscode-notebook-cell:nb#c1"
  metadata := none
  outputs := []

/-- The expression `a` -/
def letterA : Expression where
  pattern :=
    { alternatives := [.seq (.set (.single (unit 'a'))) .empty]
      groups := 0 }
  canonicalize := none

theorem letterA_built :
    buildSearchRegex plainEngine (inputSearch (js "a") false false) =
      .regex letterA := by
  rfl

/-- Two matches in a cell in front of one without text. -/
theorem twoMatches_isHonest :
    IsHonest
      (findMatches plainEngine (fun _ => none)
        (some [sourceCell (js "a.a"), sourceCell []]) []
        (inputSearch (js "a") false false))
      (matchCount letterA
        (searchedTexts (fun _ => none)
          [sourceCell (js "a.a"), sourceCell []] []
          (inputSearch (js "a") false false))) :=
  (isHonest_iff letterA_built).mpr (by decide +kernel)

/-- Of a cell with 251 matches one is not counted. -/
theorem manyMatches_not_isHonest :
    ¬ ∀ (engine : Engine) (parse : JsString → Option Json)
        (cells : List NotebookCell) (selectedCellIndices : List Nat)
        (options : SearchOptions) (regex : Expression),
      buildSearchRegex engine options = .regex regex →
        IsHonest
          (findMatches engine parse (some cells) selectedCellIndices options)
          (matchCount regex
            (searchedTexts parse cells selectedCellIndices options)) := by
  intro always
  have honest := always plainEngine (fun _ => none)
    [sourceCell (List.replicate 251 (unit 'a'))] []
    (inputSearch (js "a") false false) letterA letterA_built
  exact absurd honest.total (by decide +kernel)

end RtsNotebook.Sidebar.Search
