import RtsNotebook.Js.RegExp.Locality
import RtsNotebook.Sidebar.Search.LiteralSearch
import RtsNotebook.Sidebar.Search.Totals

/-!
# Searching everything

The scope `all` puts the input, the outputs and the tool calls of a cell one
behind the other, with a line feed between them.  An expression that does not
see past a line feed finds there what it finds in each of them.
-/

namespace RtsNotebook.Sidebar.Search

open RtsNotebook.Js RtsNotebook.Js.RegExp

section

variable {regex : Expression} {text piece rest : JsString}
  {room index start : Nat} {range : Nat × Nat}

/-! ### Two texts with a line feed between them -/

theorem findSome?_congr {Item Value : Type} {first second : Item → Option Value}
    {items : List Item} (same : ∀ item ∈ items, first item = second item) :
    items.findSome? first = items.findSome? second := by
  induction items with
  | nil => rfl
  | cons item others inductionHypothesis =>
      rw [List.findSome?_cons, List.findSome?_cons,
        same item List.mem_cons_self, inductionHypothesis]
      exact fun other isOther => same other (List.mem_cons_of_mem _ isOther)

theorem matchAt_front (isLocal : regex.IsLocal)
    (inPiece : start ≤ piece.length) :
    regex.matchAt (piece ++ lineFeed :: rest) start =
      regex.matchAt piece start := by
  have bounded : Bounded [] (lineFeed :: rest) :=
    ⟨Or.inl rfl, Or.inr ⟨rest, rfl⟩⟩
  have within := Expression.matchAt_within isLocal bounded inPiece
  simpa using within

theorem matchAt_rest (isLocal : regex.IsLocal)
    (inRest : start ≤ rest.length) :
    regex.matchAt (piece ++ lineFeed :: rest) (piece.length + 1 + start) =
      (regex.matchAt rest start).map fun finish =>
        piece.length + 1 + finish := by
  have bounded : Bounded (piece ++ [lineFeed]) [] :=
    ⟨Or.inr ⟨piece, rfl⟩, Or.inl rfl⟩
  have within := Expression.matchAt_within isLocal bounded inRest
  rw [List.append_nil, List.append_assoc, List.length_append,
    List.length_singleton] at within
  exact within

/-- Behind the line feed the second text is searched. -/
theorem exec_rest (isLocal : regex.IsLocal) (index : Nat) :
    regex.exec (piece ++ lineFeed :: rest) (piece.length + 1 + index) =
      (regex.exec rest index).map (shiftRange (piece.length + 1)) := by
  have length : (piece ++ lineFeed :: rest).length + 1 -
      (piece.length + 1 + index) = rest.length + 1 - index := by
    rw [List.length_append, List.length_cons]
    omega
  rw [Expression.exec, Expression.exec, length, ← List.map_add_range',
    List.findSome?_map, List.map_findSome?]
  apply findSome?_congr
  intro start isStart
  rw [List.mem_range'_1] at isStart
  rw [Function.comp_apply, Function.comp_apply,
    matchAt_rest isLocal (by omega), Option.map_map, Option.map_map]
  rfl

/-- Before the line feed the first text is searched, and then the second. -/
theorem exec_front (isLocal : regex.IsLocal)
    (inPiece : index ≤ piece.length + 1) :
    regex.exec (piece ++ lineFeed :: rest) index =
      (regex.exec piece index).or
        (regex.exec (piece ++ lineFeed :: rest) (piece.length + 1)) := by
  have split : List.range' index
      ((piece ++ lineFeed :: rest).length + 1 - index) =
        List.range' index (piece.length + 1 - index) ++
          List.range' (piece.length + 1)
            ((piece ++ lineFeed :: rest).length + 1 - (piece.length + 1)) := by
    have joined := @List.range'_append_1 index (piece.length + 1 - index)
      ((piece ++ lineFeed :: rest).length + 1 - (piece.length + 1))
    rw [show index + (piece.length + 1 - index) = piece.length + 1 by omega]
      at joined
    rw [joined]
    congr 1
    rw [List.length_append, List.length_cons]
    omega
  rw [Expression.exec, split, List.findSome?_append]
  congr 1
  apply findSome?_congr
  intro start isStart
  rw [List.mem_range'_1] at isStart
  rw [matchAt_front isLocal (by omega)]

/-! ### Scanning -/

theorem nextIndex_shiftRange (offset : Nat) (range : Nat × Nat) :
    nextIndex (shiftRange offset range) = offset + nextIndex range := by
  simp only [nextIndex, shiftRange, Nat.add_left_cancel_iff]
  split
  · omega
  · rfl

theorem scan_rest (isLocal : regex.IsLocal) :
    scan regex (piece ++ lineFeed :: rest) room (piece.length + 1 + index) =
      (scan regex rest room index).map (shiftRange (piece.length + 1)) := by
  induction room generalizing index with
  | zero => rfl
  | succ room inductionHypothesis =>
      have moved : regex.exec (piece ++ lineFeed :: rest)
          (piece.length + 1 + index) = (regex.exec rest index).map
            (shiftRange (piece.length + 1)) := exec_rest isLocal index
      cases found : regex.exec rest index with
      | none =>
          rw [found] at moved
          rw [scan_of_none found, scan_of_none moved, List.map_nil]
      | some range =>
          rw [found, Option.map_some] at moved
          rw [scan_of_some found, scan_of_some moved, List.map_cons,
            nextIndex_shiftRange, inductionHypothesis]

/-- With enough room the scan finds the same. -/
theorem scan_of_enough {more : Nat}
    (enough : text.length + 1 - index ≤ room) (less : room ≤ more) :
    scan regex text room index = scan regex text more index := by
  rw [scan_eq_take less, List.take_of_length_le]
  exact Nat.le_trans length_scan_le enough

theorem scan_front (isLocal : regex.IsLocal)
    (inPiece : index ≤ piece.length + 1)
    (enough : (piece ++ lineFeed :: rest).length + 1 - index ≤ room) :
    scan regex (piece ++ lineFeed :: rest) room index =
      scan regex piece room index ++
        scan regex (piece ++ lineFeed :: rest) room (piece.length + 1) := by
  induction room generalizing index with
  | zero => rfl
  | succ room inductionHypothesis =>
      have searched : regex.exec (piece ++ lineFeed :: rest) index =
          (regex.exec piece index).or (regex.exec
            (piece ++ lineFeed :: rest) (piece.length + 1)) :=
        exec_front isLocal inPiece
      cases found : regex.exec piece index with
      | none =>
          rw [found, Option.none_or] at searched
          rw [scan_of_none found, List.nil_append, scan, scan, searched]
      | some range =>
          rw [found, Option.some_or] at searched
          have bounds := nextIndex_bounds found
          have nextInPiece : nextIndex range ≤ piece.length + 1 := by
            unfold nextIndex
            split
            · omega
            · omega
          have remaining : scan regex (piece ++ lineFeed :: rest) room
              (piece.length + 1) = scan regex (piece ++ lineFeed :: rest)
                (room + 1) (piece.length + 1) :=
            scan_of_enough (by omega) (Nat.le_succ room)
          rw [scan_of_some found, scan_of_some searched, List.cons_append,
            inductionHypothesis nextInPiece (by omega), remaining]

theorem scan_eq_allRanges (enough : text.length + 1 ≤ room) :
    scan regex text room 0 = allRanges regex text :=
  (scan_of_enough (Nat.le_refl _) enough).symm

/-- What is found in two texts with a line feed between them. -/
theorem allRanges_lines (isLocal : regex.IsLocal) :
    allRanges regex (piece ++ lineFeed :: rest) =
      allRanges regex piece ++
        (allRanges regex rest).map (shiftRange (piece.length + 1)) := by
  have length : (piece ++ lineFeed :: rest).length =
      piece.length + (rest.length + 1) := List.length_append
  have second : scan regex (piece ++ lineFeed :: rest)
      ((piece ++ lineFeed :: rest).length + 1) (piece.length + 1 + 0) =
        (scan regex rest ((piece ++ lineFeed :: rest).length + 1) 0).map
          (shiftRange (piece.length + 1)) := scan_rest isLocal
  rw [Nat.add_zero, scan_eq_allRanges (by omega)] at second
  rw [allRanges, scan_front isLocal (Nat.zero_le _) (Nat.sub_le _ _), second,
    scan_eq_allRanges (by omega)]

/-! ### Several texts -/

/-- The ranges that are found in some texts, where they stand when the texts
are joined. -/
def placedRanges (regex : Expression) : List JsString → List (Nat × Nat)
  | [] => []
  | [only] => allRanges regex only
  | piece :: rest =>
      allRanges regex piece ++
        (placedRanges regex rest).map (shiftRange (piece.length + 1))

theorem allRanges_join (isLocal : regex.IsLocal) {pieces : List JsString}
    (some : pieces ≠ []) :
    allRanges regex (join (js "\n") pieces) = placedRanges regex pieces := by
  induction pieces with
  | nil => exact absurd rfl some
  | cons piece rest inductionHypothesis =>
      cases rest with
      | nil => rfl
      | cons second others =>
          have feed : js "\n" = [lineFeed] := by decide
          have joined : join (js "\n") (piece :: second :: others) =
              piece ++ lineFeed :: join (js "\n") (second :: others) := by
            rw [join, feed, List.append_assoc]
            · rfl
            · exact fun equal => by cases equal
          rw [joined, allRanges_lines isLocal,
            inductionHypothesis (List.cons_ne_nil _ _)]
          rfl

theorem length_placedRanges (regex : Expression) (pieces : List JsString) :
    (placedRanges regex pieces).length = matchCount regex pieces := by
  induction pieces with
  | nil => rfl
  | cons piece rest inductionHypothesis =>
      rw [matchCount, List.map_cons, List.sum_cons, ← matchCount,
        ← inductionHypothesis]
      cases rest with
      | nil => rfl
      | cons second others =>
          rw [placedRanges, List.length_append, List.length_map]
          exact fun equal => by cases equal

end

/-! ### The parts of a cell -/

section

variable {engine : Engine} {options : SearchOptions} {regex : Expression}
  {cells : List NotebookCell} {selectedCellIndices : List Nat}

/-- The parts of a cell that have any text. -/
def cellParts (parse : JsString → Option Json) (cell : NotebookCell) :
    List JsString :=
  [getCellInputText cell, getCellOutputText cell,
    getCellToolCallText parse cell].filter fun text => text ≠ []

theorem countedMatches_of_text {text : JsString} (some : text ≠ []) :
    countedMatches regex text =
      min PER_CELL_MATCH_CAP (allRanges regex text).length :=
  if_neg some

/-- A text that is empty counts nothing. -/
theorem sum_countedMatches_filter (texts : List JsString) :
    ((texts.filter fun text => text ≠ []).map (countedMatches regex)).sum =
      (texts.map (countedMatches regex)).sum := by
  induction texts with
  | nil => rfl
  | cons text rest inductionHypothesis =>
      rw [List.map_cons, List.sum_cons, ← inductionHypothesis]
      by_cases isEmpty : text = []
      · rw [List.filter_cons_of_neg (by simp [isEmpty]), countedMatches,
          if_pos isEmpty, Nat.zero_add]
      · rw [List.filter_cons_of_pos (by simp [isEmpty]), List.map_cons,
          List.sum_cons]

/-- Cutting a sum leaves at most what cutting its terms leaves, and nothing is
cut off a sum that is small enough. -/
theorem min_matchCount (cap : Nat) (texts : List JsString) :
    min cap (matchCount regex texts) ≤
        (texts.map fun text =>
          min cap (allRanges regex text).length).sum ∧
      (matchCount regex texts ≤ cap →
        (texts.map fun text => min cap (allRanges regex text).length).sum =
          matchCount regex texts) := by
  induction texts with
  | nil => exact ⟨Nat.min_le_right _ _, fun _ => rfl⟩
  | cons text rest inductionHypothesis =>
      obtain ⟨atMost, same⟩ := inductionHypothesis
      have split : matchCount regex (text :: rest) =
          (allRanges regex text).length + matchCount regex rest := rfl
      rw [split, List.map_cons, List.sum_cons]
      constructor
      · omega
      · intro below
        rw [same (by omega)]
        omega

theorem join_ne_nil {pieces : List JsString} (some : pieces ≠ [])
    (texts : ∀ piece ∈ pieces, piece ≠ []) : join (js "\n") pieces ≠ [] := by
  cases pieces with
  | nil => exact absurd rfl some
  | cons piece rest =>
      have isText := texts piece List.mem_cons_self
      cases rest with
      | nil => exact isText
      | cons second others =>
          intro noText
          rw [join] at noText
          · simp [isText] at noText
          · exact fun equal => by cases equal

/-- What is counted in texts that are joined, and in each of them. -/
theorem countedMatches_join (isLocal : regex.IsLocal) {pieces : List JsString}
    (texts : ∀ piece ∈ pieces, piece ≠ []) :
    countedMatches regex (join (js "\n") pieces) ≤
        (pieces.map (countedMatches regex)).sum ∧
      ((allRanges regex (join (js "\n") pieces)).length ≤ PER_CELL_MATCH_CAP →
        countedMatches regex (join (js "\n") pieces) =
          (pieces.map (countedMatches regex)).sum) := by
  have counted : pieces.map (countedMatches regex) =
      pieces.map fun piece =>
        min PER_CELL_MATCH_CAP (allRanges regex piece).length :=
    List.map_congr_left fun piece isPiece =>
      countedMatches_of_text (texts piece isPiece)
  rw [counted]
  by_cases noPiece : pieces = []
  · rw [noPiece]
    exact ⟨Nat.zero_le _, fun _ => rfl⟩
  · have found : (allRanges regex (join (js "\n") pieces)).length =
        matchCount regex pieces := by
      rw [allRanges_join isLocal noPiece, length_placedRanges]
    obtain ⟨atMost, same⟩ := @min_matchCount regex PER_CELL_MATCH_CAP pieces
    rw [countedMatches_of_text (join_ne_nil noPiece texts), found]
    exact ⟨atMost, fun below => by
      rw [same below, Nat.min_eq_right below]⟩

/-- What is counted in everything that a cell has, and in its parts. -/
theorem countedMatches_all (isLocal : regex.IsLocal)
    (parse : JsString → Option Json) (cell : NotebookCell) :
    countedMatches regex (getSearchableText parse cell .all) ≤
        countedMatches regex (getCellInputText cell) +
          (countedMatches regex (getCellOutputText cell) +
            countedMatches regex (getCellToolCallText parse cell)) ∧
      ((allRanges regex (getSearchableText parse cell .all)).length ≤
          PER_CELL_MATCH_CAP →
        countedMatches regex (getSearchableText parse cell .all) =
          countedMatches regex (getCellInputText cell) +
            (countedMatches regex (getCellOutputText cell) +
              countedMatches regex (getCellToolCallText parse cell))) := by
  have joined : getSearchableText parse cell .all =
      join (js "\n") (cellParts parse cell) := rfl
  have texts : ∀ piece ∈ cellParts parse cell, piece ≠ [] :=
    fun piece isPiece => of_decide_eq_true (List.mem_filter.mp isPiece).2
  have sum : ((cellParts parse cell).map (countedMatches regex)).sum =
      countedMatches regex (getCellInputText cell) +
        (countedMatches regex (getCellOutputText cell) +
          countedMatches regex (getCellToolCallText parse cell)) := by
    rw [cellParts, sum_countedMatches_filter]
    simp only [List.map_cons, List.map_nil, List.sum_cons, List.sum_nil,
      Nat.add_zero]
  rw [joined, ← sum]
  exact countedMatches_join isLocal texts

/-! ### The totals -/

/-- The number of matches that the search of a scope reports. -/
def totalOf (engine : Engine) (parse : JsString → Option Json)
    (cells : List NotebookCell) (options : SearchOptions)
    (scope : SearchScope) : Nat :=
  (findMatches engine parse (some cells) []
    { options with scope := scope }).total

theorem totalOf_eq (built : buildSearchRegex engine options = .regex regex)
    (parse : JsString → Option Json) (cells : List NotebookCell)
    {scope : SearchScope} (everyCell : scope ≠ .selected) :
    totalOf engine parse cells options scope =
      (cells.map fun cell =>
        countedMatches regex (getSearchableText parse cell scope)).sum := by
  have sameRegex : buildSearchRegex engine { options with scope := scope } =
      .regex regex := built
  have inScope (index : Nat) :
      isOutOfScope [] { options with scope := scope } index = false := by
    rw [isOutOfScope, decide_eq_false everyCell, Bool.false_and]
  rw [totalOf, findMatches]
  simp only [sameRegex]
  rw [total_foldl_searchCell]
  simp only [inScope, Bool.not_false, List.filter_true, List.map_map,
    Nat.zero_add]
  have entries : cells.zipIdx.map (countedMatches regex ∘ fun entry =>
      getSearchableText parse entry.1 scope) =
        (cells.zipIdx.map Prod.fst).map fun cell =>
          countedMatches regex (getSearchableText parse cell scope) := by
    rw [List.map_map]
    rfl
  rw [entries, List.zipIdx_map_fst]

/-- An expression that does not see past a line feed, whatever it is built
from.  In a cell with any text it finds in everything what it finds in the
input, the outputs and the tool calls, one behind the other, and in the outputs
what it finds in each output item.  The total of a search of everything is at
most the sum of the totals of these three scopes, and the sum itself where no
cell has more matches than are kept for it. -/
theorem search_everything
    (built : buildSearchRegex engine options = .regex regex)
    (isLocal : regex.IsLocal) (parse : JsString → Option Json) :
    (∀ cell, cellParts parse cell ≠ [] →
      allRanges regex (getSearchableText parse cell .all) =
        placedRanges regex (cellParts parse cell)) ∧
    (∀ cell, outputItems cell ≠ [] →
      allRanges regex (getSearchableText parse cell .outputs) =
        placedRanges regex ((outputItems cell).map decodeItem)) ∧
    ∀ cells : List NotebookCell,
      totalOf engine parse cells options .all ≤
        totalOf engine parse cells options .inputs +
          (totalOf engine parse cells options .outputs +
            totalOf engine parse cells options .toolCalls) ∧
      ((∀ cell ∈ cells, (allRanges regex
          (getSearchableText parse cell .all)).length ≤ PER_CELL_MATCH_CAP) →
        totalOf engine parse cells options .all =
          totalOf engine parse cells options .inputs +
            (totalOf engine parse cells options .outputs +
              totalOf engine parse cells options .toolCalls)) := by
  refine ⟨fun cell some => allRanges_join isLocal some,
    fun cell some => allRanges_join isLocal ?_, fun cells => ?_⟩
  · exact fun none => some (List.map_eq_nil_iff.mp none)
  rw [totalOf_eq built parse cells (by decide),
    totalOf_eq built parse cells (by decide),
    totalOf_eq built parse cells (by decide),
    totalOf_eq built parse cells (by decide)]
  induction cells with
  | nil => exact ⟨Nat.le_refl _, fun _ => rfl⟩
  | cons cell rest inductionHypothesis =>
      obtain ⟨atMost, same⟩ := inductionHypothesis
      obtain ⟨cellAtMost, cellSame⟩ := countedMatches_all isLocal parse cell
      simp only [List.map_cons, List.sum_cons]
      simp only [getSearchableText] at atMost same cellAtMost cellSame ⊢
      constructor
      · omega
      · intro few
        have restFew := same fun other isOther =>
          few other (List.mem_cons_of_mem _ isOther)
        have cellFew := cellSame (few cell List.mem_cons_self)
        omega

end

/-! ### Literal queries -/

/-- A query that stands for itself does not see past a line feed unless it has
one. -/
theorem isLocal_literalExpression {query : JsString}
    (noFeed : lineFeed ∉ query) : (literalExpression query).IsLocal := by
  have isLocal : (literalNode query).isLocal none = true := by
    induction query with
    | nil => rfl
    | cons codeUnit rest inductionHypothesis =>
        have different : lineFeed ≠ codeUnit :=
          fun same => noFeed (same ▸ List.mem_cons_self)
        have restLocal := inductionHypothesis
          fun isMember => noFeed (List.mem_cons_of_mem _ isMember)
        have unfolded : literalNode (codeUnit :: rest) =
            .seq (.set (.single codeUnit)) (literalNode rest) := rfl
        rw [unfolded, Node.isLocal, restLocal, Node.isLocal, holds_single,
          decide_eq_false different]
        rfl
  exact isLocal

/-- A cell with a name in its input and in an output. -/
def namedCell : NotebookCell where
  source := js "print(a.b)"
  uri := js "cell:1"
  metadata := none
  outputs :=
    [{ items :=
        [{ mime := js "text/plain"
           data := [0x61, 0x2E, 0x62] }]
       metadata := .object [] }]

theorem namedCell_searched :
    totalOf plainEngine (fun _ => none) [namedCell]
        (inputSearch (js "a.b") false false) .all =
      totalOf plainEngine (fun _ => none) [namedCell]
          (inputSearch (js "a.b") false false) .inputs +
        (totalOf plainEngine (fun _ => none) [namedCell]
            (inputSearch (js "a.b") false false) .outputs +
          totalOf plainEngine (fun _ => none) [namedCell]
            (inputSearch (js "a.b") false false) .toolCalls) :=
  ((@search_everything plainEngine (inputSearch (js "a.b") false false)
    (literalExpression (js "a.b")) (by rfl)
    (isLocal_literalExpression (by decide +kernel))
    fun _ => none).2.2 [namedCell]).2 (by decide +kernel)

end RtsNotebook.Sidebar.Search
