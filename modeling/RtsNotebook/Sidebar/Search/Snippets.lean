import RtsNotebook.Sidebar.Search.MatchFinder

/-!
# The highlighted part of a snippet

The offsets of a snippet are right where the text of the match is found again
near its old offset, or where the white space in front of it was not shortened.
-/

namespace RtsNotebook.Sidebar.Search

open RtsNotebook.Js RtsNotebook.Library

section

variable {text sought snippet : JsString} {position index : Nat}
  {matchStart matchEnd : Nat}

/-! ### Searching a string -/

/-- `indexOf` finds the first occurrence from a position on. -/
theorem indexOf_eq_some (found : indexOf text sought position = some index) :
    index + sought.length ≤ text.length ∧
      slice text index (index + sought.length) = sought := by
  have isPrefix := List.find?_some found
  have inRange := List.mem_of_find?_eq_some found
  rw [List.isPrefixOf_iff_prefix] at isPrefix
  rw [List.mem_range'_1] at inRange
  have atMost := isPrefix.length_le
  rw [List.length_drop] at atMost
  refine ⟨by omega, ?_⟩
  rw [slice, Nat.add_sub_cancel_left]
  exact (List.prefix_iff_eq_take.mp isPrefix).symm

theorem indexOf_isSome :
    (indexOf text sought position).isSome = true ↔
      ∃ index, position ≤ index ∧ sought <+: text.drop index := by
  rw [indexOf, List.find?_isSome]
  constructor
  · rintro ⟨index, inRange, isPrefix⟩
    rw [List.mem_range'_1] at inRange
    rw [List.isPrefixOf_iff_prefix] at isPrefix
    by_cases inText : position ≤ text.length
    · exact ⟨index, by omega, isPrefix⟩
    · -- Behind the end of the text only the empty string is found.
      rw [List.drop_eq_nil_of_le (by omega)] at isPrefix
      refine ⟨position, Nat.le_refl _, ?_⟩
      rw [List.prefix_nil.mp isPrefix]
      exact List.nil_prefix
  · rintro ⟨index, atLeast, isPrefix⟩
    by_cases inText : index ≤ text.length
    · refine ⟨index, List.mem_range'_1.mpr (by omega), ?_⟩
      exact List.isPrefixOf_iff_prefix.mpr isPrefix
    · rw [List.drop_eq_nil_of_le (by omega)] at isPrefix
      refine ⟨text.length, List.mem_range'_1.mpr (by omega), ?_⟩
      rw [List.isPrefixOf_iff_prefix, List.prefix_nil.mp isPrefix]
      exact List.nil_prefix

/-! ### One line -/

/-- A text without line breaks, tabs and repeated white space. -/
structure OnOneLine (text : JsString) : Prop where
  breaks : HasShortRuns isBreak 1 text
  spaces : HasShortRuns isWhiteSpace 2 text

theorem OnOneLine.of_part {part : JsString} (onOneLine : OnOneLine text)
    (isPart : part <:+: text) : OnOneLine part where
  breaks := onOneLine.breaks.of_part isPart
  spaces := onOneLine.spaces.of_part isPart

theorem OnOneLine.compress_eq (onOneLine : OnOneLine text) :
    compress text = text := by
  rw [compress, collapse_eq_self onOneLine.breaks,
    collapse_eq_self onOneLine.spaces]

theorem onOneLine_compress (text : JsString) : OnOneLine (compress text) where
  breaks := by
    have isSpace : isBreak (unit ' ') = false := by decide
    have noBreaks := hasShortRuns_one_iff.mp
      (@hasShortRuns_collapse _ isBreak _ (unit ' ') Nat.one_pos
        (fun held => by rw [isSpace] at held; cases held) text)
    refine hasShortRuns_one_iff.mpr fun codeUnit isUnit => ?_
    rcases mem_collapse isUnit with rfl | inText
    · exact isSpace
    · exact noBreaks codeUnit inText
  spaces := hasShortRuns_collapse Nat.two_pos (fun _ => Nat.le_refl 2) _

theorem length_compress_le (text : JsString) :
    (compress text).length ≤ text.length :=
  Nat.le_trans (length_collapse_le Nat.two_pos) (length_collapse_le Nat.one_pos)

/-! ### The highlighted part -/

/-- The snippet around a match. -/
def windowOf (text : JsString) (matchStart matchEnd : Nat) : JsString :=
  compress (slice text (matchStart - SNIPPET_HALF_WIDTH)
    (min text.length (matchEnd + SNIPPET_HALF_WIDTH)))

/-- The offset of a match in the text that the snippet is made from. -/
def offsetOf (matchStart : Nat) : Nat :=
  matchStart - (matchStart - SNIPPET_HALF_WIDTH)

theorem extractSnippet_eq (text : JsString) (matchStart matchEnd : Nat) :
    extractSnippet text matchStart matchEnd =
      match indexOf (windowOf text matchStart matchEnd)
          (slice text matchStart matchEnd) (offsetOf matchStart - 4) with
      | some index =>
          { snippet := windowOf text matchStart matchEnd
            matchStart := index
            matchEnd := index + (slice text matchStart matchEnd).length }
      | none =>
          { snippet := windowOf text matchStart matchEnd
            matchStart := offsetOf matchStart
            matchEnd := min (windowOf text matchStart matchEnd).length
              (offsetOf matchStart + (matchEnd - matchStart)) } := by
  unfold extractSnippet windowOf offsetOf
  rfl

/-- The offsets of a snippet are in order and within it, and the matched text
stands between them, compressed as the snippet is. -/
structure Highlights (text : JsString) (matchStart matchEnd : Nat)
    (raw : RawMatch) : Prop where
  ordered : raw.matchStart ≤ raw.matchEnd
  inSnippet : raw.matchEnd ≤ raw.snippet.length
  isMatch : slice raw.snippet raw.matchStart raw.matchEnd =
    compress (slice text matchStart matchEnd)

/-- The matched text stands in the snippet as it is, at most four code units
before its offset or behind that. -/
def StandsNearby (text : JsString) (matchStart matchEnd : Nat) : Prop :=
  ∃ index, offsetOf matchStart - 4 ≤ index ∧
    slice text matchStart matchEnd <+:
      (windowOf text matchStart matchEnd).drop index

/-- The compressed match stands at its offset, and nothing follows it if it got
shorter. -/
def StaysInPlace (text : JsString) (matchStart matchEnd : Nat) : Prop :=
  ∃ before after, windowOf text matchStart matchEnd =
      before ++ (compress (slice text matchStart matchEnd) ++ after) ∧
    before.length = offsetOf matchStart ∧
      ((compress (slice text matchStart matchEnd)).length =
        matchEnd - matchStart ∨ after = [])

/-- The offsets that are found by searching are right. -/
theorem highlights_of_found
    (found : indexOf (windowOf text matchStart matchEnd)
      (slice text matchStart matchEnd) (offsetOf matchStart - 4) =
        some index) :
    Highlights text matchStart matchEnd
      (extractSnippet text matchStart matchEnd) := by
  obtain ⟨inSnippet, isSlice⟩ := indexOf_eq_some found
  have isPart : slice text matchStart matchEnd <:+:
      windowOf text matchStart matchEnd := by
    rw [← isSlice]
    exact (List.take_prefix _ _).isInfix.trans (List.drop_suffix _ _).isInfix
  have same := ((onOneLine_compress _).of_part isPart).compress_eq
  rw [extractSnippet_eq, found]
  exact ⟨Nat.le_add_right _ _, inSnippet, isSlice.trans same.symm⟩

/-- A slice that is cut at the end of the text. -/
theorem slice_min (offset count : Nat) :
    slice text offset (min text.length (offset + count)) =
      (text.drop offset).take count := by
  rw [slice, List.take_eq_take_iff, List.length_drop]
  omega

/-- The offsets of the text itself are right where the match stays in place. -/
theorem highlights_of_absent
    (absent : indexOf (windowOf text matchStart matchEnd)
      (slice text matchStart matchEnd) (offsetOf matchStart - 4) = none) :
    Highlights text matchStart matchEnd
        (extractSnippet text matchStart matchEnd) ↔
      StaysInPlace text matchStart matchEnd := by
  have notLonger : (compress (slice text matchStart matchEnd)).length ≤
      matchEnd - matchStart :=
    Nat.le_trans (length_compress_le _) (List.length_take_le _ _)
  rw [extractSnippet_eq, absent]
  constructor
  · rintro ⟨ordered, _, isMatch⟩
    dsimp only at ordered isMatch
    rw [slice_min] at isMatch
    refine ⟨(windowOf text matchStart matchEnd).take (offsetOf matchStart),
      ((windowOf text matchStart matchEnd).drop (offsetOf matchStart)).drop
        (matchEnd - matchStart), ?_, ?_, ?_⟩
    · rw [← isMatch, List.take_append_drop, List.take_append_drop]
    · rw [List.length_take]
      omega
    · rw [← isMatch, List.length_take, List.drop_eq_nil_iff]
      omega
  · rintro ⟨before, after, isWindow, isOffset, fills⟩
    have behind : (windowOf text matchStart matchEnd).drop
        (offsetOf matchStart) =
          compress (slice text matchStart matchEnd) ++ after := by
      rw [isWindow, ← isOffset, List.drop_left]
    have inWindow : offsetOf matchStart ≤
        (windowOf text matchStart matchEnd).length := by
      rw [isWindow, List.length_append, isOffset]
      exact Nat.le_add_right _ _
    refine ⟨le_min inWindow (Nat.le_add_right _ _), min_le_left _ _, ?_⟩
    dsimp only
    rw [slice_min, behind]
    rcases fills with sameLength | rfl
    · rw [← sameLength, List.take_left]
    · rw [List.append_nil, List.take_of_length_le notLonger]

end

end RtsNotebook.Sidebar.Search
