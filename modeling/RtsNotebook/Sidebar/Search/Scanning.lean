import RtsNotebook.Js.RegExp.Progress
import RtsNotebook.Sidebar.Search.MatchFinder

/-!
# Scanning a text

The scan of a text moves on with every match.  So there are no more matches than
indices, and a scan with less room finds the first of them.
-/

namespace RtsNotebook.Sidebar.Search

open RtsNotebook.Js RtsNotebook.Js.RegExp

section

variable {regex : Expression} {text : JsString} {room more lastIndex : Nat}
  {range : Nat × Nat}

/-- Where the scan goes on behind a match. -/
def nextIndex (range : Nat × Nat) : Nat :=
  if range.2 = range.1 then range.2 + 1 else range.2

theorem scan_of_none (absent : regex.exec text lastIndex = none) :
    scan regex text room lastIndex = [] := by
  cases room with
  | zero => rfl
  | succ room => rw [scan, absent]

theorem scan_of_some (found : regex.exec text lastIndex = some range) :
    scan regex text (room + 1) lastIndex =
      range :: scan regex text room (nextIndex range) := by
  rw [scan, found]
  rfl

/-- A scan goes on behind the start of the match, and not before its end. -/
theorem nextIndex_bounds (found : regex.exec text lastIndex = some range) :
    lastIndex ≤ range.1 ∧ range.1 ≤ range.2 ∧ range.2 ≤ text.length ∧
      range.1 < nextIndex range ∧ range.2 ≤ nextIndex range := by
  obtain ⟨atLeast, ordered, inText⟩ := Expression.exec_bounds found
  refine ⟨atLeast, ordered, inText, ?_⟩
  unfold nextIndex
  by_cases isEmpty : range.2 = range.1
  · rw [if_pos isEmpty]
    omega
  · rw [if_neg isEmpty]
    omega

/-- With less room the scan finds the first of the matches. -/
theorem scan_eq_take (atMost : room ≤ more) :
    scan regex text room lastIndex =
      (scan regex text more lastIndex).take room := by
  induction room generalizing more lastIndex with
  | zero => rw [List.take_zero, scan]
  | succ room inductionHypothesis =>
      obtain ⟨more, rfl⟩ := Nat.exists_eq_add_of_le' atMost
      cases found : regex.exec text lastIndex with
      | none =>
          rw [scan_of_none found, scan_of_none found, List.take_nil]
      | some range =>
          rw [scan_of_some found, ← Nat.add_assoc,
            scan_of_some found, List.take_succ_cons,
            inductionHypothesis (Nat.le_add_left room more)]

/-- There are no more matches than indices from `lastIndex` on. -/
theorem length_scan_le :
    (scan regex text room lastIndex).length ≤ text.length + 1 - lastIndex := by
  induction room generalizing lastIndex with
  | zero => exact Nat.zero_le _
  | succ room inductionHypothesis =>
      cases found : regex.exec text lastIndex with
      | none =>
          rw [scan_of_none found]
          exact Nat.zero_le _
      | some range =>
          have bounds := nextIndex_bounds found
          have others := @inductionHypothesis (nextIndex range)
          rw [scan_of_some found, List.length_cons]
          omega

/-- All matches of a text, one after the other. -/
def allRanges (regex : Expression) (text : JsString) : List (Nat × Nat) :=
  scan regex text (text.length + 1) 0

/-- However much room there is, the scan finds the first of all matches. -/
theorem scan_eq_take_allRanges :
    scan regex text room 0 = (allRanges regex text).take room := by
  rcases Nat.le_total room (text.length + 1) with less | enough
  · exact scan_eq_take less
  · have complete := @scan_eq_take regex text _ _ 0 enough
    have short := @length_scan_le regex text room 0
    rw [Nat.sub_zero] at short
    rw [allRanges, complete, List.take_of_length_le short,
      List.take_of_length_le (Nat.le_trans short enough)]

theorem foundRanges_eq :
    foundRanges regex text =
      (allRanges regex text).take PER_CELL_MATCH_CAP :=
  scan_eq_take_allRanges

/-- Every match of a scan is found by `exec` from some index on. -/
theorem exec_of_mem_scan (isFound : range ∈ scan regex text room lastIndex) :
    ∃ index, lastIndex ≤ index ∧ regex.exec text index = some range := by
  induction room generalizing lastIndex with
  | zero => cases isFound
  | succ room inductionHypothesis =>
      cases found : regex.exec text lastIndex with
      | none =>
          rw [scan_of_none found] at isFound
          cases isFound
      | some first =>
          rw [scan_of_some found] at isFound
          rcases List.mem_cons.mp isFound with rfl | isLater
          · exact ⟨lastIndex, Nat.le_refl _, found⟩
          · obtain ⟨index, atLeast, isMatch⟩ := inductionHypothesis isLater
            have bounds := nextIndex_bounds found
            exact ⟨index, by omega, isMatch⟩

/-- The matches of a scan begin one behind the other and do not overlap. -/
theorem pairwise_scan :
    (scan regex text room lastIndex).Pairwise fun first second =>
      first.1 < second.1 ∧ first.2 ≤ second.1 := by
  induction room generalizing lastIndex with
  | zero => exact List.Pairwise.nil
  | succ room inductionHypothesis =>
      cases found : regex.exec text lastIndex with
      | none =>
          rw [scan_of_none found]
          exact List.Pairwise.nil
      | some first =>
          rw [scan_of_some found, List.pairwise_cons]
          refine ⟨fun second isLater => ?_, inductionHypothesis⟩
          obtain ⟨index, atLeast, isMatch⟩ := exec_of_mem_scan isLater
          have bounds := nextIndex_bounds found
          have later := nextIndex_bounds isMatch
          omega

end

end RtsNotebook.Sidebar.Search
