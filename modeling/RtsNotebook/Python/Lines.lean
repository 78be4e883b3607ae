import RtsNotebook.Library.LineEnds
import RtsNotebook.Library.Trimming
import RtsNotebook.Python.Value

/-!
# The lines of a Python string

What `splitlines` and a join by newlines make of a text: the same text with
every line break a newline, but for a newline at its end.
-/

namespace RtsNotebook.Python

open RtsNotebook.Library

/-- The code point that a join by newlines puts for one of a text. -/
def unifyBreak (codePoint : Nat) : Nat :=
  if isLineBreak codePoint then 0x0A else codePoint

theorem isSpace_of_isLineBreak {codePoint : Nat}
    (breaks : isLineBreak codePoint = true) : isSpace codePoint = true := by
  unfold isLineBreak at breaks
  unfold isSpace
  rw [decide_eq_true_eq] at breaks ⊢
  simp only [List.mem_cons, List.not_mem_nil, or_false] at breaks ⊢
  omega

theorem isSpace_unifyBreak (codePoint : Nat) :
    isSpace (unifyBreak codePoint) = isSpace codePoint := by
  unfold unifyBreak
  split
  · rename_i breaks
    rw [isSpace_of_isLineBreak breaks]
    rfl
  · rfl

theorem joinLines_cons (first : PyString) {rest : List PyString}
    (nonempty : rest ≠ []) :
    joinLines (first :: rest) = first ++ 0x0A :: joinLines rest := by
  cases rest with
  | nil => exact absurd rfl nonempty
  | cons second rest =>
      rw [joinLines, List.append_assoc]
      · rfl
      · exact nofun

theorem splitLinesFrom_eq_nil_iff (line text : PyString) :
    splitLinesFrom line text = [] ↔ line = [] ∧ text = [] := by
  fun_induction splitLinesFrom line text with
  | case1 => simp
  | case2 line lineNonempty => simp [lineNonempty]
  | case3 => simp
  | case4 => simp
  | case5 line codePoint rest notReturn noBreak inductionHypothesis =>
      simp [inductionHypothesis]

/-- A text whose returns before newlines are left out, with every other line
break a newline. -/
def unifyBreaks (text : PyString) : PyString :=
  (foldReturns 0x0D 0x0A text).map unifyBreak

/-- The join of the lines gives a text but for white space at its end. -/
def JoinsTo (lines : List PyString) (text : PyString) : Prop :=
  ∃ tail, (∀ codePoint ∈ tail, isSpace codePoint = true) ∧
    joinLines lines ++ tail = text

theorem JoinsTo.ended {rest : PyString}
    (joins : JoinsTo (splitLinesFrom [] rest) (unifyBreaks rest))
    (line : PyString) :
    JoinsTo (line :: splitLinesFrom [] rest)
      (line ++ 0x0A :: unifyBreaks rest) := by
  by_cases empty : rest = []
  · subst empty
    exact ⟨[0x0A], by simp [isSpace], rfl⟩
  · obtain ⟨tail, tailIsSpace, joined⟩ := joins
    have nonempty : splitLinesFrom [] rest ≠ [] := fun isNil =>
      empty ((splitLinesFrom_eq_nil_iff [] rest).mp isNil).2
    refine ⟨tail, tailIsSpace, ?_⟩
    rw [joinLines_cons line nonempty, List.append_assoc, List.cons_append,
      joined]

theorem joinsTo_splitLinesFrom (line text : PyString) :
    JoinsTo (splitLinesFrom line text)
      (line.reverse ++ unifyBreaks text) := by
  fun_induction splitLinesFrom line text with
  | case1 => exact ⟨[], by simp, rfl⟩
  | case2 line lineNonempty => exact ⟨[], by simp, rfl⟩
  | case3 line rest inductionHypothesis =>
      have folded : unifyBreaks (0x0D :: 0x0A :: rest) =
          0x0A :: unifyBreaks rest := by
        simp [unifyBreaks, foldReturns, unifyBreak, isLineBreak]
      rw [folded]
      exact JoinsTo.ended inductionHypothesis line.reverse
  | case4 line codePoint rest notReturn breaks inductionHypothesis =>
      have folded : unifyBreaks (codePoint :: rest) =
          0x0A :: unifyBreaks rest := by
        have alone : ¬(codePoint = 0x0D ∧ rest.head? = some 0x0A) := by
          rintro ⟨rfl, isHead⟩
          obtain ⟨others, rfl⟩ := List.head?_eq_some_iff.mp isHead
          exact notReturn others rfl rfl
        rw [unifyBreaks, foldReturns, if_neg alone, List.map_cons, unifyBreak,
          if_pos breaks, unifyBreaks]
      rw [folded]
      exact JoinsTo.ended inductionHypothesis line.reverse
  | case5 line codePoint rest notReturn noBreak inductionHypothesis =>
      have alone : ¬(codePoint = 0x0D ∧ rest.head? = some 0x0A) := by
        rintro ⟨rfl, _⟩
        exact noBreak rfl
      have folded : unifyBreaks (codePoint :: rest) =
          codePoint :: unifyBreaks rest := by
        rw [unifyBreaks, foldReturns, if_neg alone, List.map_cons, unifyBreak,
          if_neg noBreak, unifyBreaks]
      rw [folded]
      rwa [List.reverse_cons, List.append_assoc] at inductionHypothesis

/-- The lines of a text, joined and stripped. -/
theorem strip_joinLines_splitLines (text : PyString) :
    strip (joinLines (splitLines text)) =
      (strip (foldReturns 0x0D 0x0A text)).map unifyBreak := by
  obtain ⟨tail, tailIsSpace, joined⟩ := joinsTo_splitLinesFrom [] text
  have stripped : trimBy isSpace (joinLines (splitLinesFrom [] text) ++ tail) =
      trimBy isSpace (joinLines (splitLinesFrom [] text)) :=
    trimBy_append_right tailIsSpace
  rw [joined, List.reverse_nil, List.nil_append, unifyBreaks,
    trimBy_map isSpace_unifyBreak] at stripped
  exact stripped.symm

/-- The first line of a text, and the lines of what follows its end. -/
theorem splitLinesFrom_eq (line text : PyString)
    (nonempty : line ≠ [] ∨ text ≠ []) :
    splitLinesFrom line text =
      (line.reverse ++ text.takeWhile fun item => !isLineBreak item) ::
        splitLines (afterBreak 0x0D 0x0A isLineBreak text) := by
  fun_induction splitLinesFrom line text with
  | case1 => simp at nonempty
  | case2 line lineNonempty => simp [afterBreak, splitLines, splitLinesFrom]
  | case3 line rest inductionHypothesis =>
      simp [afterBreak, splitLines, isLineBreak]
  | case4 line codePoint rest notReturn breaks inductionHypothesis =>
      have alone : ¬(codePoint = 0x0D ∧ rest.head? = some 0x0A) := by
        rintro ⟨rfl, isHead⟩
        obtain ⟨others, rfl⟩ := List.head?_eq_some_iff.mp isHead
        exact notReturn others rfl rfl
      rw [afterBreak, List.takeWhile_cons_of_neg (by simp [breaks]),
        List.dropWhile_cons_of_neg (by simp [breaks]), List.append_nil]
      simp only [if_neg alone]
      rfl
  | case5 line codePoint rest notReturn noBreak inductionHypothesis =>
      have continues : (!isLineBreak codePoint) = true := by
        simp [noBreak]
      rw [inductionHypothesis (Or.inl (List.cons_ne_nil _ _)), afterBreak,
        afterBreak,
        List.takeWhile_cons_of_pos (p := fun item => !isLineBreak item)
          continues,
        List.dropWhile_cons_of_pos (p := fun item => !isLineBreak item)
          continues,
        List.reverse_cons, List.append_assoc]
      rfl

end RtsNotebook.Python
