import Mathlib.Data.List.Basic

/-!
# Line ends

A text over any kind of item, in which a return before a newline belongs to
the end of the line, and what follows the first line of a text.
-/

namespace RtsNotebook.Library

section

variable {Item : Type} {ending newline : Item} {breaks counts : Item → Bool}
  {before : List Item}

theorem takeWhile_append_newline (newlineBreaks : breaks newline = true)
    (before after : List Item) :
    (before ++ newline :: after).takeWhile (fun item => !breaks item) =
      before.takeWhile fun item => !breaks item := by
  induction before with
  | nil =>
      rw [List.nil_append, List.takeWhile_cons_of_neg (by simp [newlineBreaks]),
        List.takeWhile_nil]
  | cons item before inductionHypothesis =>
      rw [List.cons_append, List.takeWhile_cons, List.takeWhile_cons,
        inductionHypothesis]

variable [DecidableEq Item]

/-- A text with each return before a newline left out. -/
def foldReturns (ending newline : Item) : List Item → List Item
  | [] => []
  | item :: rest =>
      if item = ending ∧ rest.head? = some newline then
        foldReturns ending newline rest
      else
        item :: foldReturns ending newline rest

/-- What follows the first item that breaks a line; a return takes the newline
after it along. -/
def afterBreak (ending newline : Item) (breaks : Item → Bool)
    (items : List Item) : List Item :=
  match items.dropWhile fun item => !breaks item with
  | [] => []
  | first :: rest =>
      if first = ending ∧ rest.head? = some newline then rest.tail else rest

theorem foldReturns_sublist (ending newline : Item) (items : List Item) :
    (foldReturns ending newline items).Sublist items := by
  induction items with
  | nil => exact List.Sublist.refl _
  | cons item rest inductionHypothesis =>
      unfold foldReturns
      split
      · exact inductionHypothesis.cons item
      · exact inductionHypothesis.cons_cons item

theorem countP_foldReturns (returns : counts ending = false)
    (items : List Item) :
    (foldReturns ending newline items).countP counts =
      items.countP counts := by
  induction items with
  | nil => rfl
  | cons item rest inductionHypothesis =>
      unfold foldReturns
      split
      · rename_i isReturn
        rw [inductionHypothesis, List.countP_cons_of_neg]
        rw [isReturn.1, returns]
        exact Bool.false_ne_true
      · rw [List.countP_cons, List.countP_cons, inductionHypothesis]

theorem foldReturns_append_of_noReturn
    (noReturn : ending ∉ before) (after : List Item) :
    foldReturns ending newline (before ++ after) =
      before ++ foldReturns ending newline after := by
  induction before with
  | nil => rfl
  | cons item before inductionHypothesis =>
      rw [List.mem_cons, not_or] at noReturn
      rw [List.cons_append, foldReturns,
        if_neg fun isReturn => noReturn.1 isReturn.1.symm,
        inductionHypothesis noReturn.2, List.cons_append]

/-- A newline separates what is left out before it from what follows. -/
theorem foldReturns_append_newline (different : newline ≠ ending)
    (before after : List Item) :
    foldReturns ending newline (before ++ newline :: after) =
      foldReturns ending newline (before ++ [newline]) ++
        foldReturns ending newline after := by
  induction before with
  | nil => simp [foldReturns, different]
  | cons item before inductionHypothesis =>
      have sameHead : (before ++ newline :: after).head? =
          (before ++ [newline]).head? := by
        cases before <;> rfl
      rw [List.cons_append, List.cons_append, foldReturns, foldReturns,
        sameHead, inductionHypothesis]
      split
      · rfl
      · rw [List.cons_append]

/-- The first break stands before the first newline, or is that newline with
what returns before it. -/
theorem afterBreak_append
    (different : newline ≠ ending) (newlineBreaks : breaks newline = true)
    (noNewline : newline ∉ before) (after : List Item) :
    (afterBreak ending newline breaks (before ++ newline :: after) = after ∧
        afterBreak ending newline breaks before = []) ∨
      afterBreak ending newline breaks (before ++ newline :: after) =
        afterBreak ending newline breaks before ++ newline :: after := by
  unfold afterBreak
  rw [List.dropWhile_append]
  cases found : before.dropWhile fun item => !breaks item with
  | nil =>
      left
      rw [List.isEmpty_nil, if_pos rfl,
        List.dropWhile_cons_of_neg (by simp [newlineBreaks])]
      exact ⟨if_neg fun isReturn => different isReturn.1, rfl⟩
  | cons first rest =>
      have noNewlineLeft : newline ∉ rest := fun member =>
        noNewline ((List.dropWhile_suffix _).mem
          (found ▸ List.mem_cons_of_mem first member))
      rw [List.isEmpty_cons, if_neg Bool.false_ne_true, List.cons_append]
      cases rest with
      | nil =>
          by_cases isReturn : first = ending
          · left
            simp [isReturn]
          · right
            simp [isReturn]
      | cons second rest =>
          right
          have notNewline : second ≠ newline := fun same =>
            noNewlineLeft (by simp [same])
          simp [notNewline]

end

end RtsNotebook.Library
