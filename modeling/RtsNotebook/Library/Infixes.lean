import Mathlib.Data.List.Infix

/-!
# Parts of a text and separators

Where a part of a text can stand, when the text is put together around a
separator.
-/

namespace RtsNotebook.Library

section

variable {Item : Type} {stop : Item} {part before after rest : List Item}

/-- A part without the separator that a text begins with ends before it. -/
theorem prefix_of_prefix_append_cons (free : stop ∉ part)
    (isPrefix : part <+: before ++ stop :: after) : part <+: before := by
  rcases List.prefix_or_prefix_of_prefix isPrefix
      (List.prefix_append before _) with inside | ⟨others, rfl⟩
  · exact inside
  · cases others with
    | nil => exact ⟨[], by rw [List.append_nil, List.append_nil]⟩
    | cons first others =>
        rw [List.prefix_append_right_inj] at isPrefix
        have isStop : first = stop := (List.cons_prefix_cons.mp isPrefix).1
        exact absurd (by simp [isStop]) free

/-- A part without the separator stands on one side of it. -/
theorem infix_append_cons_iff (free : stop ∉ part) :
    part <:+: before ++ stop :: after ↔ part <:+: before ∨ part <:+: after := by
  constructor
  · intro isInfix
    induction before with
    | nil =>
        rw [List.nil_append, List.infix_cons_iff] at isInfix
        rcases isInfix with isPrefix | inAfter
        · have inNothing : part <+: [] :=
            prefix_of_prefix_append_cons free isPrefix
          exact Or.inl inNothing.isInfix
        · exact Or.inr inAfter
    | cons first before inductionHypothesis =>
        rw [List.cons_append, List.infix_cons_iff] at isInfix
        rcases isInfix with isPrefix | inTail
        · have atStart : part <+: first :: before :=
            prefix_of_prefix_append_cons free isPrefix
          exact Or.inl atStart.isInfix
        · rcases inductionHypothesis inTail with inBefore | inAfter
          · exact Or.inl (List.infix_cons inBefore)
          · exact Or.inr inAfter
  · rintro (inBefore | inAfter)
    · exact inBefore.trans (List.prefix_append _ _).isInfix
    · exact (List.infix_cons inAfter).trans (List.suffix_append _ _).isInfix

/-- A part does not start where its first item is missing. -/
theorem infix_append_iff_of_head {first : Item} (absent : first ∉ before) :
    first :: part <:+: before ++ after ↔ first :: part <:+: after := by
  constructor
  · intro isInfix
    induction before with
    | nil => exact isInfix
    | cons head before inductionHypothesis =>
        rw [List.mem_cons, not_or] at absent
        rw [List.cons_append, List.infix_cons_iff] at isInfix
        rcases isInfix with isPrefix | inTail
        · exact absurd (List.cons_prefix_cons.mp isPrefix).1 absent.1
        · exact inductionHypothesis absent.2 inTail
  · exact fun inAfter => inAfter.trans (List.suffix_append _ _).isInfix

/-- What stands between two starts of a separator takes in the first of its
items up to where it could start again. -/
theorem prefix_of_shifted {first : Item}
    {mark behind between shifted : List Item}
    (fresh : first ∉ mark) (nonempty : between ≠ [])
    (same : first :: mark ++ behind ++ rest =
      between ++ (first :: mark ++ behind ++ shifted)) :
    first :: mark <+: between := by
  cases between with
  | nil => exact absurd rfl nonempty
  | cons head between =>
      simp only [List.cons_append, List.cons.injEq] at same
      obtain ⟨rfl, same⟩ := same
      have isPrefix : mark <+: between ++ first :: (mark ++ behind ++ shifted) := by
        rw [← same, List.append_assoc]
        exact List.prefix_append _ _
      exact List.cons_prefix_cons.mpr
        ⟨rfl, prefix_of_prefix_append_cons fresh isPrefix⟩

/-- Two ways to split a text at a separator are the same, or one of the first
parts holds the beginning of the separator. -/
theorem split_eq_or_crossing {first : Item}
    {mark behind left left' rest' : List Item} (fresh : first ∉ mark)
    (same : left ++ (first :: mark ++ behind ++ rest) =
      left' ++ (first :: mark ++ behind ++ rest')) :
    left = left' ∧ rest = rest' ∨
      first :: mark <:+: left ∨ first :: mark <:+: left' := by
  rcases List.append_eq_append_iff.mp same with
    ⟨between, rfl, restEq⟩ | ⟨between, rfl, restEq⟩
  · by_cases nonempty : between = []
    · rw [nonempty, List.nil_append, List.append_cancel_left_eq] at restEq
      exact Or.inl ⟨by rw [nonempty, List.append_nil], restEq⟩
    · exact Or.inr (Or.inr ((prefix_of_shifted fresh nonempty
        restEq).isInfix.trans (List.suffix_append _ _).isInfix))
  · by_cases nonempty : between = []
    · rw [nonempty, List.nil_append, List.append_cancel_left_eq] at restEq
      exact Or.inl ⟨by rw [nonempty, List.append_nil], restEq.symm⟩
    · exact Or.inr (Or.inl ((prefix_of_shifted fresh nonempty
        restEq).isInfix.trans (List.suffix_append _ _).isInfix))

end

end RtsNotebook.Library
