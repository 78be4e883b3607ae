import Mathlib.Data.List.Sort

/-!
# Stable sorting

Sorting by insertion keeps the items of a class in the order in which they came.
Items no two of which compare equal are sorted in one way, whatever order they
are given in.
-/

namespace RtsNotebook.Library

section

variable {Item : Type*} {le : Item → Item → Prop} {items others : List Item}

/-- Two items of an ordered list are related one way or the other. -/
theorem related_of_pairwise {before : Item → Item → Prop}
    (ordered : items.Pairwise before) {first second : Item}
    (isFirst : first ∈ items) (isSecond : second ∈ items)
    (different : first ≠ second) :
    before first second ∨ before second first :=
  List.Pairwise.forall_of_forall_of_flip
    (R := fun a b : Item => a ≠ b → before a b ∨ before b a)
    (fun _ _ distinct => absurd rfl distinct)
    (ordered.imp fun related _ => Or.inl related)
    (ordered.imp fun related _ => Or.inr related) isFirst isSecond different

/-- Items of one class are related if and only if each class on its own is. -/
theorem pairwise_classes_iff {Key : Type*} [DecidableEq Key]
    {key : Item → Key} {before : Item → Item → Prop} :
    (items.Pairwise fun first second =>
        key first = key second → before first second) ↔
      ∀ sought, (items.filter fun item => key item = sought).Pairwise before := by
  simp only [List.pairwise_filter, decide_eq_true_eq]
  constructor
  · intro related sought
    refine related.imp fun inClass isFirst isSecond => ?_
    exact inClass (isFirst.trans isSecond.symm)
  · intro related
    refine List.pairwise_iff_forall_sublist.mpr
      fun {first second} inOrder sameKey => ?_
    have inClass := List.pairwise_iff_forall_sublist.mp
      (related (key second)) inOrder
    exact inClass sameKey rfl

variable [DecidableRel le]

/-- Items that are related both ways stay as they came. -/
theorem filter_insertionSort {same : Item → Bool}
    (related : ∀ first second, same first = true → same second = true →
      le first second) (items : List Item) :
    (items.insertionSort le).filter same = items.filter same := by
  have ordered : (items.filter same).Pairwise le := by
    refine List.Pairwise.imp_of_mem (R := fun _ _ => True)
      (fun isFirst isSecond _ => ?_) (List.pairwise_of_forall fun _ _ => trivial)
    exact related _ _ (List.mem_filter.mp isFirst).2
      (List.mem_filter.mp isSecond).2
  have isSublist : (items.filter same).Sublist (items.insertionSort le) :=
    List.sublist_insertionSort ordered List.filter_sublist
  have filtered : (items.filter same).Sublist
      ((items.insertionSort le).filter same) := by
    have again := isSublist.filter same
    rwa [List.filter_filter, List.filter_congr (q := same)
      (fun _ _ => Bool.and_self _)] at again
  have sameLength : (items.filter same).length =
      ((items.insertionSort le).filter same).length :=
    ((List.perm_insertionSort le items).filter same).length_eq.symm
  exact (filtered.eq_of_length sameLength).symm

variable [Std.Total le] [IsTrans Item le]

theorem pairwise_orderedInsert_and {before : Item → Item → Prop} {item : Item}
    (sorted : items.Pairwise fun first second =>
      le first second ∧ (le second first → before first second))
    (isFirst : ∀ other ∈ items, before item other) :
    (items.orderedInsert le item).Pairwise fun first second =>
      le first second ∧ (le second first → before first second) := by
  induction items with
  | nil => exact List.pairwise_singleton _ item
  | cons head rest inductionHypothesis =>
      have parts := List.pairwise_cons.mp sorted
      by_cases stops : le item head
      · rw [List.orderedInsert_cons, if_pos stops, List.pairwise_cons]
        refine ⟨?_, sorted⟩
        intro other isOther
        refine ⟨?_, fun _ => isFirst other isOther⟩
        rcases List.mem_cons.mp isOther with rfl | inRest
        · exact stops
        · exact trans_of le stops (parts.1 other inRest).1
      · rw [List.orderedInsert_cons, if_neg stops, List.pairwise_cons]
        refine ⟨?_, inductionHypothesis parts.2 fun other isOther =>
          isFirst other (List.mem_cons_of_mem _ isOther)⟩
        intro other isOther
        rcases (List.mem_orderedInsert le).mp isOther with rfl | inRest
        · exact ⟨(total_of le _ head).resolve_left stops,
            fun goesBack => absurd goesBack stops⟩
        · exact parts.1 other inRest

/-- Where the items compare equal, what is related in the given order stays
so. -/
theorem pairwise_insertionSort_and {before : Item → Item → Prop}
    (ordered : items.Pairwise before) :
    (items.insertionSort le).Pairwise fun first second =>
      le first second ∧ (le second first → before first second) := by
  induction items with
  | nil => exact List.Pairwise.nil
  | cons item rest inductionHypothesis =>
      rw [List.pairwise_cons] at ordered
      exact pairwise_orderedInsert_and (inductionHypothesis ordered.2)
        fun other isOther =>
          ordered.1 other ((List.mem_insertionSort le).mp isOther)

/-- Items that do not compare equal are sorted in one way. -/
theorem insertionSort_eq_of_perm
    (apart : ∀ first ∈ items, ∀ second ∈ items,
      le first second → le second first → first = second)
    (same : items.Perm others) :
    items.insertionSort le = others.insertionSort le := by
  have sortedPerm : (items.insertionSort le).Perm (others.insertionSort le) :=
    (List.perm_insertionSort le items).trans
      (same.trans (List.perm_insertionSort le others).symm)
  refine sortedPerm.eq_of_pairwise ?_ (List.pairwise_insertionSort le items)
    (List.pairwise_insertionSort le others)
  intro first second isFirst isSecond
  exact apart first ((List.mem_insertionSort le).mp isFirst) second
    (same.mem_iff.mpr ((List.mem_insertionSort le).mp isSecond))

end

end RtsNotebook.Library
