import Mathlib.Data.List.Induction

/-!
# The latest item of a list

A loop that keeps the best item so far, where a later item replaces one of the
same rank: what it keeps in the end is the last of the items of the greatest
rank, if that rank is not below a least one.  A loop where only an item of a
greater rank replaces the best one keeps the first of them instead.
-/

namespace RtsNotebook.Library

variable {Item : Type*}

/-- The item has the greatest rank, and every later one has a smaller rank. -/
def IsLatest (rank : Item → Int) (least : Int) (items : List Item)
    (item : Item) : Prop :=
  ∃ before after, items = before ++ item :: after ∧ least ≤ rank item ∧
    (∀ earlier ∈ before, rank earlier ≤ rank item) ∧
    ∀ later ∈ after, rank later < rank item

/-- The best item so far, with its rank. -/
structure Kept (Item : Type*) where
  item : Option Item
  rank : Int

/-- One pass of the loop. -/
def Kept.consider (rank : Item → Int) (kept : Kept Item) (item : Item) :
    Kept Item :=
  if kept.rank ≤ rank item then ⟨some item, rank item⟩ else kept

section

variable {rank : Item → Int} {least : Int} {items : List Item} {item : Item}

theorem isLatest_concat_iff {next : Item} :
    IsLatest rank least (items ++ [next]) item ↔
      (next = item ∧ least ≤ rank item ∧
        ∀ earlier ∈ items, rank earlier ≤ rank item) ∨
      (IsLatest rank least items item ∧ rank next < rank item) := by
  constructor
  · rintro ⟨before, after, split, atLeast, earlier, later⟩
    rcases List.eq_nil_or_concat after with rfl | ⟨others, last, rfl⟩
    · obtain ⟨rfl, same⟩ := List.append_inj' split rfl
      obtain rfl := List.singleton_inj.mp same
      exact Or.inl ⟨rfl, atLeast, earlier⟩
    · rw [List.concat_eq_append, ← List.cons_append, ← List.append_assoc] at split
      obtain ⟨rfl, same⟩ := List.append_inj' split rfl
      rw [List.cons.injEq] at same
      rw [List.concat_eq_append] at later
      refine Or.inr ⟨⟨before, others, rfl, atLeast, earlier, ?_⟩, ?_⟩
      · intro other isOther
        exact later other (List.mem_append_left _ isOther)
      · rw [same.1]
        exact later last (by simp)
  · rintro (⟨rfl, atLeast, earlier⟩ |
      ⟨⟨before, after, rfl, atLeast, earlier, later⟩, below⟩)
    · exact ⟨items, [], rfl, atLeast, earlier, by simp⟩
    · refine ⟨before, after ++ [next], by simp, atLeast, earlier, ?_⟩
      intro other isOther
      rcases List.mem_append.mp isOther with isLater | isNext
      · exact later other isLater
      · rw [List.mem_singleton.mp isNext]
        exact below

/-- What the loop has kept: an item and its rank, which no item exceeds. -/
theorem foldl_consider (rank : Item → Int) (least : Int) (items : List Item) :
    let kept := items.foldl (Kept.consider rank) ⟨none, least⟩
    (∀ item, kept.item = some item ↔ IsLatest rank least items item) ∧
      (∀ item, kept.item = some item → kept.rank = rank item) ∧
      (kept.item = none → kept.rank = least) ∧
      least ≤ kept.rank ∧ ∀ item ∈ items, rank item ≤ kept.rank := by
  induction items using List.reverseRecOn with
  | nil =>
      refine ⟨fun item => ⟨?_, ?_⟩, ?_, fun _ => rfl, Int.le_refl _, ?_⟩
      · intro nothing
        cases nothing
      · rintro ⟨before, after, split, -⟩
        simp at split
      · intro item nothing
        cases nothing
      · intro item member
        cases member
  | append_singleton items next inductionHypothesis =>
      obtain ⟨latest, ranked, initial, atLeast, bound⟩ := inductionHypothesis
      simp only [List.foldl_append, List.foldl_cons, List.foldl_nil]
      generalize items.foldl (Kept.consider rank) ⟨none, least⟩ = kept
        at latest ranked initial atLeast bound ⊢
      by_cases replaced : kept.rank ≤ rank next
      · simp only [Kept.consider, if_pos replaced, isLatest_concat_iff,
          Option.some.injEq]
        have bounded : ∀ item ∈ items, rank item ≤ rank next := by
          intro item member
          have inside := bound item member
          omega
        refine ⟨fun item => ⟨?_, ?_⟩, ?_, ?_, ?_, ?_⟩
        · rintro rfl
          exact Or.inl ⟨rfl, by omega, bounded⟩
        · rintro (⟨same, -⟩ | ⟨isLatest, below⟩)
          · exact same
          · have rankItem := ranked item ((latest item).mpr isLatest)
            omega
        · rintro item rfl
          rfl
        · intro nothing
          cases nothing
        · omega
        · intro item member
          rcases List.mem_append.mp member with earlier | isNext
          · exact bounded item earlier
          · cases List.mem_singleton.mp isNext
            exact Int.le_refl _
      · simp only [Kept.consider, if_neg replaced, isLatest_concat_iff]
        refine ⟨fun item => ⟨?_, ?_⟩, ranked, initial, atLeast, ?_⟩
        · intro held
          refine Or.inr ⟨(latest item).mp held, ?_⟩
          rw [← ranked item held]
          omega
        · rintro (⟨rfl, atItem, exceeds⟩ | ⟨isLatest, -⟩)
          · cases held : kept.item with
            | none =>
                rw [initial held] at replaced
                exact absurd atItem replaced
            | some other =>
                obtain ⟨before, after, rfl, -⟩ := (latest other).mp held
                have isBelow := exceeds other (by simp)
                rw [← ranked other held] at isBelow
                exact absurd isBelow replaced
          · exact (latest item).mpr isLatest
        · intro item member
          rcases List.mem_append.mp member with earlier | isNext
          · exact bound item earlier
          · rw [List.mem_singleton.mp isNext]
            omega

theorem kept_iff_isLatest :
    (items.foldl (Kept.consider rank) ⟨none, least⟩).item = some item ↔
      IsLatest rank least items item :=
  (foldl_consider rank least items).1 item

end

/-! ### The first one -/

/-- The item has the greatest rank, and every earlier one has a smaller
rank. -/
def IsFirst (rank : Item → Int) (below : Int) (items : List Item)
    (item : Item) : Prop :=
  ∃ before after, items = before ++ item :: after ∧ below < rank item ∧
    (∀ earlier ∈ before, rank earlier < rank item) ∧
    ∀ later ∈ after, rank later ≤ rank item

/-- One pass of the loop. -/
def Kept.improve (rank : Item → Int) (kept : Kept Item) (item : Item) :
    Kept Item :=
  if kept.rank < rank item then ⟨some item, rank item⟩ else kept

section

variable {rank : Item → Int} {below : Int} {items : List Item} {item : Item}

theorem IsFirst.mem (isFirst : IsFirst rank below items item) :
    item ∈ items := by
  obtain ⟨before, after, split, _⟩ := isFirst
  rw [split]
  exact List.mem_append_right before List.mem_cons_self

theorem isFirst_concat_iff {next : Item} :
    IsFirst rank below (items ++ [next]) item ↔
      (next = item ∧ below < rank item ∧
        ∀ earlier ∈ items, rank earlier < rank item) ∨
      (IsFirst rank below items item ∧ rank next ≤ rank item) := by
  constructor
  · intro isFirst
    obtain ⟨before, after, split, above, earlier, later⟩ := isFirst
    cases after using List.reverseRecOn with
    | nil =>
        obtain ⟨rfl, same⟩ := List.append_inj' split rfl
        cases List.singleton_inj.mp same
        exact Or.inl ⟨rfl, above, earlier⟩
    | append_singleton others last =>
        rw [← List.cons_append, ← List.append_assoc] at split
        obtain ⟨rfl, same⟩ := List.append_inj' split rfl
        have isLast := later last (by simp)
        rw [← List.singleton_inj.mp same] at isLast
        exact Or.inr ⟨⟨before, others, rfl, above, earlier,
          fun other isOther => later other (List.mem_append_left _ isOther)⟩,
          isLast⟩
  · intro either
    rcases either with ⟨rfl, above, earlier⟩ | ⟨isFirst, notAbove⟩
    · exact ⟨items, [], rfl, above, earlier, by simp⟩
    · obtain ⟨before, after, rfl, above, earlier, later⟩ := isFirst
      refine ⟨before, after ++ [next], by simp, above, earlier, ?_⟩
      intro other isOther
      rcases List.mem_append.mp isOther with isLater | isNext
      · exact later other isLater
      · rw [List.mem_singleton.mp isNext]
        exact notAbove

/-- What the loop has kept: an item and its rank, which no item exceeds. -/
theorem foldl_improve (rank : Item → Int) (below : Int) (items : List Item) :
    let kept := items.foldl (Kept.improve rank) ⟨none, below⟩
    (∀ item, kept.item = some item ↔ IsFirst rank below items item) ∧
      (∀ item, kept.item = some item → kept.rank = rank item) ∧
      (kept.item = none → kept.rank = below) ∧
      below ≤ kept.rank ∧ ∀ item ∈ items, rank item ≤ kept.rank := by
  induction items using List.reverseRecOn with
  | nil =>
      refine ⟨fun item => ⟨nofun, fun isFirst => ?_⟩, nofun, fun _ => rfl,
        Int.le_refl _, nofun⟩
      cases isFirst.mem
  | append_singleton items next inductionHypothesis =>
      obtain ⟨first, ranked, initial, atLeast, bound⟩ := inductionHypothesis
      simp only [List.foldl_append, List.foldl_cons, List.foldl_nil]
      generalize items.foldl (Kept.improve rank) ⟨none, below⟩ = kept
        at first ranked initial atLeast bound ⊢
      by_cases improved : kept.rank < rank next
      · simp only [Kept.improve, if_pos improved, isFirst_concat_iff,
          Option.some.injEq]
        have bounded : ∀ item ∈ items, rank item < rank next := by
          intro item member
          have inside := bound item member
          omega
        refine ⟨fun item => ⟨?_, ?_⟩, ?_, nofun, ?_, ?_⟩
        · intro same
          subst same
          exact Or.inl ⟨rfl, by omega, bounded⟩
        · intro either
          rcases either with ⟨same, _⟩ | ⟨isFirst, notAbove⟩
          · exact same
          · have rankItem := ranked item ((first item).mpr isFirst)
            omega
        · intro item same
          subst same
          rfl
        · omega
        · intro item member
          rcases List.mem_append.mp member with earlier | isNext
          · exact Int.le_of_lt (bounded item earlier)
          · cases List.mem_singleton.mp isNext
            exact Int.le_refl _
      · simp only [Kept.improve, if_neg improved, isFirst_concat_iff]
        refine ⟨fun item => ⟨?_, ?_⟩, ranked, initial, atLeast, ?_⟩
        · intro held
          refine Or.inr ⟨(first item).mp held, ?_⟩
          rw [← ranked item held]
          omega
        · intro either
          rcases either with ⟨same, above, exceeds⟩ | ⟨isFirst, _⟩
          · subst same
            cases held : kept.item with
            | none =>
                rw [initial held] at improved
                exact absurd above improved
            | some other =>
                have isBelow := exceeds other ((first other).mp held).mem
                rw [← ranked other held] at isBelow
                exact absurd isBelow improved
          · exact (first item).mpr isFirst
        · intro item member
          rcases List.mem_append.mp member with earlier | isNext
          · exact bound item earlier
          · rw [List.mem_singleton.mp isNext]
            omega

theorem kept_iff_isFirst :
    (items.foldl (Kept.improve rank) ⟨none, below⟩).item = some item ↔
      IsFirst rank below items item :=
  (foldl_improve rank below items).1 item

end

end RtsNotebook.Library
