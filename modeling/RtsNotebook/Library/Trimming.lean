import Mathlib.Data.List.DropRight

/-!
# Trimming

A list without what holds of a predicate at both of its ends.  Two predicates
trim a list to the same core exactly where the items that the first one takes
off also hold of the second, and the ends that it leaves do not.
-/

namespace RtsNotebook.Library

section

variable {Item Other : Type} {holds first second : Item → Bool}
  {items before core after : List Item}

/-- The items between the longest runs at both ends. -/
def trimBy (holds : Item → Bool) (items : List Item) : List Item :=
  (items.dropWhile holds).rdropWhile holds

/-- A list whose ends, where it has any, do not hold. -/
structure Bare (holds : Item → Bool) (items : List Item) : Prop where
  head : ∀ item ∈ items.head?, holds item = false
  last : ∀ item ∈ items.getLast?, holds item = false

theorem bare_of_ends
    (head : items.head?.all (fun item => !holds item) = true)
    (last : items.getLast?.all (fun item => !holds item) = true) :
    Bare holds items where
  head := by
    intro item isHead
    rw [Option.mem_def.mp isHead] at head
    simpa using head
  last := by
    intro item isLast
    rw [Option.mem_def.mp isLast] at last
    simpa using last

theorem dropWhile_eq_self
    (head : ∀ item ∈ items.head?, holds item = false) :
    items.dropWhile holds = items := by
  cases items with
  | nil => rfl
  | cons item items =>
      rw [List.dropWhile_cons_of_neg]
      simp [head item rfl]

theorem rdropWhile_eq_self
    (last : ∀ item ∈ items.getLast?, holds item = false) :
    items.rdropWhile holds = items := by
  rw [List.rdropWhile_eq_self_iff]
  intro nonempty
  simp [last _ (List.getLast?_eq_some_getLast nonempty)]

theorem dropWhile_append_of_holds
    (allBefore : ∀ item ∈ before, holds item = true) :
    (before ++ items).dropWhile holds = items.dropWhile holds := by
  induction before with
  | nil => rfl
  | cons item before inductionHypothesis =>
      rw [List.cons_append, List.dropWhile_cons_of_pos
        (allBefore item List.mem_cons_self)]
      exact inductionHypothesis fun other member =>
        allBefore other (List.mem_cons_of_mem _ member)

theorem rdropWhile_append_of_holds
    (allAfter : ∀ item ∈ after, holds item = true) :
    (items ++ after).rdropWhile holds = items.rdropWhile holds := by
  unfold List.rdropWhile
  rw [List.reverse_append, dropWhile_append_of_holds]
  intro item member
  exact allAfter item (List.mem_reverse.mp member)

theorem trimBy_append_right
    (allAfter : ∀ item ∈ after, holds item = true) :
    trimBy holds (items ++ after) = trimBy holds items := by
  unfold trimBy
  by_cases allHold : ∀ item ∈ items, holds item = true
  · have allBoth : ∀ item ∈ items ++ after, holds item = true := by
      intro item member
      rcases List.mem_append.mp member with inItems | inAfter
      · exact allHold item inItems
      · exact allAfter item inAfter
    rw [List.dropWhile_eq_nil_iff.mpr allBoth,
      List.dropWhile_eq_nil_iff.mpr allHold]
  · have stops : items.dropWhile holds ≠ [] :=
      mt List.dropWhile_eq_nil_iff.mp allHold
    rw [List.dropWhile_append, if_neg (by simpa using stops),
      rdropWhile_append_of_holds allAfter]

theorem trimBy_append_left
    (allBefore : ∀ item ∈ before, holds item = true) :
    trimBy holds (before ++ items) = trimBy holds items := by
  unfold trimBy
  rw [dropWhile_append_of_holds allBefore]

theorem trimBy_of_bare (bare : Bare holds items) :
    trimBy holds items = items := by
  unfold trimBy
  rw [dropWhile_eq_self bare.head, rdropWhile_eq_self bare.last]

theorem trimBy_eq
    (allBefore : ∀ item ∈ before, holds item = true)
    (allAfter : ∀ item ∈ after, holds item = true)
    (bare : Bare holds core) :
    trimBy holds (before ++ core ++ after) = core := by
  rw [trimBy_append_right allAfter, trimBy_append_left allBefore,
    trimBy_of_bare bare]

/-- A bare beginning stays, and the rest is trimmed at its end. -/
theorem trimBy_append_of_bare (bare : Bare holds before)
    (nonempty : before ≠ []) (items : List Item) :
    trimBy holds (before ++ items) = before ++ items.rdropWhile holds := by
  have start : (before ++ items).dropWhile holds = before ++ items := by
    refine dropWhile_eq_self ?_
    rw [List.head?_append_of_ne_nil _ nonempty]
    exact bare.head
  have ending : before.rdropWhile holds = before := rdropWhile_eq_self bare.last
  rw [trimBy, start]
  unfold List.rdropWhile at ending ⊢
  rw [List.reverse_append, List.dropWhile_append]
  cases rest : items.reverse.dropWhile holds with
  | nil =>
      rw [List.isEmpty_nil, if_pos rfl, ending, List.reverse_nil,
        List.append_nil]
  | cons last others =>
      rw [List.isEmpty_cons, if_neg Bool.false_ne_true, List.reverse_append,
        List.reverse_reverse]

theorem prefix_trimBy (bare : Bare holds before) (nonempty : before ≠ [])
    (items : List Item) : before <+: trimBy holds (before ++ items) := by
  rw [trimBy_append_of_bare bare nonempty]
  exact List.prefix_append _ _

theorem rdropWhile_append_of_ne_nil (kept : after.rdropWhile holds ≠ []) :
    (items ++ after).rdropWhile holds = items ++ after.rdropWhile holds := by
  unfold List.rdropWhile at kept ⊢
  have stops : after.reverse.dropWhile holds ≠ [] := fun empty =>
    kept (by rw [empty, List.reverse_nil])
  rw [List.reverse_append, List.dropWhile_append, if_neg (by simpa using stops),
    List.reverse_append, List.reverse_reverse]

theorem trimBy_rdropWhile (items : List Item) :
    trimBy holds (items.rdropWhile holds) = trimBy holds items := by
  have held : ∀ item ∈ items.rtakeWhile holds, holds item = true :=
    fun item member => List.mem_rtakeWhile_imp member
  calc
    trimBy holds (items.rdropWhile holds) =
        trimBy holds (items.rdropWhile holds ++ items.rtakeWhile holds) :=
      (trimBy_append_right held).symm
    _ = trimBy holds items := by rw [List.rdropWhile_append_rtakeWhile]

theorem bare_trimBy (holds : Item → Bool) (items : List Item) :
    Bare holds (trimBy holds items) where
  head := by
    intro item isHead
    unfold trimBy at isHead
    have starts : item ∈ (items.dropWhile holds).head? := by
      obtain ⟨rest, restEq⟩ := List.rdropWhile_prefix holds
        (items.dropWhile holds)
      rw [← restEq]
      cases core : (items.dropWhile holds).rdropWhile holds with
      | nil =>
          rw [core] at isHead
          cases isHead
      | cons other rest =>
          rw [core] at isHead
          exact isHead
    have found := List.head?_dropWhile_not holds items
    rw [Option.mem_def.mp starts] at found
    simpa using found
  last := by
    intro item isLast
    unfold trimBy at isLast
    have nonempty : (items.dropWhile holds).rdropWhile holds ≠ [] := by
      intro empty
      rw [empty] at isLast
      cases isLast
    have found := List.rdropWhile_last_not holds (items.dropWhile holds)
      nonempty
    rw [List.getLast?_eq_some_getLast nonempty] at isLast
    cases isLast
    simpa using found

theorem exists_margins (holds : Item → Bool) (items : List Item) :
    ∃ before after, items = before ++ trimBy holds items ++ after ∧
      (∀ item ∈ before, holds item = true) ∧
      ∀ item ∈ after, holds item = true := by
  refine ⟨items.takeWhile holds, (items.dropWhile holds).rtakeWhile holds,
    ?_, fun item => List.mem_takeWhile_imp, fun item =>
      List.mem_rtakeWhile_imp⟩
  have whole : (items.dropWhile holds).rdropWhile holds ++
      (items.dropWhile holds).rtakeWhile holds = items.dropWhile holds := by
    unfold List.rdropWhile List.rtakeWhile
    rw [← List.reverse_append, List.takeWhile_append_dropWhile,
      List.reverse_reverse]
  unfold trimBy
  rw [List.append_assoc, whole, List.takeWhile_append_dropWhile]

/-! ### What no trimming takes off -/

theorem countP_trimBy {counts : Item → Bool}
    (keeps : ∀ item, holds item = true → counts item = false)
    (items : List Item) :
    (trimBy holds items).countP counts = items.countP counts := by
  obtain ⟨before, after, itemsEq, allBefore, allAfter⟩ :=
    exists_margins holds items
  have noBefore : before.countP counts = 0 :=
    List.countP_eq_zero.mpr fun item member => by
      simp [keeps item (allBefore item member)]
  have noAfter : after.countP counts = 0 :=
    List.countP_eq_zero.mpr fun item member => by
      simp [keeps item (allAfter item member)]
  have counted := congrArg (List.countP counts) itemsEq
  rw [List.countP_append, List.countP_append, noBefore, noAfter] at counted
  omega

theorem trimBy_sublist (holds : Item → Bool) (items : List Item) :
    (trimBy holds items).Sublist items :=
  (List.rdropWhile_prefix holds _).sublist.trans
    (List.dropWhile_suffix holds).sublist

theorem trimBy_eq_nil_iff :
    trimBy holds items = [] ↔ ∀ item ∈ items, holds item = true := by
  unfold trimBy
  rw [List.rdropWhile_eq_nil_iff]
  constructor
  · intro allRest item member
    rw [← List.takeWhile_append_dropWhile (p := holds) (l := items)] at member
    rcases List.mem_append.mp member with inTaken | inRest
    · exact List.mem_takeWhile_imp inTaken
    · exact allRest item inRest
  · intro allHold item member
    exact allHold item ((List.dropWhile_suffix holds).mem member)

theorem trimBy_map {change : Other → Item} {source : Other → Bool}
    (same : ∀ other, holds (change other) = source other)
    (others : List Other) :
    trimBy holds (others.map change) = (trimBy source others).map change := by
  have asComposed : holds ∘ change = source := funext same
  unfold trimBy List.rdropWhile
  rw [List.dropWhile_map, ← List.map_reverse, List.dropWhile_map,
    ← List.map_reverse, asComposed]

/-! ### Two predicates -/

/-- Items that hold reach no further into a list than the first one that does
not. -/
theorem margin_length_le {margin rest : List Item}
    (same : before ++ core = margin ++ rest)
    (head : ∀ item ∈ core.head?, holds item = false)
    (allMargin : ∀ item ∈ margin, holds item = true) :
    margin.length ≤ before.length := by
  rcases List.append_eq_append_iff.mp same with
    ⟨extra, marginEq, coreEq⟩ | ⟨extra, beforeEq, _⟩
  · cases extra with
    | nil => rw [marginEq, List.append_nil]
    | cons item extra =>
        have held := allMargin item (by rw [marginEq]; simp)
        rw [head item (by rw [coreEq]; rfl)] at held
        cases held
  · rw [beforeEq, List.length_append]
    omega

/-- Two cores of the same length, the first of which is bare of what the
margins of the second hold, stand between the same margins. -/
theorem cores_eq
    {otherBefore otherCore otherAfter : List Item}
    (same : before ++ core ++ after =
      otherBefore ++ otherCore ++ otherAfter)
    (length_eq : core.length = otherCore.length) (nonempty : core ≠ [])
    (bare : Bare holds core)
    (allBefore : ∀ item ∈ otherBefore, holds item = true)
    (allAfter : ∀ item ∈ otherAfter, holds item = true) :
    otherBefore = before ∧ otherCore = core ∧ otherAfter = after := by
  have beforeLe : otherBefore.length ≤ before.length := by
    rw [List.append_assoc, List.append_assoc] at same
    refine margin_length_le same ?_ allBefore
    rw [List.head?_append_of_ne_nil _ nonempty]
    exact bare.head
  have afterLe : otherAfter.length ≤ after.length := by
    have reversed := congrArg List.reverse same
    rw [List.reverse_append, List.reverse_append, List.reverse_append,
      List.reverse_append] at reversed
    have isShorter := margin_length_le reversed
      (by
        rw [List.head?_append_of_ne_nil _ (by simpa using nonempty),
          List.head?_reverse]
        exact bare.last)
      (fun item member => allAfter item (List.mem_reverse.mp member))
    rwa [List.length_reverse, List.length_reverse] at isShorter
  have lengths := congrArg List.length same
  simp only [List.length_append] at lengths
  obtain ⟨fronts, afterEq⟩ := List.append_inj same (by
    simp only [List.length_append]
    omega)
  obtain ⟨beforeEq, coreEq⟩ := List.append_inj fronts (by omega)
  exact ⟨beforeEq.symm, coreEq.symm, afterEq.symm⟩

theorem Bare.map {change : Item → Item} (bare : Bare second items)
    (fixes : ∀ item, second item = false → change item = item) :
    Bare second (items.map change) where
  head := by
    intro item isHead
    rw [List.head?_map, Option.mem_def, Option.map_eq_some_iff] at isHead
    obtain ⟨source, isSource, rfl⟩ := isHead
    have sourceBare := bare.head source isSource
    rwa [fixes source sourceBare]
  last := by
    intro item isLast
    rw [List.getLast?_map, Option.mem_def, Option.map_eq_some_iff] at isLast
    obtain ⟨source, isSource, rfl⟩ := isLast
    have sourceBare := bare.last source isSource
    rwa [fixes source sourceBare]

/-- Trimming by the first predicate gives what `change` makes of trimming by
the second if and only if one core is bare of both, stands between items of
which both hold, and is fixed by `change`. -/
theorem trimBy_eq_map_trimBy_iff
    {change : Item → Item}
    (fixes : ∀ item, second item = false → change item = item)
    (again : ∀ item, change (change item) = change item) :
    trimBy first items = (trimBy second items).map change ↔
      ∃ before core after, items = before ++ core ++ after ∧
        (∀ item ∈ before ++ after,
          first item = true ∧ second item = true) ∧
        Bare first core ∧ Bare second core ∧
        ∀ item ∈ core, change item = item := by
  constructor
  · intro same
    obtain ⟨before, after, itemsEq, allBefore, allAfter⟩ :=
      exists_margins first items
    obtain ⟨otherBefore, otherAfter, otherEq, otherAllBefore,
      otherAllAfter⟩ := exists_margins second items
    by_cases nonempty : trimBy first items = []
    · -- Both hold of every item.
      have otherEmpty : trimBy second items = [] := by
        rwa [nonempty, eq_comm, List.map_eq_nil_iff] at same
      rw [trimBy_eq_nil_iff] at nonempty otherEmpty
      refine ⟨items, [], [], by simp, fun item member => ?_, ⟨nofun, nofun⟩,
        ⟨nofun, nofun⟩, nofun⟩
      rw [List.append_nil] at member
      exact ⟨nonempty item member, otherEmpty item member⟩
    have bare : Bare second (trimBy first items) := by
      rw [same]
      exact (bare_trimBy second items).map fixes
    have length_eq : (trimBy first items).length =
        (trimBy second items).length := by
      rw [same, List.length_map]
    obtain ⟨rfl, _, rfl⟩ := cores_eq (itemsEq.symm.trans otherEq) length_eq
      nonempty bare otherAllBefore otherAllAfter
    refine ⟨otherBefore, trimBy first items, otherAfter, itemsEq, ?_,
      bare_trimBy first items, bare, ?_⟩
    · intro item member
      rcases List.mem_append.mp member with isBefore | isAfter
      · exact ⟨allBefore item isBefore, otherAllBefore item isBefore⟩
      · exact ⟨allAfter item isAfter, otherAllAfter item isAfter⟩
    · intro item member
      rw [same] at member
      obtain ⟨source, _, rfl⟩ := List.mem_map.mp member
      exact again source
  · rintro ⟨before, core, after, rfl, margins, bareFirst, bareSecond, fixed⟩
    have inBefore : ∀ item ∈ before, first item = true ∧ second item = true :=
      fun item member => margins item (List.mem_append_left _ member)
    have inAfter : ∀ item ∈ after, first item = true ∧ second item = true :=
      fun item member => margins item (List.mem_append_right _ member)
    rw [trimBy_eq (fun item member => (inBefore item member).1)
        (fun item member => (inAfter item member).1) bareFirst,
      trimBy_eq (fun item member => (inBefore item member).2)
        (fun item member => (inAfter item member).2) bareSecond]
    calc
      core = core.map id := by simp
      _ = core.map change :=
        List.map_congr_left fun item member => (fixed item member).symm

/-! ### Coded lists -/

/-- An item is coded by some others, which hold as it does. -/
structure CodesAs (code : Other → List Item) (holds : Item → Bool)
    (source : Other → Bool) : Prop where
  nonempty : ∀ other, code other ≠ []
  same : ∀ other, ∀ item ∈ code other, holds item = source other

variable {code : Other → List Item} {source : Other → Bool}

theorem CodesAs.dropWhile (codes : CodesAs code holds source)
    (others : List Other) :
    (others.flatMap code).dropWhile holds =
      (others.dropWhile source).flatMap code := by
  induction others with
  | nil => rfl
  | cons other others inductionHypothesis =>
      rw [List.flatMap_cons]
      cases held : source other with
      | true =>
          rw [List.dropWhile_cons_of_pos held, ← inductionHypothesis]
          refine dropWhile_append_of_holds fun item member => ?_
          rw [codes.same other item member, held]
      | false =>
          rw [List.dropWhile_cons_of_neg (by simp [held]), List.flatMap_cons]
          refine dropWhile_eq_self fun item isHead => ?_
          have member : item ∈ code other := by
            cases coded : code other with
            | nil => exact absurd coded (codes.nonempty other)
            | cons first rest =>
                rw [coded] at isHead
                cases isHead
                exact List.mem_cons_self
          rw [codes.same other item member, held]

theorem CodesAs.takeWhile (codes : CodesAs code holds source)
    (others : List Other) :
    (others.flatMap code).takeWhile holds =
      (others.takeWhile source).flatMap code := by
  have whole : (others.takeWhile source).flatMap code ++
      (others.dropWhile source).flatMap code = others.flatMap code := by
    rw [← List.flatMap_append, List.takeWhile_append_dropWhile]
  have rest := codes.dropWhile others
  rw [← whole] at rest ⊢
  have parts := List.takeWhile_append_dropWhile (p := holds)
    (l := (others.takeWhile source).flatMap code ++
      (others.dropWhile source).flatMap code)
  rw [rest] at parts
  exact List.append_cancel_right parts

theorem CodesAs.reverse (codes : CodesAs code holds source) :
    CodesAs (fun other => (code other).reverse) holds source where
  nonempty := fun other => by simpa using codes.nonempty other
  same := fun other item member =>
    codes.same other item (List.mem_reverse.mp member)

theorem CodesAs.trimBy (codes : CodesAs code holds source)
    (others : List Other) :
    Library.trimBy holds (others.flatMap code) =
      (Library.trimBy source others).flatMap code := by
  unfold Library.trimBy List.rdropWhile
  rw [codes.dropWhile, List.reverse_flatMap,
    List.flatMap_reverse (f := code)]
  exact congrArg List.reverse
    (codes.reverse.dropWhile (others.dropWhile source).reverse)

end

end RtsNotebook.Library
