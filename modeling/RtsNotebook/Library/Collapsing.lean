import RtsNotebook.Library.Infixes

/-!
# Collapsing runs

Each longest run of items of a kind that has at least a given length is replaced
by one mark.  Parts of a collapsed list are collapsed to themselves.
-/

namespace RtsNotebook.Library

section

variable {Item : Type} {holds : Item → Bool} {least : Nat} {mark : Item}
  {items part run : List Item}

/-- The mark in place of a run that is long enough. -/
def flushRun (least : Nat) (mark : Item) (run : List Item) : List Item :=
  if least ≤ run.length then [mark] else run

/-- Collapse a list behind the beginning of a run. -/
def collapseBehind (holds : Item → Bool) (least : Nat) (mark : Item) :
    List Item → List Item → List Item
  | run, [] => flushRun least mark run
  | run, item :: rest =>
      if holds item then
        collapseBehind holds least mark (run ++ [item]) rest
      else
        flushRun least mark run ++
          item :: collapseBehind holds least mark [] rest

def collapse (holds : Item → Bool) (least : Nat) (mark : Item)
    (items : List Item) : List Item :=
  collapseBehind holds least mark [] items

/-- Every run is shorter than the length from which runs are replaced. -/
def HasShortRuns (holds : Item → Bool) (least : Nat) (items : List Item) :
    Prop :=
  ∀ run, run <:+: items → (∀ item ∈ run, holds item = true) →
    run.length < least

theorem HasShortRuns.of_part (short : HasShortRuns holds least items)
    (isPart : part <:+: items) : HasShortRuns holds least part :=
  fun run isRun => short run (isRun.trans isPart)

theorem hasShortRuns_append_cons {item : Item} (fails : holds item = false)
    {before after : List Item} :
    HasShortRuns holds least (before ++ item :: after) ↔
      HasShortRuns holds least before ∧ HasShortRuns holds least after := by
  have free : ∀ run : List Item, (∀ other ∈ run, holds other = true) →
      item ∉ run := by
    intro run allHold isItem
    rw [allHold item isItem] at fails
    cases fails
  constructor
  · intro short
    exact ⟨short.of_part (List.prefix_append _ _).isInfix,
      short.of_part ((List.suffix_cons _ _).trans
        (List.suffix_append _ _)).isInfix⟩
  · rintro ⟨shortBefore, shortAfter⟩ run isRun allHold
    rcases (infix_append_cons_iff (free run allHold)).mp isRun with
      inBefore | inAfter
    · exact shortBefore run inBefore allHold
    · exact shortAfter run inAfter allHold

/-- Where every run is replaced, short runs are no runs at all. -/
theorem hasShortRuns_one_iff :
    HasShortRuns holds 1 items ↔ ∀ item ∈ items, holds item = false := by
  constructor
  · intro short item isItem
    by_contra held
    rw [Bool.not_eq_false] at held
    obtain ⟨before, after, rfl⟩ := List.append_of_mem isItem
    have alone := short [item] ⟨before, after, by simp⟩ (by simpa using held)
    exact Nat.lt_irrefl 1 alone
  · intro fails run isRun allHold
    cases run with
    | nil => exact Nat.one_pos
    | cons item others =>
        have held := allHold item List.mem_cons_self
        rw [fails item (isRun.subset List.mem_cons_self)] at held
        cases held

/-- Short runs stay as they are. -/
theorem collapseBehind_eq_self (short : HasShortRuns holds least (run ++ items))
    (allHold : ∀ item ∈ run, holds item = true) :
    collapseBehind holds least mark run items = run ++ items := by
  induction items generalizing run with
  | nil =>
      rw [List.append_nil] at short
      have isShort := short run (List.infix_refl run) allHold
      rw [collapseBehind, flushRun, if_neg (Nat.not_le.mpr isShort),
        List.append_nil]
  | cons item rest inductionHypothesis =>
      rw [collapseBehind]
      cases held : holds item with
      | true =>
          rw [if_pos rfl, inductionHypothesis]
          · rw [List.append_assoc, List.singleton_append]
          · rwa [List.append_assoc, List.singleton_append]
          · intro other isOther
            rcases List.mem_append.mp isOther with inRun | isItem
            · exact allHold other inRun
            · rw [List.mem_singleton.mp isItem]
              exact held
      | false =>
          obtain ⟨shortRun, shortRest⟩ :=
            (hasShortRuns_append_cons held).mp short
          have isShort := shortRun run (List.infix_refl run) allHold
          rw [if_neg Bool.false_ne_true, flushRun,
            if_neg (Nat.not_le.mpr isShort)]
          rw [@inductionHypothesis [] shortRest (by simp)]
          rfl

theorem collapse_eq_self (short : HasShortRuns holds least items) :
    collapse holds least mark items = items :=
  @collapseBehind_eq_self _ _ _ _ _ [] short (by simp)

theorem hasShortRuns_flushRun (positive : 0 < least)
    (markIsShort : holds mark = true → 2 ≤ least) :
    HasShortRuns holds least (flushRun least mark run) := by
  intro part isPart allHold
  rw [flushRun] at isPart
  have atMost := isPart.length_le
  by_cases long : least ≤ run.length
  · rw [if_pos long] at isPart atMost
    cases part with
    | nil => exact positive
    | cons item others =>
        have isMark : item = mark :=
          List.mem_singleton.mp (isPart.subset List.mem_cons_self)
        have held := markIsShort (isMark ▸ allHold item List.mem_cons_self)
        exact Nat.lt_of_le_of_lt atMost held
  · rw [if_neg long] at atMost
    omega

/-- A collapsed list has short runs, unless the mark alone is a run that would be
replaced. -/
theorem hasShortRuns_collapseBehind (positive : 0 < least)
    (markIsShort : holds mark = true → 2 ≤ least) :
    HasShortRuns holds least (collapseBehind holds least mark run items) := by
  have flushed : ∀ run, HasShortRuns holds least (flushRun least mark run) :=
    fun _ => hasShortRuns_flushRun positive markIsShort
  induction items generalizing run with
  | nil => exact flushed run
  | cons item rest inductionHypothesis =>
      rw [collapseBehind]
      cases held : holds item with
      | true =>
          rw [if_pos rfl]
          exact inductionHypothesis
      | false =>
          rw [if_neg Bool.false_ne_true]
          exact (hasShortRuns_append_cons held).mpr
            ⟨flushed run, inductionHypothesis⟩

theorem hasShortRuns_collapse (positive : 0 < least)
    (markIsShort : holds mark = true → 2 ≤ least) (items : List Item) :
    HasShortRuns holds least (collapse holds least mark items) :=
  hasShortRuns_collapseBehind positive markIsShort

theorem mem_flushRun {item : Item} (isItem : item ∈ flushRun least mark run) :
    item = mark ∨ item ∈ run := by
  rw [flushRun] at isItem
  by_cases long : least ≤ run.length
  · rw [if_pos long, List.mem_singleton] at isItem
    exact Or.inl isItem
  · rw [if_neg long] at isItem
    exact Or.inr isItem

theorem mem_collapseBehind {item : Item}
    (isItem : item ∈ collapseBehind holds least mark run items) :
    item = mark ∨ item ∈ run ∨ item ∈ items := by
  induction items generalizing run with
  | nil =>
      rcases mem_flushRun isItem with isMark | inRun
      · exact Or.inl isMark
      · exact Or.inr (Or.inl inRun)
  | cons first rest inductionHypothesis =>
      rw [collapseBehind] at isItem
      by_cases held : holds first = true
      · rw [if_pos held] at isItem
        have cases := inductionHypothesis isItem
        rw [List.mem_append, List.mem_singleton] at cases
        rw [List.mem_cons]
        tauto
      · rw [if_neg held, List.mem_append, List.mem_cons] at isItem
        rw [List.mem_cons]
        rcases isItem with flushed | isFirst | isOther
        · have either := mem_flushRun flushed
          tauto
        · exact Or.inr (Or.inr (Or.inl isFirst))
        · have either := inductionHypothesis isOther
          rw [List.mem_nil_iff] at either
          tauto

/-- Collapsing brings in nothing but the mark. -/
theorem mem_collapse {item : Item}
    (isItem : item ∈ collapse holds least mark items) :
    item = mark ∨ item ∈ items := by
  rcases mem_collapseBehind isItem with isMark | inNothing | isOld
  · exact Or.inl isMark
  · cases inNothing
  · exact Or.inr isOld

theorem length_collapseBehind_le (positive : 0 < least) :
    (collapseBehind holds least mark run items).length ≤
      run.length + items.length := by
  have flushed : ∀ run : List Item,
      (flushRun least mark run).length ≤ run.length := by
    intro run
    rw [flushRun]
    by_cases long : least ≤ run.length
    · rw [if_pos long]
      exact Nat.le_trans positive long
    · rw [if_neg long]
  induction items generalizing run with
  | nil => exact flushed run
  | cons first rest inductionHypothesis =>
      rw [collapseBehind]
      by_cases held : holds first = true
      · have inner := @inductionHypothesis (run ++ [first])
        rw [List.length_append, List.length_singleton] at inner
        rw [if_pos held, List.length_cons]
        omega
      · have inner := @inductionHypothesis []
        have atMost := flushed run
        rw [List.length_nil] at inner
        rw [if_neg held, List.length_append, List.length_cons,
          List.length_cons]
        omega

theorem length_collapse_le (positive : 0 < least) :
    (collapse holds least mark items).length ≤ items.length :=
  Nat.le_trans (length_collapseBehind_le positive)
    (Nat.le_of_eq (Nat.zero_add _))

end

end RtsNotebook.Library
