import Mathlib.Data.List.TakeWhile

/-!
# Lines of a stream

A stream of items is cut into lines at a mark.  Cutting looks at the items up
to the first mark only, so it gives the same line however the stream is cut
into the pieces that arrive.
-/

namespace RtsNotebook.Library

section Cutting

variable {Item : Type} [DecidableEq Item] {mark : Item}
  {line rest items : List Item}

/-- The line before the first mark, and what follows the mark. -/
def cutAt (mark : Item) : List Item → Option (List Item × List Item)
  | [] => none
  | item :: items =>
      if item = mark then
        some ([], items)
      else
        (cutAt mark items).map fun (line, rest) => (item :: line, rest)

theorem cutAt_eq_some_iff :
    cutAt mark items = some (line, rest) ↔
      items = line ++ mark :: rest ∧ mark ∉ line := by
  induction items generalizing line with
  | nil =>
      simp [cutAt]
  | cons item items inductionHypothesis =>
      by_cases isMark : item = mark
      · rw [cutAt, if_pos isMark]
        constructor
        · intro cut
          cases cut
          exact ⟨by rw [isMark]; rfl, List.not_mem_nil⟩
        · rintro ⟨equality, notMember⟩
          cases line with
          | nil =>
              cases equality
              rfl
          | cons first line =>
              injection equality with firstEq _
              exact absurd (by rw [← isMark, firstEq]; exact List.mem_cons_self)
                notMember
      · rw [cutAt, if_neg isMark]
        constructor
        · intro cut
          obtain ⟨⟨tail, tailRest⟩, cutTail, equality⟩ :=
            Option.map_eq_some_iff.mp cut
          cases equality
          obtain ⟨itemsEq, notMember⟩ := inductionHypothesis.mp cutTail
          refine ⟨by rw [itemsEq]; rfl, ?_⟩
          simp [Ne.symm isMark, notMember]
        · rintro ⟨equality, notMember⟩
          cases line with
          | nil =>
              injection equality with firstEq _
              exact absurd firstEq isMark
          | cons first line =>
              injection equality with firstEq itemsEq
              have tail := inductionHypothesis.mpr
                ⟨itemsEq, fun member =>
                  notMember (List.mem_cons_of_mem _ member)⟩
              rw [tail, firstEq]
              rfl

theorem cutAt_line (notMember : mark ∉ line) (rest : List Item) :
    cutAt mark (line ++ mark :: rest) = some (line, rest) :=
  cutAt_eq_some_iff.mpr ⟨rfl, notMember⟩

theorem cutAt_eq_none_iff : cutAt mark items = none ↔ mark ∉ items := by
  induction items with
  | nil =>
      simp [cutAt]
  | cons item items inductionHypothesis =>
      by_cases isMark : item = mark
      · simp [cutAt, isMark]
      · simp [cutAt, isMark, Ne.symm isMark, inductionHypothesis]

theorem cutAt_length (cut : cutAt mark items = some (line, rest)) :
    rest.length < items.length := by
  rw [(cutAt_eq_some_iff.mp cut).1, List.length_append, List.length_cons]
  omega

theorem cutAt_append (cut : cutAt mark items = some (line, rest))
    (more : List Item) :
    cutAt mark (items ++ more) = some (line, rest ++ more) := by
  obtain ⟨equality, notMember⟩ := cutAt_eq_some_iff.mp cut
  rw [equality, List.append_assoc]
  exact cutAt_line notMember _

/-! ### All complete lines -/

/-- The complete lines, the first of which has already begun. -/
def linesFrom (mark : Item) (begun : List Item) :
    List Item → List (List Item)
  | [] => []
  | item :: items =>
      if item = mark then
        begun :: linesFrom mark [] items
      else
        linesFrom mark (begun ++ [item]) items

/-- The complete lines of a stream; what follows the last mark is none. -/
def lines (mark : Item) (items : List Item) : List (List Item) :=
  linesFrom mark [] items

theorem linesFrom_line (begun : List Item) (notMember : mark ∉ line) :
    linesFrom mark begun (line ++ mark :: rest) =
      (begun ++ line) :: lines mark rest := by
  induction line generalizing begun with
  | nil =>
      simp [linesFrom, lines]
  | cons item line inductionHypothesis =>
      have different : item ≠ mark := fun equal =>
        notMember (equal ▸ List.mem_cons_self)
      have notInTail : mark ∉ line := fun member =>
        notMember (List.mem_cons_of_mem _ member)
      rw [List.cons_append, linesFrom, if_neg different,
        inductionHypothesis _ notInTail, List.append_assoc]
      rfl

theorem lines_line (notMember : mark ∉ line) :
    lines mark (line ++ mark :: rest) = line :: lines mark rest :=
  linesFrom_line [] notMember

theorem lines_of_cutAt (cut : cutAt mark items = some (line, rest)) :
    lines mark items = line :: lines mark rest := by
  obtain ⟨equality, notMember⟩ := cutAt_eq_some_iff.mp cut
  rw [equality]
  exact lines_line notMember

theorem length_linesFrom (begun : List Item) :
    (linesFrom mark begun items).length = items.count mark := by
  induction items generalizing begun with
  | nil =>
      rfl
  | cons item items inductionHypothesis =>
      by_cases isMark : item = mark
      · simp [linesFrom, isMark, inductionHypothesis]
      · simp [linesFrom, isMark, inductionHypothesis]

theorem length_lines : (lines mark items).length = items.count mark :=
  length_linesFrom []

theorem lines_eq_nil (notMember : mark ∉ items) : lines mark items = [] := by
  apply List.eq_nil_of_length_eq_zero
  rw [length_lines]
  exact List.count_eq_zero.mpr notMember

/-- A stream of terminated lines. -/
def terminated (mark : Item) (content : List (List Item)) : List Item :=
  content.flatMap (· ++ [mark])

omit [DecidableEq Item] in
theorem terminated_cons (first : List Item) (content : List (List Item)) :
    terminated mark (first :: content) =
      first ++ mark :: terminated mark content := by
  simp [terminated]

omit [DecidableEq Item] in
/-- What holds of the mark and in the lines holds in the stream. -/
theorem forall_mem_terminated {holds : Item → Prop} (ofMark : holds mark)
    {content : List (List Item)}
    (ofLines : ∀ line ∈ content, ∀ item ∈ line, holds item) :
    ∀ item ∈ terminated mark content, holds item := by
  intro item member
  obtain ⟨line, isLine, isPart⟩ := List.mem_flatMap.mp member
  rcases List.mem_append.mp isPart with inLine | isMark
  · exact ofLines line isLine item inLine
  · rw [List.mem_singleton.mp isMark]
    exact ofMark

/-- Terminating lines and cutting them apart gives the lines back. -/
theorem lines_terminated {content : List (List Item)}
    (notMember : ∀ line ∈ content, mark ∉ line) :
    lines mark (terminated mark content) = content := by
  induction content with
  | nil =>
      rfl
  | cons first content inductionHypothesis =>
      have firstOk : mark ∉ first := notMember first List.mem_cons_self
      have restOk : ∀ line ∈ content, mark ∉ line := fun line member =>
        notMember line (List.mem_cons_of_mem _ member)
      rw [terminated_cons, lines_line firstOk, inductionHypothesis restOk]

/-! ### What follows the last mark -/

/-- What stands after the last mark, and everything where there is none. -/
def unterminated (mark : Item) (items : List Item) : List Item :=
  (items.reverse.takeWhile (· ≠ mark)).reverse

theorem unterminated_eq_self (notMember : mark ∉ items) :
    unterminated mark items = items := by
  have allKept : ∀ item ∈ items.reverse, decide (item ≠ mark) = true := by
    intro item member
    have different : item ≠ mark := fun equal =>
      notMember (equal ▸ List.mem_reverse.mp member)
    simpa using different
  rw [unterminated, List.takeWhile_eq_self_iff.mpr allKept,
    List.reverse_reverse]

theorem unterminated_line (line rest : List Item) :
    unterminated mark (line ++ mark :: rest) = unterminated mark rest := by
  have reversed : (line ++ mark :: rest).reverse =
      rest.reverse ++ mark :: line.reverse := by
    simp
  rw [unterminated, reversed, List.takeWhile_append]
  split
  · rename_i complete
    have whole : rest.reverse.takeWhile (· ≠ mark) = rest.reverse :=
      (List.takeWhile_prefix _).eq_of_length complete
    rw [unterminated, whole]
    simp
  · rfl

/-- Induction over the lines of a stream: a stream without a mark, and a line
before the rest of the stream. -/
theorem lineInduction (mark : Item) {motive : List Item → Prop}
    (unmarked : ∀ items, mark ∉ items → motive items)
    (oneLine : ∀ line rest, mark ∉ line → motive rest →
      motive (line ++ mark :: rest))
    (items : List Item) : motive items := by
  cases cut : cutAt mark items with
  | none =>
      exact unmarked items (cutAt_eq_none_iff.mp cut)
  | some pieces =>
      obtain ⟨line, rest⟩ := pieces
      obtain ⟨equality, notMember⟩ := cutAt_eq_some_iff.mp cut
      have shorter : rest.length < items.length := cutAt_length cut
      rw [equality]
      exact oneLine line rest notMember
        (lineInduction mark unmarked oneLine rest)
termination_by items.length

theorem not_mem_unterminated (items : List Item) :
    mark ∉ unterminated mark items := by
  induction items using lineInduction mark with
  | unmarked items notMember =>
      rw [unterminated_eq_self notMember]
      exact notMember
  | oneLine line rest _ inductionHypothesis =>
      rw [unterminated_line]
      exact inductionHypothesis

/-- A stream is its complete lines and the rest. -/
theorem terminated_lines_append_unterminated (items : List Item) :
    terminated mark (lines mark items) ++ unterminated mark items =
      items := by
  induction items using lineInduction mark with
  | unmarked items notMember =>
      rw [lines_eq_nil notMember, unterminated_eq_self notMember]
      rfl
  | oneLine line rest notMember inductionHypothesis =>
      rw [lines_line notMember, unterminated_line, terminated_cons,
        List.append_assoc, List.cons_append, inductionHypothesis]

/-- The lines of a stream that begins with complete lines. -/
theorem lines_append (first second : List Item) :
    lines mark (first ++ second) =
      lines mark first ++ lines mark (unterminated mark first ++ second) := by
  induction first using lineInduction mark with
  | unmarked items notMember =>
      rw [lines_eq_nil notMember, unterminated_eq_self notMember,
        List.nil_append]
  | oneLine line rest notMember inductionHypothesis =>
      rw [List.append_assoc, List.cons_append, lines_line notMember,
        lines_line notMember, unterminated_line, inductionHypothesis,
        List.cons_append]

theorem unterminated_append (first second : List Item) :
    unterminated mark (first ++ second) =
      unterminated mark (unterminated mark first ++ second) := by
  induction first using lineInduction mark with
  | unmarked items notMember =>
      rw [unterminated_eq_self notMember]
  | oneLine line rest notMember inductionHypothesis =>
      rw [List.append_assoc, List.cons_append, unterminated_line,
        unterminated_line, inductionHypothesis]

end Cutting

end RtsNotebook.Library
