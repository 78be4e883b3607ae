import Mathlib.Tactic.Linarith
import Mathlib.Tactic.Ring

/-!
# Boxes laid out in a plane

Boxes of known sizes are given places, one after the other: in a *stack*, each
below the last one, or in a *flow*, from left to right in rows, where a box
that passes the limit of a row that is not empty opens the next row.  The
vertical axis points down.

A placed box takes up a closed rectangle.  A stack or a flow with a positive
gap keeps its rectangles apart, and both stay inside the bounds that their
ends report.  The end of either one moves with its start.
-/

namespace RtsNotebook.Library

/-- The size of a box. -/
structure Box (α : Type*) where
  width : α
  height : α

/-- A box at a place, by its upper left corner. -/
@[ext]
structure Rect (α : Type*) where
  x : α
  y : α
  width : α
  height : α
  deriving DecidableEq

/-- The rectangle of a box with its upper left corner at a point. -/
def Box.rectAt {α : Type*} (box : Box α) (x y : α) : Rect α where
  x := x
  y := y
  width := box.width
  height := box.height

/-- The rectangle at some distance from its place. -/
def Rect.moved {α : Type*} [Add α] (right down : α) (rect : Rect α) :
    Rect α where
  x := rect.x + right
  y := rect.y + down
  width := rect.width
  height := rect.height

/-- An item at the place that it is given. -/
structure Spot (ι α : Type*) where
  item : ι
  x : α
  y : α

namespace Spot

variable {ι α : Type*}

/-- The rectangle that the item takes up at its place. -/
def rect (size : ι → Box α) (spot : Spot ι α) : Rect α :=
  (size spot.item).rectAt spot.x spot.y

/-- The item at some distance from its place. -/
def moved [Add α] (right down : α) (spot : Spot ι α) : Spot ι α where
  item := spot.item
  x := spot.x + right
  y := spot.y + down

end Spot

section

variable {α : Type*} [CommRing α] [LinearOrder α]

namespace Rect

/-- The point lies in the rectangle or on its border. -/
def Covers (rect : Rect α) (x y : α) : Prop :=
  (rect.x ≤ x ∧ x ≤ rect.x + rect.width) ∧
    (rect.y ≤ y ∧ y ≤ rect.y + rect.height)

/-- The rectangles have a point in common. -/
def Meets (first second : Rect α) : Prop :=
  ∃ x y, first.Covers x y ∧ second.Covers x y

/-- No side of the first rectangle leaves the second one. -/
def Inside (inner outer : Rect α) : Prop :=
  (outer.x ≤ inner.x ∧ inner.x + inner.width ≤ outer.x + outer.width) ∧
    (outer.y ≤ inner.y ∧ inner.y + inner.height ≤ outer.y + outer.height)

instance (inner outer : Rect α) : Decidable (inner.Inside outer) :=
  inferInstanceAs (Decidable (_ ∧ _))

theorem Meets.symm {first second : Rect α} (meets : first.Meets second) :
    second.Meets first := by
  obtain ⟨x, y, inFirst, inSecond⟩ := meets
  exact ⟨x, y, inSecond, inFirst⟩

theorem not_meets_of_left
    {first second : Rect α} (left : first.x + first.width < second.x) :
    ¬ first.Meets second := by
  intro meets
  obtain ⟨x, y, ⟨⟨-, before⟩, -⟩, ⟨after, -⟩, -⟩ := meets
  exact absurd (before.trans_lt left) (not_lt.mpr after)

theorem not_meets_of_above
    {first second : Rect α} (above : first.y + first.height < second.y) :
    ¬ first.Meets second := by
  intro meets
  obtain ⟨x, y, ⟨-, -, before⟩, -, after, -⟩ := meets
  exact absurd (before.trans_lt above) (not_lt.mpr after)

end Rect

end

/-! ### Stacks -/

section

variable {α ι : Type*} [CommRing α]

/-- The items below each other, the first one at the top. -/
def stack (left gap : α) (size : ι → Box α) :
    α → List ι → List (Spot ι α)
  | _, [] => []
  | top, item :: rest =>
      ⟨item, left, top⟩ ::
        stack left gap size (top + (size item).height + gap) rest

/-- Where the item after the last one of a stack would be put. -/
def stackEnd (gap : α) (size : ι → Box α) : α → List ι → α
  | top, [] => top
  | top, item :: rest =>
      stackEnd gap size (top + (size item).height + gap) rest

@[simp]
theorem items_stack
    (left gap : α) (size : ι → Box α) (top : α) (items : List ι) :
    (stack left gap size top items).map Spot.item = items := by
  induction items generalizing top with
  | nil =>
      rfl
  | cons item rest inductionHypothesis =>
      rw [stack, List.map_cons, inductionHypothesis]

theorem x_of_mem_stack
    {left gap top : α} {size : ι → Box α} {items : List ι} {spot : Spot ι α}
    (member : spot ∈ stack left gap size top items) : spot.x = left := by
  induction items generalizing top with
  | nil =>
      simp [stack] at member
  | cons item rest inductionHypothesis =>
      rw [stack, List.mem_cons] at member
      rcases member with rfl | later
      · rfl
      · exact inductionHypothesis later

theorem stackEnd_map
    {κ : Type*} (gap : α) (size : κ → Box α) (part : ι → κ) (top : α)
    (items : List ι) :
    stackEnd gap size top (items.map part) =
      stackEnd gap (fun item => size (part item)) top items := by
  induction items generalizing top with
  | nil =>
      rfl
  | cons item rest inductionHypothesis =>
      exact inductionHypothesis _

/-- The end of a stack moves with its top. -/
theorem stackEnd_add
    (gap : α) (size : ι → Box α) (top distance : α) (items : List ι) :
    stackEnd gap size (top + distance) items =
      stackEnd gap size top items + distance := by
  induction items generalizing top with
  | nil =>
      rfl
  | cons item rest inductionHypothesis =>
      rw [stackEnd, stackEnd, ← inductionHypothesis]
      congr 1
      ring

/-- A stack moves with its start. -/
theorem stack_moved
    (left gap : α) (size : ι → Box α) (top right down : α) (items : List ι) :
    stack (left + right) gap size (top + down) items =
      (stack left gap size top items).map (Spot.moved right down) := by
  induction items generalizing top with
  | nil =>
      rfl
  | cons item rest inductionHypothesis =>
      have next :
          top + down + (size item).height + gap =
            top + (size item).height + gap + down := by
        ring
      rw [stack, stack, List.map_cons, next, inductionHypothesis]
      rfl

end

section

variable {α ι : Type*} [CommRing α] [LinearOrder α] [IsStrictOrderedRing α]
variable {left limit gap : α} {size : ι → Box α}

theorem le_stackEnd
    (gap_nonneg : 0 ≤ gap) (top : α) {items : List ι}
    (heights : ∀ item ∈ items, 0 ≤ (size item).height) :
    top ≤ stackEnd gap size top items := by
  induction items generalizing top with
  | nil =>
      exact le_refl top
  | cons item rest inductionHypothesis =>
      rw [List.forall_mem_cons] at heights
      have further :=
        inductionHypothesis (top + (size item).height + gap) heights.2
      have height := heights.1
      rw [stackEnd]
      linarith

theorem top_le_of_mem_stack
    (gap_nonneg : 0 ≤ gap) (heights : ∀ item, 0 ≤ (size item).height)
    {top : α} {items : List ι} {spot : Spot ι α}
    (member : spot ∈ stack left gap size top items) : top ≤ spot.y := by
  induction items generalizing top with
  | nil =>
      simp [stack] at member
  | cons item rest inductionHypothesis =>
      rw [stack, List.mem_cons] at member
      rcases member with rfl | later
      · exact le_refl top
      · have below := inductionHypothesis later
        have height := heights item
        linarith

/-- Every item ends a gap above the end of the stack. -/
theorem bottom_le_stackEnd
    (gap_nonneg : 0 ≤ gap) (heights : ∀ item, 0 ≤ (size item).height)
    {top : α} {items : List ι} {spot : Spot ι α}
    (member : spot ∈ stack left gap size top items) :
    spot.y + (size spot.item).height + gap ≤ stackEnd gap size top items := by
  induction items generalizing top with
  | nil =>
      simp [stack] at member
  | cons item rest inductionHypothesis =>
      rw [stack, List.mem_cons] at member
      rw [stackEnd]
      rcases member with rfl | later
      · exact le_stackEnd gap_nonneg _ fun item _ => heights item
      · exact inductionHypothesis later

/-- The items of a stack with a gap do not touch each other. -/
theorem pairwise_stack
    (gap_pos : 0 < gap) (heights : ∀ item, 0 ≤ (size item).height)
    (top : α) (items : List ι) :
    (stack left gap size top items).Pairwise fun first second =>
      ¬ (first.rect size).Meets (second.rect size) := by
  induction items generalizing top with
  | nil =>
      exact List.Pairwise.nil
  | cons item rest inductionHypothesis =>
      rw [stack, List.pairwise_cons]
      refine ⟨fun spot later => ?_, inductionHypothesis _⟩
      apply Rect.not_meets_of_above
      have below := top_le_of_mem_stack gap_pos.le heights later
      change top + (size item).height < spot.y
      linarith

end

/-! ### Flows -/

/-- Where the next item of a flow would be put, and the height of its row
so far. -/
structure Cursor (α : Type*) where
  x : α
  y : α
  rowHeight : α

namespace Cursor

variable {α : Type*} [CommRing α] [LinearOrder α]

/-- The box passes the limit in a row that is not empty. -/
def Wraps (left limit : α) (cursor : Cursor α) (box : Box α) : Prop :=
  limit < cursor.x + box.width ∧ cursor.x ≠ left

instance (left limit : α) (cursor : Cursor α) (box : Box α) :
    Decidable (cursor.Wraps left limit box) :=
  inferInstanceAs (Decidable (_ ∧ _))

/-- Open the next row for a box that wraps. -/
def settle (left limit gap : α) (cursor : Cursor α) (box : Box α) :
    Cursor α :=
  if cursor.Wraps left limit box then
    ⟨left, cursor.y + (cursor.rowHeight + gap), 0⟩
  else
    cursor

/-- Pass a box that is put at the cursor. -/
def advance (gap : α) (cursor : Cursor α) (box : Box α) : Cursor α where
  x := cursor.x + (box.width + gap)
  y := cursor.y
  rowHeight := max cursor.rowHeight box.height

/-- The cursor as far from another origin. -/
def moved (right down : α) (cursor : Cursor α) : Cursor α where
  x := cursor.x + right
  y := cursor.y + down
  rowHeight := cursor.rowHeight

/-- The rectangle lies to the right of the cursor in its row, or in a row
that comes later. -/
def Ahead (gap : α) (cursor : Cursor α) (rect : Rect α) : Prop :=
  (rect.y = cursor.y ∧ cursor.x ≤ rect.x) ∨
    cursor.y + cursor.rowHeight + gap ≤ rect.y

/-- The lower border of the row. -/
def bottom (cursor : Cursor α) : α :=
  cursor.y + cursor.rowHeight

variable {left limit gap : α}

theorem advance_moved
    (right down : α) (cursor : Cursor α) (box : Box α) :
    (cursor.moved right down).advance gap box =
      (cursor.advance gap box).moved right down := by
  simp only [advance, moved, mk.injEq, and_true]
  ring

theorem left_le_settle
    {cursor : Cursor α} (start : left ≤ cursor.x) (box : Box α) :
    left ≤ (cursor.settle left limit gap box).x := by
  unfold settle
  split
  · exact le_refl left
  · exact start

/-- A box that is put after the cursor has settled passes the limit only
where it opens its row. -/
theorem settle_fits (cursor : Cursor α) (box : Box α) :
    (cursor.settle left limit gap box).x + box.width ≤ limit ∨
      (cursor.settle left limit gap box).x = left := by
  unfold settle
  split
  case isTrue wraps =>
    exact Or.inr rfl
  case isFalse stays =>
    by_cases first : cursor.x = left
    · exact Or.inr first
    · exact Or.inl (not_lt.mp fun passes => stays ⟨passes, first⟩)

end Cursor

section

variable {α : Type*} [CommRing α] [LinearOrder α]
variable {ι : Type*}

/-- The items from left to right in rows, the first one at the cursor. -/
def flow (left limit gap : α) (size : ι → Box α) :
    Cursor α → List ι → List (Spot ι α)
  | _, [] => []
  | cursor, item :: rest =>
      let settled := cursor.settle left limit gap (size item)
      ⟨item, settled.x, settled.y⟩ ::
        flow left limit gap size (settled.advance gap (size item)) rest

/-- The cursor after the last item of a flow. -/
def flowEnd (left limit gap : α) (size : ι → Box α) :
    Cursor α → List ι → Cursor α
  | cursor, [] => cursor
  | cursor, item :: rest =>
      let settled := cursor.settle left limit gap (size item)
      flowEnd left limit gap size (settled.advance gap (size item)) rest

@[simp]
theorem items_flow
    (left limit gap : α) (size : ι → Box α) (cursor : Cursor α)
    (items : List ι) :
    (flow left limit gap size cursor items).map Spot.item = items := by
  induction items generalizing cursor with
  | nil =>
      rfl
  | cons item rest inductionHypothesis =>
      rw [flow, List.map_cons, inductionHypothesis]

theorem flowEnd_map
    {κ : Type*} (left limit gap : α) (size : κ → Box α) (part : ι → κ)
    (cursor : Cursor α) (items : List ι) :
    flowEnd left limit gap size cursor (items.map part) =
      flowEnd left limit gap (fun item => size (part item)) cursor items := by
  induction items generalizing cursor with
  | nil =>
      rfl
  | cons item rest inductionHypothesis =>
      exact inductionHypothesis _

/-- An item of a flow ends before the limit or opens a row. -/
theorem fits_of_mem_flow
    {left limit gap : α} {size : ι → Box α}
    {cursor : Cursor α} {items : List ι} {spot : Spot ι α}
    (member : spot ∈ flow left limit gap size cursor items) :
    spot.x + (size spot.item).width ≤ limit ∨ spot.x = left := by
  induction items generalizing cursor with
  | nil =>
      simp [flow] at member
  | cons item rest inductionHypothesis =>
      rw [flow, List.mem_cons] at member
      rcases member with rfl | later
      · exact Cursor.settle_fits cursor (size item)
      · exact inductionHypothesis later

end

section

variable {α ι : Type*} [CommRing α] [LinearOrder α] [IsStrictOrderedRing α]
variable {left limit gap : α} {size : ι → Box α}

namespace Cursor

theorem wraps_moved
    (right down : α) (cursor : Cursor α) (box : Box α) :
    (cursor.moved right down).Wraps (left + right) (limit + right) box ↔
      cursor.Wraps left limit box := by
  unfold Wraps moved
  apply and_congr
  · constructor <;> intro passes <;> linarith
  · exact not_congr (add_left_inj right)

theorem settle_moved
    (right down : α) (cursor : Cursor α) (box : Box α) :
    (cursor.moved right down).settle (left + right) (limit + right) gap box =
      (cursor.settle left limit gap box).moved right down := by
  unfold settle
  by_cases wraps : cursor.Wraps left limit box
  · rw [if_pos ((wraps_moved right down cursor box).mpr wraps),
      if_pos wraps]
    simp only [moved, mk.injEq, true_and, and_true]
    ring
  · rw [if_neg (mt (wraps_moved right down cursor box).mp wraps),
      if_neg wraps]

theorem bottom_le_settle
    (gap_nonneg : 0 ≤ gap) (cursor : Cursor α) (box : Box α) :
    cursor.bottom ≤ (cursor.settle left limit gap box).bottom := by
  unfold settle bottom
  split
  · change cursor.y + cursor.rowHeight ≤
      cursor.y + (cursor.rowHeight + gap) + 0
    linarith
  · exact le_refl _

theorem bottom_le_advance (cursor : Cursor α) (box : Box α) :
    cursor.bottom ≤ (cursor.advance gap box).bottom :=
  add_le_add_right (le_max_left _ _) _

theorem ahead_of_settle
    (gap_nonneg : 0 ≤ gap) {cursor : Cursor α} {box : Box α} {rect : Rect α}
    (ahead : (cursor.settle left limit gap box).Ahead gap rect) :
    cursor.Ahead gap rect := by
  unfold settle at ahead
  split at ahead
  · apply Or.inr
    rcases ahead with ⟨row, -⟩ | later
    · simp only at row
      linarith
    · simp only at later
      linarith
  · exact ahead

theorem ahead_of_advance
    (gap_nonneg : 0 ≤ gap) {cursor : Cursor α} {box : Box α} {rect : Rect α}
    (width : 0 ≤ box.width) (ahead : (cursor.advance gap box).Ahead gap rect) :
    cursor.Ahead gap rect := by
  rcases ahead with ⟨row, right⟩ | later
  · apply Or.inl
    simp only [advance] at row right
    exact ⟨row, by linarith⟩
  · apply Or.inr
    simp only [advance] at later
    have grows := le_max_left cursor.rowHeight box.height
    linarith

/-- What lies ahead of the cursor that has passed a box does not touch the
box. -/
theorem not_meets_of_ahead
    (gap_pos : 0 < gap) {cursor : Cursor α} {box : Box α} {rect : Rect α}
    (ahead : (cursor.advance gap box).Ahead gap rect) :
    ¬ (box.rectAt cursor.x cursor.y).Meets rect := by
  rcases ahead with ⟨-, right⟩ | later
  · apply Rect.not_meets_of_left
    simp only [advance] at right
    simp only [Box.rectAt]
    linarith
  · apply Rect.not_meets_of_above
    simp only [advance] at later
    simp only [Box.rectAt]
    have tall := le_max_right cursor.rowHeight box.height
    linarith

end Cursor

/-- The end of a flow moves with its start. -/
theorem flowEnd_moved
    (right down : α) (cursor : Cursor α) (items : List ι) :
    flowEnd (left + right) (limit + right) gap size
        (cursor.moved right down) items =
      (flowEnd left limit gap size cursor items).moved right down := by
  induction items generalizing cursor with
  | nil =>
      rfl
  | cons item rest inductionHypothesis =>
      rw [flowEnd, flowEnd, Cursor.settle_moved, Cursor.advance_moved]
      exact inductionHypothesis _

/-- A flow moves with its start. -/
theorem flow_moved
    (right down : α) (cursor : Cursor α) (items : List ι) :
    flow (left + right) (limit + right) gap size (cursor.moved right down)
        items =
      (flow left limit gap size cursor items).map
        (Spot.moved right down) := by
  induction items generalizing cursor with
  | nil =>
      rfl
  | cons item rest inductionHypothesis =>
      rw [flow, flow, List.map_cons, Cursor.settle_moved,
        Cursor.advance_moved, inductionHypothesis]
      rfl

theorem bottom_le_flowEnd
    (gap_nonneg : 0 ≤ gap) (cursor : Cursor α) (items : List ι) :
    cursor.bottom ≤ (flowEnd left limit gap size cursor items).bottom := by
  induction items generalizing cursor with
  | nil =>
      exact le_refl _
  | cons item rest inductionHypothesis =>
      rw [flowEnd]
      exact
        ((Cursor.bottom_le_settle gap_nonneg cursor (size item)).trans
          (Cursor.bottom_le_advance _ _)).trans (inductionHypothesis _)

theorem left_le_of_mem_flow
    (gap_nonneg : 0 ≤ gap) (widths : ∀ item, 0 ≤ (size item).width)
    {cursor : Cursor α} (start : left ≤ cursor.x)
    {items : List ι} {spot : Spot ι α}
    (member : spot ∈ flow left limit gap size cursor items) :
    left ≤ spot.x := by
  induction items generalizing cursor with
  | nil =>
      simp [flow] at member
  | cons item rest inductionHypothesis =>
      have settled :
          left ≤ (cursor.settle left limit gap (size item)).x :=
        Cursor.left_le_settle start (size item)
      rw [flow, List.mem_cons] at member
      rcases member with rfl | later
      · exact settled
      · refine inductionHypothesis ?_ later
        have width := widths item
        simp only [Cursor.advance]
        linarith

/-- Every item ends above the lower border of the last row. -/
theorem bottom_le_of_mem_flow
    (gap_nonneg : 0 ≤ gap)
    {cursor : Cursor α} {items : List ι} {spot : Spot ι α}
    (member : spot ∈ flow left limit gap size cursor items) :
    spot.y + (size spot.item).height ≤
      (flowEnd left limit gap size cursor items).bottom := by
  induction items generalizing cursor with
  | nil =>
      simp [flow] at member
  | cons item rest inductionHypothesis =>
      rw [flow, List.mem_cons] at member
      rw [flowEnd]
      rcases member with rfl | later
      · refine le_trans ?_ (bottom_le_flowEnd gap_nonneg _ rest)
        exact add_le_add_right (le_max_right _ _) _
      · exact inductionHypothesis later

theorem ahead_of_mem_flow
    (gap_nonneg : 0 ≤ gap) (widths : ∀ item, 0 ≤ (size item).width)
    {cursor : Cursor α} {items : List ι} {spot : Spot ι α}
    (member : spot ∈ flow left limit gap size cursor items) :
    cursor.Ahead gap (spot.rect size) := by
  induction items generalizing cursor with
  | nil =>
      simp [flow] at member
  | cons item rest inductionHypothesis =>
      rw [flow, List.mem_cons] at member
      have settled :
          (cursor.settle left limit gap (size item)).Ahead gap
            (spot.rect size) := by
        rcases member with rfl | later
        · exact Or.inl ⟨rfl, le_refl _⟩
        · exact Cursor.ahead_of_advance gap_nonneg (widths item)
            (inductionHypothesis later)
      exact Cursor.ahead_of_settle gap_nonneg settled

theorem top_le_of_mem_flow
    (gap_nonneg : 0 ≤ gap) (widths : ∀ item, 0 ≤ (size item).width)
    {cursor : Cursor α} (row : 0 ≤ cursor.rowHeight)
    {items : List ι} {spot : Spot ι α}
    (member : spot ∈ flow left limit gap size cursor items) :
    cursor.y ≤ spot.y := by
  rcases ahead_of_mem_flow gap_nonneg widths member with ⟨same, -⟩ | later
  · exact same.ge
  · change cursor.y + cursor.rowHeight + gap ≤ spot.y at later
    linarith

/-- The items of a flow with a gap do not touch each other. -/
theorem pairwise_flow
    (gap_pos : 0 < gap) (widths : ∀ item, 0 ≤ (size item).width)
    (cursor : Cursor α) (items : List ι) :
    (flow left limit gap size cursor items).Pairwise fun first second =>
      ¬ (first.rect size).Meets (second.rect size) := by
  induction items generalizing cursor with
  | nil =>
      exact List.Pairwise.nil
  | cons item rest inductionHypothesis =>
      rw [flow, List.pairwise_cons]
      refine ⟨fun spot later => ?_, inductionHypothesis _⟩
      exact Cursor.not_meets_of_ahead gap_pos
        (ahead_of_mem_flow gap_pos.le widths later)

end

end RtsNotebook.Library
