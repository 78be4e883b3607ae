import RtsNotebook.Webviews.MapPlaces

/-!
# Siblings in the map view

The children of a node are stacked with a gap, or flow in rows with a gap, so
their rectangles have no point in common.
-/

namespace RtsNotebook.Webviews.MapView

open RtsNotebook.Library RtsNotebook.Js

/-- No two children of one node have rectangles that meet. -/
def SiblingsApart (tree : LayoutNode) (positions : Positions) : Prop :=
  ∀ parent ∈ indexNodes tree, ∀ first ∈ parent.children,
    ∀ second ∈ parent.children, first ≠ second →
      ∀ firstPos secondPos,
        positions.get first.id = some firstPos →
          positions.get second.id = some secondPos →
            ¬ firstPos.Meets secondPos

theorem le_widest {ι : Type*} (size : ι → Box ℚ) (width : ℚ)
    (items : List ι) : width ≤ widest size width items := by
  induction items generalizing width with
  | nil =>
      exact le_refl width
  | cons item rest inductionHypothesis =>
      rw [widest]
      exact (le_max_left width (size item).width).trans
        (inductionHypothesis _)

theorem le_innerWidth (availableWidth : ℚ) : 120 ≤ innerWidth availableWidth :=
  le_max_left 120 _

theorem containerBox_nonneg {ι : Type*} (type : NodeType) (availableWidth : ℚ)
    {size : ι → Box ℚ} {items : List ι}
    (heights : ∀ item ∈ items, 0 ≤ (size item).height) :
    0 ≤ (containerBox type availableWidth size items).width ∧
      0 ≤ (containerBox type availableWidth size items).height := by
  have inner := le_innerWidth availableWidth
  have wide := le_widest size (innerWidth availableWidth) items
  have gap_nonneg : (0 : ℚ) ≤ PADDING / 2 := by
    norm_num [PADDING]
  have stacked :=
    le_stackEnd gap_nonneg (NODE_HEIGHT_DEFAULT + PADDING / 2) heights
  have flowed :
      (zoneStart 0 0).bottom ≤
        (flowEnd PADDING (innerWidth availableWidth + PADDING) (PADDING / 2)
          size (zoneStart 0 0) items).bottom :=
    bottom_le_flowEnd gap_nonneg (zoneStart 0 0) items
  rw [Cursor.bottom] at flowed
  simp only [zoneStart, PADDING, NODE_HEIGHT_DEFAULT] at stacked flowed
  cases type with
  | workspace =>
      simp only [containerBox, PADDING, NODE_HEIGHT_DEFAULT]
      exact ⟨by linarith, le_max_of_le_left (by norm_num)⟩
  | zone =>
      simp only [containerBox, zoneStart, PADDING, NODE_HEIGHT_DEFAULT]
      exact ⟨by linarith, by linarith⟩
  | _ =>
      simp only [containerBox, PADDING, NODE_HEIGHT_DEFAULT]
      exact ⟨by linarith, by linarith⟩

/-- No node has a negative extent. -/
theorem box_nonneg (node : LayoutNode) (availableWidth : ℚ) :
    0 ≤ (box node availableWidth).width ∧
      0 ≤ (box node availableWidth).height := by
  induction node using LayoutNode.induction generalizing availableWidth with
  | step node inductionHypothesis =>
      by_cases leaf : IsLeaf node
      · rw [box_of_leaf leaf, leafBox]
        split <;> norm_num [FILE_WIDTH, FILE_HEIGHT, NODE_HEIGHT_DEFAULT]
      · rw [box_of_container leaf]
        exact containerBox_nonneg _ _ fun child isChild =>
          (inductionHypothesis child isChild _).2

theorem pairwise_children (placement : Placement) :
    placement.children.Pairwise fun first second =>
      ¬ first.rect.Meets second.rect := by
  have widths := fun child =>
    (box_nonneg child
      (offeredWidth placement.node.type placement.availableWidth)).1
  have heights := fun child =>
    (box_nonneg child
      (offeredWidth placement.node.type placement.availableWidth)).2
  have gap_pos : (0 : ℚ) < PADDING / 2 := by norm_num [PADDING]
  rw [Placement.children, List.pairwise_map]
  obtain ⟨⟨id, type, renderHints, children⟩, x, y, availableWidth⟩ := placement
  cases type with
  | file =>
      exact List.Pairwise.nil
  | zone =>
      exact pairwise_flow gap_pos widths (zoneStart x y) children
  | _ =>
      exact pairwise_stack gap_pos heights _ children

/-- The rectangles of two different children of a placed node do not meet. -/
theorem not_meets_of_children {placement first second : Placement}
    (isFirst : first ∈ placement.children)
    (isSecond : second ∈ placement.children)
    (different : first ≠ second) : ¬ first.rect.Meets second.rect := by
  have symmetric :
      Std.Symm fun one other : Placement => ¬ one.rect.Meets other.rect :=
    ⟨fun _ _ apart meets => apart meets.symm⟩
  exact (pairwise_children placement).forall isFirst isSecond different

theorem layoutTree_siblings_apart {tree : LayoutNode}
    (unique : UniqueIds tree) (noHints : NoHints tree)
    (x y availableWidth : ℚ) :
    SiblingsApart tree
      (layoutTree tree x y availableWidth .empty).positions := by
  intro parent isNode first isFirst second isSecond different firstPos
    secondPos foundFirst foundSecond
  have entryFirst :=
    (get_layoutTree_iff unique noHints x y availableWidth _ _).mp foundFirst
  have entrySecond :=
    (get_layoutTree_iff unique noHints x y availableWidth _ _).mp foundSecond
  obtain ⟨placement, placed, rfl, notFile⟩ :=
    exists_placed_parent unique isNode isFirst entryFirst
  obtain ⟨one, isOne, rfl⟩ :=
    (exists_placed_child_iff placement first).mpr ⟨notFile, isFirst⟩
  obtain ⟨other, isOther, rfl⟩ :=
    (exists_placed_child_iff placement second).mpr ⟨notFile, isSecond⟩
  rw [eq_rect_of_entry unique noHints (placed.tail isOne) entryFirst,
    eq_rect_of_entry unique noHints (placed.tail isOther) entrySecond]
  apply not_meets_of_children isOne isOther
  intro same
  exact different (congrArg Placement.node same)

/-- A zone whose second file does not fit into the first row. -/
def wrappingTree : LayoutNode :=
  ⟨js "desk", .workspace, none,
    [⟨js "inbox", .zone, none,
      [⟨js "a.ts", .file, none, []⟩, ⟨js "b.ts", .file, none, []⟩]⟩]⟩

theorem wrappingTree_siblings_apart :
    SiblingsApart wrappingTree
      (layoutTree wrappingTree 12 12 200 .empty).positions :=
  layoutTree_siblings_apart (by decide) (by decide) 12 12 200

example :
    (layoutTree wrappingTree 12 12 200 .empty).positions.get (js "b.ts") =
      some ⟨36, 110, 96, 24⟩ := by
  decide +kernel

end RtsNotebook.Webviews.MapView
