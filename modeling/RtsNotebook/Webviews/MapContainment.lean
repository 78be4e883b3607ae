import RtsNotebook.Webviews.MapSiblings

/-!
# Containment in the map view

A container never gets narrower than a least width, whatever it is offered.  A
workspace grows with its children; any other container does not, so a child
container sticks out of it where it is offered too little.  Every child lies
inside its parent exactly where no container is offered too little for the
containers among its children.
-/

namespace RtsNotebook.Webviews.MapView

open RtsNotebook.Library RtsNotebook.Js

mutual

/-- The width that a node has however little it is offered. -/
def minWidth : LayoutNode → ℚ
  | ⟨_, type, _, children⟩ =>
      if type = .file then
        FILE_WIDTH
      else if children.length = 0 then
        64
      else
        (if type = .workspace then minWidths 120 children else 120) +
          PADDING * 2

/-- The greatest of some least widths and a given width. -/
def minWidths : ℚ → List LayoutNode → ℚ
  | width, [] => width
  | width, child :: rest => minWidths (max width (minWidth child)) rest

end

/-- A container that does not grow is offered the least width of every child
container, and the padding on one side. -/
def hasRoom (type : NodeType) (children : List LayoutNode)
    (availableWidth : ℚ) : Bool :=
  match type with
  | .workspace => true
  | .file => true
  | _ =>
      children.all fun child =>
        decide (IsLeaf child ∨ minWidth child + PADDING ≤ availableWidth)

mutual

/-- Every container of the tree that is laid out has room for its children. -/
def fits : LayoutNode → ℚ → Bool
  | ⟨_, type, _, children⟩, availableWidth =>
      type = .file ||
        hasRoom type children availableWidth &&
          fitAll children (offeredWidth type availableWidth)

def fitAll : List LayoutNode → ℚ → Bool
  | [], _ => true
  | child :: rest, availableWidth =>
      fits child availableWidth && fitAll rest availableWidth

end

/-- Every child that has a rectangle has it inside the rectangle of its
parent. -/
def ChildrenInside (tree : LayoutNode) (positions : Positions) : Prop :=
  ∀ parent ∈ indexNodes tree, ∀ child ∈ parent.children,
    ∀ outer inner,
      positions.get parent.id = some outer →
        positions.get child.id = some inner → inner.Inside outer

/-! ### Widths -/

theorem minWidth_of_leaf {node : LayoutNode} (leaf : IsLeaf node) :
    minWidth node = if node.type = .file then FILE_WIDTH else 64 := by
  obtain ⟨id, type, renderHints, children⟩ := node
  rw [minWidth]
  split
  case isTrue isFile =>
    rfl
  case isFalse notFile =>
    rw [if_pos (leaf.resolve_left notFile)]

theorem minWidth_of_container {node : LayoutNode}
    (container : ¬ IsLeaf node) :
    minWidth node =
      (if node.type = .workspace then minWidths 120 node.children else 120) +
        PADDING * 2 := by
  obtain ⟨id, type, renderHints, children⟩ := node
  rw [IsLeaf, not_or] at container
  rw [minWidth, if_neg container.1, if_neg container.2]

theorem le_minWidths (width : ℚ) (children : List LayoutNode) :
    width ≤ minWidths width children := by
  induction children generalizing width with
  | nil =>
      exact le_refl width
  | cons child rest inductionHypothesis =>
      rw [minWidths]
      exact (le_max_left width (minWidth child)).trans
        (inductionHypothesis _)

theorem le_minWidth_of_container {node : LayoutNode}
    (container : ¬ IsLeaf node) : 120 + PADDING * 2 ≤ minWidth node := by
  have grows := le_minWidths 120 node.children
  rw [minWidth_of_container container]
  split <;> linarith

theorem widest_eq {size : LayoutNode → Box ℚ} {inner : ℚ}
    {children : List LayoutNode}
    (widths : ∀ child ∈ children,
      max inner (size child).width = max inner (minWidth child))
    (width : ℚ) :
    widest size (max inner width) children =
      max inner (minWidths width children) := by
  induction children generalizing width with
  | nil =>
      rfl
  | cons child rest inductionHypothesis =>
      rw [List.forall_mem_cons] at widths
      rw [widest, minWidths, ← inductionHypothesis widths.2]
      congr 1
      rw [max_right_comm, widths.1, max_right_comm, max_assoc]

theorem max_innerWidth (availableWidth : ℚ) :
    max (innerWidth availableWidth) 120 = innerWidth availableWidth :=
  max_eq_left (le_innerWidth availableWidth)

theorem innerWidth_add {width : ℚ} (least : 120 ≤ width)
    (availableWidth : ℚ) :
    max (innerWidth availableWidth) width + PADDING * 2 =
      max availableWidth (width + PADDING * 2) := by
  rw [innerWidth, max_comm 120, max_assoc, max_eq_right least,
    ← max_add_add_right, sub_add_cancel]

theorem offeredWidth_le (type : NodeType) (availableWidth : ℚ) :
    offeredWidth type availableWidth ≤ innerWidth availableWidth := by
  have inner := le_innerWidth availableWidth
  unfold offeredWidth
  split
  · norm_num only [FILE_WIDTH]
    linarith
  · exact le_refl _

/-- Inside a container only the least width of a child can exceed the inner
width. -/
theorem max_width_of_least {node : LayoutNode} {offered inner width : ℚ}
    (within : offered ≤ inner)
    (isWidth :
      width =
        if node.type = .file then FILE_WIDTH
        else max offered (minWidth node)) :
    max inner width = max inner (minWidth node) := by
  rw [isWidth]
  split
  case isTrue isFile =>
    rw [minWidth_of_leaf (Or.inl isFile), if_pos isFile]
  case isFalse other =>
    rw [← max_assoc, max_eq_left within]

theorem width_containerBox {node : LayoutNode} (container : ¬ IsLeaf node)
    {size : LayoutNode → Box ℚ} {availableWidth : ℚ}
    (widths : ∀ child ∈ node.children,
      max (innerWidth availableWidth) (size child).width =
        max (innerWidth availableWidth) (minWidth child)) :
    (containerBox node.type availableWidth size node.children).width =
      max availableWidth (minWidth node) := by
  rw [minWidth_of_container container]
  split
  case isTrue isWorkspace =>
    have grown := widest_eq widths 120
    rw [max_innerWidth] at grown
    rw [← innerWidth_add (le_minWidths 120 node.children), ← grown,
      isWorkspace]
    rfl
  case isFalse other =>
    rw [← innerWidth_add (le_refl 120), max_innerWidth]
    unfold containerBox
    split
    · contradiction
    · rfl
    · rfl

/-- A node that is no file is as wide as it is offered, or as its least
width. -/
theorem width_box (node : LayoutNode) (availableWidth : ℚ) :
    (box node availableWidth).width =
      if node.type = .file then FILE_WIDTH
      else max availableWidth (minWidth node) := by
  induction node using LayoutNode.induction generalizing availableWidth with
  | step node inductionHypothesis =>
      by_cases leaf : IsLeaf node
      · rw [box_of_leaf leaf, leafBox, minWidth_of_leaf leaf]
        split
        · rfl
        · exact max_comm 64 availableWidth
      · rw [box_of_container leaf, if_neg fun isFile => leaf (Or.inl isFile),
          width_containerBox leaf fun child isChild =>
            max_width_of_least (offeredWidth_le node.type availableWidth)
              (inductionHypothesis child isChild _)]

/-! ### One container -/

theorem container_of_child {placement child : Placement}
    (isChild : child ∈ placement.children) : ¬ IsLeaf placement.node := by
  have found :=
    (exists_placed_child_iff placement child.node).mp ⟨child, isChild, rfl⟩
  rintro (isFile | childless)
  · exact found.1 isFile
  · rw [List.length_eq_zero_iff.mp childless] at found
    exact List.not_mem_nil found.2

/-- The room that a container of some size and inner width leaves a box: it
starts behind the padding, ends before the padding on the other side or
starts at the left, and stays within the height. -/
def WithinBounds (x y inner height : ℚ) (rect : NodePosition) : Prop :=
  (x + PADDING ≤ rect.x ∧
      (rect.x + rect.width ≤ x + inner + PADDING ∨ rect.x = x + PADDING)) ∧
    (y ≤ rect.y ∧ rect.y + rect.height ≤ y + height)

section

variable {size : LayoutNode → Box ℚ} {children : List LayoutNode}
variable {x y : ℚ} {spot : Spot LayoutNode ℚ}

theorem withinBounds_of_mem_flow (widths : ∀ item, 0 ≤ (size item).width)
    {inner : ℚ}
    (isSpot :
      spot ∈ flow (x + PADDING) (x + inner + PADDING) (PADDING / 2) size
        (zoneStart x y) children) :
    let ending :=
      flowEnd PADDING (inner + PADDING) (PADDING / 2) size (zoneStart 0 0)
        children
    WithinBounds x y inner (ending.bottom + PADDING) (spot.rect size) := by
  have gap_nonneg : (0 : ℚ) ≤ PADDING / 2 := by norm_num [PADDING]
  have start : x + PADDING ≤ (zoneStart x y).x := le_refl _
  have row : 0 ≤ (zoneStart x y).rowHeight := le_refl 0
  have left := left_le_of_mem_flow gap_nonneg widths start isSpot
  have top := top_le_of_mem_flow gap_nonneg widths row isSpot
  have bottom := bottom_le_of_mem_flow gap_nonneg isSpot
  have height := bottom_flowEnd_inner size x y inner children
  refine ⟨⟨left, fits_of_mem_flow isSpot⟩, ?_, ?_⟩
  · change y ≤ spot.y
    simp only [zoneStart, PADDING, NODE_HEIGHT_DEFAULT] at top
    linarith
  · have padding : 0 ≤ PADDING := by norm_num [PADDING]
    change spot.y + (size spot.item).height ≤ _
    linarith

theorem withinBounds_of_mem_stack
    (heights : ∀ item, 0 ≤ (size item).height) (inner : ℚ)
    (isSpot :
      spot ∈ stack (x + PADDING) (PADDING / 2) size
        (y + NODE_HEIGHT_DEFAULT + PADDING / 2) children) :
    let stacked :=
      stackEnd (PADDING / 2) size (NODE_HEIGHT_DEFAULT + PADDING / 2) children
    WithinBounds x y inner (stacked + PADDING / 2) (spot.rect size) := by
  have gap_nonneg : (0 : ℚ) ≤ PADDING / 2 := by norm_num [PADDING]
  have left := x_of_mem_stack isSpot
  have top := top_le_of_mem_stack gap_nonneg heights isSpot
  have bottom := bottom_le_stackEnd gap_nonneg heights isSpot
  have height := stackEnd_inner size y children
  refine ⟨⟨left.ge, Or.inr left⟩, ?_, ?_⟩
  · change y ≤ spot.y
    simp only [PADDING, NODE_HEIGHT_DEFAULT] at top
    linarith
  · change spot.y + (size spot.item).height ≤ _
    linarith

end

theorem withinBounds_mono {x y inner height taller : ℚ} {rect : NodePosition}
    (bounds : WithinBounds x y inner height rect) (grows : height ≤ taller) :
    WithinBounds x y inner taller rect :=
  ⟨bounds.1, bounds.2.1, bounds.2.2.trans (by linarith)⟩

theorem withinBounds_of_child {placement child : Placement}
    (isChild : child ∈ placement.children) :
    WithinBounds placement.x placement.y (innerWidth placement.availableWidth)
      placement.rect.height child.rect := by
  have container := container_of_child isChild
  have widths := fun child =>
    (box_nonneg child
      (offeredWidth placement.node.type placement.availableWidth)).1
  have heights := fun child =>
    (box_nonneg child
      (offeredWidth placement.node.type placement.availableWidth)).2
  have height := congrArg Box.height
    (box_of_container container placement.availableWidth)
  obtain ⟨spot, isSpot, rfl⟩ := List.mem_map.mp isChild
  obtain ⟨⟨id, type, renderHints, children⟩, x, y, availableWidth⟩ := placement
  refine withinBounds_mono ?_ height.ge
  cases type with
  | file =>
      exact absurd (Or.inl rfl) container
  | zone =>
      exact withinBounds_of_mem_flow widths isSpot
  | workspace =>
      exact withinBounds_mono
        (withinBounds_of_mem_stack heights (innerWidth availableWidth) isSpot)
        (le_max_right _ _)
  | _ =>
      exact withinBounds_of_mem_stack heights (innerWidth availableWidth)
        isSpot

theorem le_widest_of_mem (size : LayoutNode → Box ℚ)
    {children : List LayoutNode} {child : LayoutNode}
    (isChild : child ∈ children) (width : ℚ) :
    (size child).width ≤ widest size width children := by
  induction children generalizing width with
  | nil =>
      cases isChild
  | cons first rest inductionHypothesis =>
      rw [widest]
      rcases List.mem_cons.mp isChild with rfl | later
      · exact (le_max_right _ _).trans (le_widest size _ rest)
      · exact inductionHypothesis later _

theorem availableWidth_of_child {placement child : Placement}
    (isChild : child ∈ placement.children) :
    child.availableWidth =
      offeredWidth placement.node.type placement.availableWidth := by
  obtain ⟨spot, isSpot, rfl⟩ := List.mem_map.mp isChild
  rfl

theorem width_of_child {placement child : Placement}
    (isChild : child ∈ placement.children) :
    child.rect.width =
      (box child.node
        (offeredWidth placement.node.type placement.availableWidth)).width := by
  rw [← availableWidth_of_child isChild]
  rfl

/-- A workspace is as wide as its widest child needs; any other container has
its inner width, whatever its children need. -/
theorem width_of_container {placement : Placement}
    (container : ¬ IsLeaf placement.node) :
    placement.rect.width =
      (if placement.node.type = .workspace then
          widest
            (fun child => box child (innerWidth placement.availableWidth))
            (innerWidth placement.availableWidth) placement.node.children
        else
          innerWidth placement.availableWidth) + PADDING * 2 := by
  have width := congrArg Box.width
    (box_of_container container placement.availableWidth)
  refine width.trans ?_
  obtain ⟨⟨id, type, renderHints, children⟩, x, y, availableWidth⟩ := placement
  cases type <;> rfl

/-- A child lies inside a container exactly where the container is a workspace
or the child is narrow enough for the first column. -/
theorem inside_iff {placement child : Placement}
    (isChild : child ∈ placement.children) :
    child.rect.Inside placement.rect ↔
      placement.node.type = .workspace ∨
        child.rect.width ≤
          innerWidth placement.availableWidth + PADDING := by
  have padding : 0 ≤ PADDING := by norm_num [PADDING]
  have width := width_of_container (container_of_child isChild)
  obtain ⟨⟨left, right⟩, top, bottom⟩ := withinBounds_of_child isChild
  have corner :
      placement.rect.x = placement.x ∧ placement.rect.y = placement.y :=
    ⟨rfl, rfl⟩
  rw [Rect.Inside, corner.1, corner.2]
  split at width
  case isTrue isWorkspace =>
    refine iff_of_true ⟨⟨by linarith, ?_⟩, top, bottom⟩ (Or.inl isWorkspace)
    have found :=
      (exists_placed_child_iff placement child.node).mp ⟨child, isChild, rfl⟩
    have grown := width_of_child isChild
    rw [isWorkspace] at grown
    have wide :=
      le_widest_of_mem
        (fun child => box child (innerWidth placement.availableWidth))
        found.2 (innerWidth placement.availableWidth)
    have least :=
      le_widest
        (fun child => box child (innerWidth placement.availableWidth))
        (innerWidth placement.availableWidth) placement.node.children
    simp only [offeredWidth] at grown
    rcases right with ends | starts
    · linarith
    · linarith
  case isFalse other =>
    constructor
    · intro inside
      exact Or.inr (by linarith [inside.1.2])
    · intro narrow
      have narrow := narrow.resolve_left other
      refine ⟨⟨by linarith, ?_⟩, top, bottom⟩
      rcases right with ends | starts
      · linarith
      · linarith

theorem le_innerWidth_iff {width : ℚ} (least : 120 + PADDING * 2 ≤ width)
    (availableWidth : ℚ) :
    width ≤ innerWidth availableWidth + PADDING ↔
      width + PADDING ≤ availableWidth := by
  simp only [PADDING] at least
  rw [innerWidth, ← max_add_add_right, le_max_iff]
  simp only [PADDING]
  constructor
  · rintro (narrow | fits)
    · linarith
    · linarith
  · intro fits
    exact Or.inr (by linarith)

theorem width_le_iff (node : LayoutNode) {offered availableWidth : ℚ}
    (within : offered ≤ innerWidth availableWidth) :
    (box node offered).width ≤ innerWidth availableWidth + PADDING ↔
      IsLeaf node ∨ minWidth node + PADDING ≤ availableWidth := by
  have inner := le_innerWidth availableWidth
  have padding : 0 ≤ PADDING := by norm_num [PADDING]
  rw [width_box]
  by_cases leaf : IsLeaf node
  · refine iff_of_true ?_ (Or.inl leaf)
    rw [minWidth_of_leaf leaf]
    split
    · simp only [FILE_WIDTH]
      linarith
    · exact max_le (by linarith) (by linarith)
  · have least := le_minWidth_of_container leaf
    rw [if_neg fun isFile => leaf (Or.inl isFile), max_le_iff,
      le_innerWidth_iff least, or_iff_right leaf,
      and_iff_right (by linarith : offered ≤ _)]

theorem forall_placed_child_iff (placement : Placement)
    (kept : LayoutNode → Prop) :
    (∀ child ∈ placement.children, kept child.node) ↔
      (placement.node.type ≠ .file →
        ∀ node ∈ placement.node.children, kept node) := by
  constructor
  · intro each notFile node isChild
    obtain ⟨child, isPlaced, rfl⟩ :=
      (exists_placed_child_iff placement node).mpr ⟨notFile, isChild⟩
    exact each child isPlaced
  · intro each child isChild
    have found :=
      (exists_placed_child_iff placement child.node).mp ⟨child, isChild, rfl⟩
    exact each found.1 child.node found.2

/-- A placed node has room for its children exactly where all of them lie
inside it. -/
theorem hasRoom_iff (placement : Placement) :
    hasRoom placement.node.type placement.node.children
        placement.availableWidth = true ↔
      ∀ child ∈ placement.children, child.rect.Inside placement.rect := by
  have within :=
    offeredWidth_le placement.node.type placement.availableWidth
  have inside : ∀ child ∈ placement.children,
      child.rect.Inside placement.rect ↔
        placement.node.type = .workspace ∨ IsLeaf child.node ∨
          minWidth child.node + PADDING ≤ placement.availableWidth := by
    intro child isChild
    rw [inside_iff isChild, width_of_child isChild,
      width_le_iff child.node within]
  rw [forall₂_congr inside, forall_placed_child_iff placement fun node =>
    placement.node.type = .workspace ∨ IsLeaf node ∨
      minWidth node + PADDING ≤ placement.availableWidth]
  unfold hasRoom
  split
  case h_1 isWorkspace =>
    simp [isWorkspace]
  case h_2 isFile =>
    simp [isFile]
  case h_3 notWorkspace notFile =>
    have other : placement.node.type ≠ .file := notFile
    have grows : placement.node.type ≠ .workspace := notWorkspace
    simp [other, grows]

theorem fitAll_eq (children : List LayoutNode) (availableWidth : ℚ) :
    fitAll children availableWidth =
      children.all fun child => fits child availableWidth := by
  induction children with
  | nil =>
      rfl
  | cons child rest inductionHypothesis =>
      rw [fitAll, inductionHypothesis, List.all_cons]

theorem fits_iff (node : LayoutNode) (availableWidth : ℚ) :
    fits node availableWidth = true ↔
      hasRoom node.type node.children availableWidth = true ∧
        (node.type ≠ .file → ∀ child ∈ node.children,
          fits child (offeredWidth node.type availableWidth) = true) := by
  obtain ⟨id, type, renderHints, children⟩ := node
  rw [fits, fitAll_eq, Bool.or_eq_true, Bool.and_eq_true, List.all_eq_true,
    decide_eq_true_eq]
  by_cases isFile : type = .file
  · cases isFile
    simp [hasRoom]
  · simp [isFile]

/-- A tree fits exactly where every placed node has room for its children. -/
theorem fits_iff_placed (placement : Placement) :
    fits placement.node placement.availableWidth = true ↔
      ∀ below, Placed placement below →
        hasRoom below.node.type below.node.children below.availableWidth =
          true := by
  obtain ⟨node, x, y, availableWidth⟩ := placement
  induction node using LayoutNode.induction
    generalizing x y availableWidth with
  | step node inductionHypothesis =>
      rw [fits_iff]
      constructor
      · rintro ⟨room, below⟩ other placed
        rcases Relation.ReflTransGen.cases_head placed with
          rfl | ⟨child, isChild, under⟩
        · exact room
        · have found :=
            (exists_placed_child_iff _ child.node).mp ⟨child, isChild, rfl⟩
          have fitting := below found.1 child.node found.2
          rw [← availableWidth_of_child isChild] at fitting
          exact (inductionHypothesis child.node found.2 _ _ _).mp fitting
            other under
      · intro rooms
        refine ⟨rooms _ .refl, fun notFile child isChild => ?_⟩
        obtain ⟨placed, isPlaced, rfl⟩ :=
          (exists_placed_child_iff ⟨node, x, y, availableWidth⟩ child).mpr
            ⟨notFile, isChild⟩
        rw [← availableWidth_of_child isPlaced]
        refine (inductionHypothesis placed.node isChild placed.x placed.y
          placed.availableWidth).mpr fun below under => ?_
        exact rooms below (.head isPlaced under)

/-- Every child lies inside its parent exactly where the tree fits. -/
theorem layoutTree_children_inside_iff {tree : LayoutNode}
    (unique : UniqueIds tree) (noHints : NoHints tree)
    (x y availableWidth : ℚ) :
    ChildrenInside tree
        (layoutTree tree x y availableWidth .empty).positions ↔
      fits tree availableWidth = true := by
  have entries := get_layoutTree_iff unique noHints x y availableWidth
  rw [fits_iff_placed ⟨tree, x, y, availableWidth⟩]
  constructor
  · intro inside below placed
    rw [hasRoom_iff]
    intro child isChild
    have found :=
      (exists_placed_child_iff below child.node).mp ⟨child, isChild, rfl⟩
    exact inside below.node (mem_indexNodes_of_placed placed) child.node
      found.2 below.rect child.rect
      ((entries _ _).mpr ⟨below, placed, rfl, rfl⟩)
      ((entries _ _).mpr ⟨child, placed.tail isChild, rfl, rfl⟩)
  · intro rooms parent isNode child isChild outer inner foundOuter foundInner
    rw [entries] at foundOuter foundInner
    obtain ⟨placement, placed, rfl, notFile⟩ :=
      exists_placed_parent unique isNode isChild foundInner
    obtain ⟨below, isBelow, rfl⟩ :=
      (exists_placed_child_iff placement child).mpr ⟨notFile, isChild⟩
    rw [eq_rect_of_entry unique noHints placed foundOuter,
      eq_rect_of_entry unique noHints (placed.tail isBelow) foundInner]
    exact (hasRoom_iff placement).mp (rooms placement placed) below isBelow

theorem wrappingTree_children_inside :
    ChildrenInside wrappingTree
      (layoutTree wrappingTree 12 12 200 .empty).positions :=
  (layoutTree_children_inside_iff (by decide) (by decide) 12 12 200).mpr
    (by decide +kernel)

/-- A zone in a zone in a zone. -/
def nestedZones : LayoutNode :=
  ⟨js "release", .zone, none,
    [⟨js "backend", .zone, none,
      [⟨js "parser", .zone, none,
        [⟨js "lexer.ts", .file, none, []⟩]⟩]⟩]⟩

/-- The innermost zone sticks out of the one around it, which is offered the
width of a file. -/
theorem nestedZones_not_inside :
    UniqueIds nestedZones ∧ NoHints nestedZones ∧
      ¬ ChildrenInside nestedZones
        (layoutTree nestedZones 12 12 776 .empty).positions := by
  refine ⟨by decide, by decide, fun inside => ?_⟩
  have parser_inside :=
    inside
      ⟨js "backend", .zone, none,
        [⟨js "parser", .zone, none,
          [⟨js "lexer.ts", .file, none, []⟩]⟩]⟩
      (by simp [nestedZones, indexNodes, indexChildren])
      ⟨js "parser", .zone, none, [⟨js "lexer.ts", .file, none, []⟩]⟩
      List.mem_cons_self ⟨24, 46, 144, 116⟩ ⟨36, 80, 144, 70⟩
      (by decide +kernel) (by decide +kernel)
  exact absurd parser_inside (by decide +kernel)

end RtsNotebook.Webviews.MapView
