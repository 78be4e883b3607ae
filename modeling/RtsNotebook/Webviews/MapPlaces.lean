import RtsNotebook.Library.Updates
import RtsNotebook.Webviews.MapView
import Mathlib.Data.List.Pairwise

/-!
# Where the map view puts its nodes

What the layout is, apart from the order in which `layoutTree` computes it: the
size of a node depends on its subtree and on the width that it is offered, and
a container puts its children in a stack or in a flow.  Without position hints
`layoutTree` computes these sizes, and with unique ids it writes the rectangle
of every node that is placed so, and nothing else.
-/

namespace RtsNotebook.Webviews.MapView

open RtsNotebook.Library RtsNotebook.Js

/-! ### Sizes -/

/-- The width inside a container, by the width that the container is
offered. -/
def innerWidth (availableWidth : ℚ) : ℚ :=
  max 120 (availableWidth - PADDING * 2)

/-- The width that a container offers its children. -/
def offeredWidth (type : NodeType) (availableWidth : ℚ) : ℚ :=
  match type with
  | .zone => FILE_WIDTH
  | _ => innerWidth availableWidth

/-- The greatest width among some items and a least one. -/
def widest {ι : Type*} (size : ι → Box ℚ) : ℚ → List ι → ℚ
  | width, [] => width
  | width, item :: rest => widest size (max width (size item).width) rest

/-- The cursor of a zone, before its first child. -/
def zoneStart (x y : ℚ) : Cursor ℚ where
  x := x + PADDING
  y := y + NODE_HEIGHT_DEFAULT + PADDING / 2
  rowHeight := 0

/-- The size of a node that is laid out without its children. -/
def leafBox (type : NodeType) (availableWidth : ℚ) : Box ℚ :=
  if type = .file then
    ⟨FILE_WIDTH, FILE_HEIGHT⟩
  else
    ⟨max 64 availableWidth, NODE_HEIGHT_DEFAULT⟩

/-- The size of a container, by the sizes of its children. -/
def containerBox {ι : Type*} (type : NodeType) (availableWidth : ℚ)
    (size : ι → Box ℚ) (items : List ι) : Box ℚ :=
  let inner := innerWidth availableWidth
  let stacked :=
    stackEnd (PADDING / 2) size (NODE_HEIGHT_DEFAULT + PADDING / 2) items
  match type with
  | .workspace =>
      { width := widest size inner items + PADDING * 2
        height := max (NODE_HEIGHT_DEFAULT * 2) (stacked + PADDING / 2) }
  | .zone =>
      let ending :=
        flowEnd PADDING (inner + PADDING) (PADDING / 2) size (zoneStart 0 0)
          items
      { width := inner + PADDING * 2
        height := ending.bottom + PADDING }
  | _ =>
      { width := inner + PADDING * 2
        height := stacked + PADDING / 2 }

mutual

/-- The size of a node. -/
def box : LayoutNode → ℚ → Box ℚ
  | ⟨_, type, _, children⟩, availableWidth =>
      if type = .file ∨ children.length = 0 then
        leafBox type availableWidth
      else
        containerBox type availableWidth id
          (boxes children (offeredWidth type availableWidth))

def boxes : List LayoutNode → ℚ → List (Box ℚ)
  | [], _ => []
  | child :: rest, availableWidth =>
      box child availableWidth :: boxes rest availableWidth

end

theorem boxes_eq (children : List LayoutNode) (availableWidth : ℚ) :
    boxes children availableWidth =
      children.map fun child => box child availableWidth := by
  induction children with
  | nil =>
      rfl
  | cons child rest inductionHypothesis =>
      rw [boxes, inductionHypothesis, List.map_cons]

theorem widest_map {ι κ : Type*} (size : κ → Box ℚ) (part : ι → κ)
    (width : ℚ) (items : List ι) :
    widest size width (items.map part) =
      widest (fun item => size (part item)) width items := by
  induction items generalizing width with
  | nil =>
      rfl
  | cons item rest inductionHypothesis =>
      exact inductionHypothesis _

theorem containerBox_map {ι κ : Type*} (type : NodeType) (availableWidth : ℚ)
    (size : κ → Box ℚ) (part : ι → κ) (items : List ι) :
    containerBox type availableWidth size (items.map part) =
      containerBox type availableWidth (fun item => size (part item)) items := by
  simp only [containerBox, widest_map, stackEnd_map, flowEnd_map]

/-- The nodes whose children are not laid out. -/
def IsLeaf (node : LayoutNode) : Prop :=
  node.type = .file ∨ node.children.length = 0

instance (node : LayoutNode) : Decidable (IsLeaf node) :=
  inferInstanceAs (Decidable (_ ∨ _))

theorem box_of_leaf {node : LayoutNode} (leaf : IsLeaf node)
    (availableWidth : ℚ) :
    box node availableWidth = leafBox node.type availableWidth := by
  obtain ⟨id, type, renderHints, children⟩ := node
  rw [box, if_pos (by exact leaf)]

theorem box_of_container {node : LayoutNode} (container : ¬ IsLeaf node)
    (availableWidth : ℚ) :
    box node availableWidth =
      containerBox node.type availableWidth
        (fun child => box child (offeredWidth node.type availableWidth))
        node.children := by
  obtain ⟨id, type, renderHints, children⟩ := node
  rw [box, if_neg (by exact container), boxes_eq, containerBox_map]
  rfl

/-! ### What the loops compute -/

/-- The children have the given sizes wherever they are laid out. -/
def Sized (size : LayoutNode → Box ℚ) (availableWidth : ℚ)
    (children : List LayoutNode) : Prop :=
  ∀ child ∈ children, ∀ x y positions,
    (layoutTree child x y availableWidth positions).pos =
      (size child).rectAt x y

/-- The cursor in the variables of the loop. -/
def ZoneLoop.cursor (loop : ZoneLoop) : Cursor ℚ where
  x := loop.cursorX
  y := loop.cursorY
  rowHeight := loop.rowMaxH

/-- A workspace stacks its children as any container does. -/
theorem tileWorkspace_eq_stackChildren
    (children : List LayoutNode) (innerX innerWidth : ℚ)
    (loop : WorkspaceLoop) :
    let stacked :=
      stackChildren children innerX innerWidth ⟨loop.innerY, loop.positions⟩
    (tileWorkspace children innerX innerWidth loop).innerY =
        stacked.stackY ∧
      (tileWorkspace children innerX innerWidth loop).positions =
        stacked.positions := by
  induction children generalizing loop with
  | nil =>
      exact ⟨rfl, rfl⟩
  | cons child rest inductionHypothesis =>
      rw [tileWorkspace, stackChildren]
      exact inductionHypothesis _

section

variable {size : LayoutNode → Box ℚ} {availableWidth : ℚ}
variable {children : List LayoutNode}

theorem stackChildren_stackY
    (sized : Sized size availableWidth children) (innerX : ℚ)
    (loop : StackLoop) :
    (stackChildren children innerX availableWidth loop).stackY =
      stackEnd (PADDING / 2) size loop.stackY children := by
  induction children generalizing loop with
  | nil =>
      rfl
  | cons child rest inductionHypothesis =>
      rw [Sized, List.forall_mem_cons] at sized
      rw [stackChildren, inductionHypothesis sized.2, stackEnd, sized.1]
      rfl

theorem tileWorkspace_maxChildW
    (sized : Sized size availableWidth children) (innerX : ℚ)
    (loop : WorkspaceLoop) :
    (tileWorkspace children innerX availableWidth loop).maxChildW =
      widest size loop.maxChildW children := by
  induction children generalizing loop with
  | nil =>
      rfl
  | cons child rest inductionHypothesis =>
      rw [Sized, List.forall_mem_cons] at sized
      rw [tileWorkspace, inductionHypothesis sized.2, widest, sized.1]
      rfl

/-- One pass of the loop of a zone: the child is laid out where the cursor
settles, and before that it may have been laid out at the old cursor. -/
theorem tileZone_cons
    {child : LayoutNode} (sized : Sized size FILE_WIDTH [child])
    (rest : List LayoutNode) (innerX wrapAt : ℚ) (loop : ZoneLoop) :
    let settled :=
      loop.cursor.settle innerX wrapAt (PADDING / 2) (size child)
    ∃ next before,
      tileZone (child :: rest) innerX wrapAt loop =
        tileZone rest innerX wrapAt next ∧
      next.cursor = settled.advance (PADDING / 2) (size child) ∧
      next.positions =
        (layoutTree child settled.x settled.y FILE_WIDTH before).positions ∧
      (before = loop.positions ∨
        before =
          (layoutTree child loop.cursorX loop.cursorY FILE_WIDTH
            loop.positions).positions) := by
  have sizedChild := sized child List.mem_cons_self
  rw [tileZone, Cursor.settle]
  simp only [sizedChild]
  by_cases wraps : loop.cursor.Wraps innerX wrapAt (size child)
  · rw [if_pos wraps, if_pos (by exact wraps)]
    exact ⟨_, _, rfl, rfl, rfl, Or.inr rfl⟩
  · rw [if_neg wraps, if_neg (by exact wraps)]
    exact ⟨_, _, rfl, rfl, rfl, Or.inl rfl⟩

theorem tileZone_cursor
    (sized : Sized size FILE_WIDTH children) (innerX wrapAt : ℚ)
    (loop : ZoneLoop) :
    (tileZone children innerX wrapAt loop).cursor =
      flowEnd innerX wrapAt (PADDING / 2) size loop.cursor children := by
  induction children generalizing loop with
  | nil =>
      rfl
  | cons child rest inductionHypothesis =>
      rw [Sized, List.forall_mem_cons] at sized
      obtain ⟨next, before, passes, cursor, -, -⟩ :=
        tileZone_cons (by simpa [Sized] using sized.1) rest innerX wrapAt loop
      rw [passes, inductionHypothesis sized.2, cursor, flowEnd]

end

/-! ### The rectangle of a node -/

/-- The map that a node leaves before it writes its own rectangle. -/
def childPositions (node : LayoutNode) (x y availableWidth : ℚ)
    (positions : Positions) : Positions :=
  let innerX := x + PADDING
  let innerY := y + NODE_HEIGHT_DEFAULT + PADDING / 2
  let inner := innerWidth availableWidth
  match node.type with
  | .file => positions
  | .zone =>
      (tileZone node.children innerX (x + inner + PADDING)
        ⟨innerX, innerY, 0, positions⟩).positions
  | _ =>
      (stackChildren node.children innerX inner ⟨innerY, positions⟩).positions

theorem childPositions_of_leaf {node : LayoutNode} (leaf : IsLeaf node)
    (x y availableWidth : ℚ) (positions : Positions) :
    childPositions node x y availableWidth positions = positions := by
  obtain ⟨id, type, renderHints, children⟩ := node
  rcases leaf with isFile | childless
  · cases isFile
    rfl
  · cases List.length_eq_zero_iff.mp childless
    cases type <;> rfl

theorem stackEnd_inner (size : LayoutNode → Box ℚ) (y : ℚ)
    (children : List LayoutNode) :
    stackEnd (PADDING / 2) size (y + NODE_HEIGHT_DEFAULT + PADDING / 2)
        children - y =
      stackEnd (PADDING / 2) size (NODE_HEIGHT_DEFAULT + PADDING / 2)
        children := by
  have top :
      y + NODE_HEIGHT_DEFAULT + PADDING / 2 =
        NODE_HEIGHT_DEFAULT + PADDING / 2 + y := by
    ring
  rw [top, stackEnd_add, add_sub_cancel_right]

theorem bottom_flowEnd_inner (size : LayoutNode → Box ℚ) (x y inner : ℚ)
    (children : List LayoutNode) :
    (flowEnd (x + PADDING) (x + inner + PADDING) (PADDING / 2) size
        (zoneStart x y) children).bottom - y =
      (flowEnd PADDING (inner + PADDING) (PADDING / 2) size (zoneStart 0 0)
        children).bottom := by
  have start : zoneStart x y = (zoneStart 0 0).moved x y := by
    simp only [zoneStart, Cursor.moved, Cursor.mk.injEq, and_true]
    constructor <;> ring
  have left : x + PADDING = PADDING + x := add_comm x PADDING
  have limit : x + inner + PADDING = inner + PADDING + x := by
    ring
  rw [start, left, limit, flowEnd_moved]
  simp only [Cursor.bottom, Cursor.moved]
  ring

section

variable {size : LayoutNode → Box ℚ} {availableWidth : ℚ}
variable {children : List LayoutNode}

theorem stackChildren_height
    (sized : Sized size availableWidth children) (innerX y : ℚ)
    (positions : Positions) :
    (stackChildren children innerX availableWidth
        ⟨y + NODE_HEIGHT_DEFAULT + PADDING / 2, positions⟩).stackY - y =
      stackEnd (PADDING / 2) size (NODE_HEIGHT_DEFAULT + PADDING / 2)
        children := by
  rw [stackChildren_stackY sized, stackEnd_inner]

theorem tileWorkspace_height
    (sized : Sized size availableWidth children) (innerX y maxChildW : ℚ)
    (positions : Positions) :
    (tileWorkspace children innerX availableWidth
        ⟨y + NODE_HEIGHT_DEFAULT + PADDING / 2, maxChildW,
          positions⟩).innerY - y =
      stackEnd (PADDING / 2) size (NODE_HEIGHT_DEFAULT + PADDING / 2)
        children := by
  rw [(tileWorkspace_eq_stackChildren _ _ _ _).1, stackChildren_height sized]

theorem tileZone_height
    (sized : Sized size FILE_WIDTH children) (x y inner : ℚ)
    (positions : Positions) :
    (tileZone children (x + PADDING) (x + inner + PADDING)
        ⟨x + PADDING, y + NODE_HEIGHT_DEFAULT + PADDING / 2, 0,
          positions⟩).cursor.bottom - y =
      (flowEnd PADDING (inner + PADDING) (PADDING / 2) size (zoneStart 0 0)
        children).bottom := by
  rw [tileZone_cursor sized]
  exact bottom_flowEnd_inner size x y inner children

end

theorem layoutTree_of_leaf {node : LayoutNode}
    (unhinted : readPositionHint node.renderHints = none)
    (leaf : IsLeaf node) (x y availableWidth : ℚ) (positions : Positions) :
    let pos := (leafBox node.type availableWidth).rectAt x y
    layoutTree node x y availableWidth positions =
      ⟨pos, positions.set node.id pos⟩ := by
  obtain ⟨id, type, renderHints, children⟩ := node
  rw [layoutTree, if_pos (by exact leaf), unhinted, leafBox]
  by_cases isFile : type = .file
  · simp only [if_pos isFile]
    rfl
  · simp only [if_neg isFile]
    rfl

/-- A container has the size that follows from the sizes of its children,
wherever it is laid out. -/
theorem layoutTree_of_container {node : LayoutNode}
    (unhinted : readPositionHint node.renderHints = none)
    (container : ¬ IsLeaf node) {size : LayoutNode → Box ℚ}
    {availableWidth : ℚ}
    (sized :
      Sized size (offeredWidth node.type availableWidth) node.children)
    (x y : ℚ) (positions : Positions) :
    let pos :=
      (containerBox node.type availableWidth size node.children).rectAt x y
    layoutTree node x y availableWidth positions =
      ⟨pos,
        (childPositions node x y availableWidth positions).set node.id
          pos⟩ := by
  obtain ⟨id, type, renderHints, children⟩ := node
  rw [layoutTree, if_neg (by exact container), unhinted]
  cases type with
  | workspace =>
      let start : WorkspaceLoop :=
        ⟨y + NODE_HEIGHT_DEFAULT + PADDING / 2, innerWidth availableWidth,
          positions⟩
      let loop :=
        tileWorkspace children (x + PADDING) (innerWidth availableWidth) start
      have width :
          loop.maxChildW =
            widest size (innerWidth availableWidth) children :=
        tileWorkspace_maxChildW sized _ _
      have height :
          loop.innerY - y =
            stackEnd (PADDING / 2) size (NODE_HEIGHT_DEFAULT + PADDING / 2)
              children :=
        tileWorkspace_height sized _ _ _ _
      have written :=
        (tileWorkspace_eq_stackChildren children (x + PADDING)
          (innerWidth availableWidth) start).2
      change
        (fun pos => Laid.mk pos (loop.positions.set id pos))
            ⟨x, y, loop.maxChildW + PADDING * 2,
              max (NODE_HEIGHT_DEFAULT * 2)
                (loop.innerY - y + PADDING / 2)⟩ = _
      rw [width, height, written]
      rfl
  | zone =>
      let loop :=
        tileZone children (x + PADDING)
          (x + innerWidth availableWidth + PADDING)
          ⟨x + PADDING, y + NODE_HEIGHT_DEFAULT + PADDING / 2, 0, positions⟩
      have height := tileZone_height sized x y (innerWidth availableWidth)
        positions
      change
        (fun pos => Laid.mk pos (loop.positions.set id pos))
            ⟨x, y, innerWidth availableWidth + PADDING * 2,
              loop.cursor.bottom - y + PADDING⟩ = _
      rw [height]
      rfl
  | file =>
      exact absurd (Or.inl rfl) container
  | _ =>
      let loop :=
        stackChildren children (x + PADDING) (innerWidth availableWidth)
          ⟨y + NODE_HEIGHT_DEFAULT + PADDING / 2, positions⟩
      have height :
          loop.stackY - y =
            stackEnd (PADDING / 2) size (NODE_HEIGHT_DEFAULT + PADDING / 2)
              children :=
        stackChildren_height sized _ _ _
      change
        (fun pos => Laid.mk pos (loop.positions.set id pos))
            ⟨x, y, innerWidth availableWidth + PADDING * 2,
              loop.stackY - y + PADDING / 2⟩ = _
      rw [height]
      rfl

theorem noHints_of_child {tree child : LayoutNode} (noHints : NoHints tree)
    (isChild : child ∈ tree.children) : NoHints child := by
  intro node member
  exact noHints node (mem_indexNodes_of_child isChild member)

/-- Without hints a node has its size wherever it is laid out, and its
rectangle is written last. -/
theorem layoutTree_eq {tree : LayoutNode} (noHints : NoHints tree)
    (x y availableWidth : ℚ) (positions : Positions) :
    let pos := (box tree availableWidth).rectAt x y
    layoutTree tree x y availableWidth positions =
      ⟨pos,
        (childPositions tree x y availableWidth positions).set tree.id
          pos⟩ := by
  induction tree using LayoutNode.induction
    generalizing x y availableWidth positions with
  | step tree inductionHypothesis =>
      have unhinted := noHints tree (self_mem_indexNodes tree)
      by_cases leaf : IsLeaf tree
      · rw [layoutTree_of_leaf unhinted leaf, box_of_leaf leaf,
          childPositions_of_leaf leaf]
      · rw [box_of_container leaf]
        apply layoutTree_of_container unhinted leaf
        intro child isChild x y positions
        rw [inductionHypothesis child isChild
          (noHints_of_child noHints isChild)]

theorem sized_children {tree : LayoutNode} (noHints : NoHints tree)
    (availableWidth : ℚ) :
    Sized (fun child => box child availableWidth) availableWidth
      tree.children := by
  intro child isChild x y positions
  rw [layoutTree_eq (noHints_of_child noHints isChild)]

/-! ### Placements -/

/-- A node, with the arguments that it is laid out with. -/
structure Placement where
  node : LayoutNode
  x : ℚ
  y : ℚ
  availableWidth : ℚ

namespace Placement

def rect (placement : Placement) : NodePosition :=
  (box placement.node placement.availableWidth).rectAt placement.x placement.y

/-- The node at a spot, with the width that it is offered. -/
def offered (availableWidth : ℚ) (spot : Spot LayoutNode ℚ) : Placement :=
  ⟨spot.item, spot.x, spot.y, availableWidth⟩

/-- Where a node puts its children: a file none, a zone in a flow, and any
other node in a stack. -/
def spots (placement : Placement) : List (Spot LayoutNode ℚ) :=
  let innerX := placement.x + PADDING
  let inner := innerWidth placement.availableWidth
  let size := fun child =>
    box child (offeredWidth placement.node.type placement.availableWidth)
  match placement.node.type with
  | .file => []
  | .zone =>
      flow innerX (placement.x + inner + PADDING) (PADDING / 2) size
        (zoneStart placement.x placement.y) placement.node.children
  | _ =>
      stack innerX (PADDING / 2) size
        (placement.y + NODE_HEIGHT_DEFAULT + PADDING / 2)
        placement.node.children

def children (placement : Placement) : List Placement :=
  placement.spots.map
    (offered (offeredWidth placement.node.type placement.availableWidth))

end Placement

/-- The second placement is among those below the first one. -/
def Placed : Placement → Placement → Prop :=
  Relation.ReflTransGen fun parent child => child ∈ parent.children

/-- The rectangles of a placement and of those below it, by the ids of their
nodes. -/
def Entry (placement : Placement) (id : JsString) (pos : NodePosition) : Prop :=
  ∃ below, Placed placement below ∧ below.node.id = id ∧ below.rect = pos

/-- An entry of one of the placements. -/
def EntryAmong (placements : List Placement) (id : JsString)
    (pos : NodePosition) : Prop :=
  ∃ placement ∈ placements, Entry placement id pos

theorem entryAmong_cons (placement : Placement) (rest : List Placement)
    (id : JsString) (pos : NodePosition) :
    EntryAmong (placement :: rest) id pos ↔
      Entry placement id pos ∨ EntryAmong rest id pos := by
  simp only [EntryAmong, List.exists_mem_cons_iff]

/-- The entries of a placement are its own rectangle and the entries of its
children. -/
theorem entry_iff (placement : Placement) (id : JsString)
    (pos : NodePosition) :
    Entry placement id pos ↔
      EntryAmong placement.children id pos ∨
        id = placement.node.id ∧ pos = placement.rect := by
  constructor
  · rintro ⟨below, placed, rfl, rfl⟩
    rcases Relation.ReflTransGen.cases_head placed with
      rfl | ⟨child, isChild, under⟩
    · exact Or.inr ⟨rfl, rfl⟩
    · exact Or.inl ⟨child, isChild, below, under, rfl, rfl⟩
  · rintro (⟨child, isChild, below, under, sameId, samePos⟩ | ⟨rfl, rfl⟩)
    · exact ⟨below, .head isChild under, sameId, samePos⟩
    · exact ⟨placement, .refl, rfl, rfl⟩

theorem items_spots (placement : Placement) :
    placement.spots.map Spot.item =
      if placement.node.type = .file then [] else placement.node.children := by
  obtain ⟨⟨id, type, renderHints, children⟩, x, y, availableWidth⟩ := placement
  cases type with
  | file =>
      rfl
  | zone =>
      exact items_flow _ _ _ _ _ children
  | _ =>
      exact items_stack _ _ _ _ children

/-- The children of a placement are those of its node, unless it is a
file. -/
theorem exists_placed_child_iff (placement : Placement) (node : LayoutNode) :
    (∃ child ∈ placement.children, child.node = node) ↔
      placement.node.type ≠ .file ∧ node ∈ placement.node.children := by
  have nodes :
      placement.children.map Placement.node =
        placement.spots.map Spot.item := by
    rw [Placement.children, List.map_map]
    rfl
  rw [← List.mem_map, nodes, items_spots]
  split
  case isTrue isFile =>
    simp [isFile]
  case isFalse other =>
    simp [other]

theorem mem_indexNodes_of_placed {placement below : Placement}
    (placed : Placed placement below) :
    below.node ∈ indexNodes placement.node := by
  induction placed using Relation.ReflTransGen.head_induction_on with
  | refl =>
      exact self_mem_indexNodes below.node
  | @head placement child isChild _ inductionHypothesis =>
      have found :=
        (exists_placed_child_iff placement child.node).mp
          ⟨child, isChild, rfl⟩
      exact mem_indexNodes_of_child found.2 inductionHypothesis

/-- The same nodes are placed below a node wherever it is put. -/
theorem exists_placed_elsewhere {node : LayoutNode} {availableWidth : ℚ}
    {x y : ℚ} {below : Placement}
    (placed : Placed ⟨node, x, y, availableWidth⟩ below) (left top : ℚ) :
    ∃ other, Placed ⟨node, left, top, availableWidth⟩ other ∧
      other.node = below.node := by
  induction placed with
  | refl =>
      exact ⟨_, .refl, rfl⟩
  | @tail below child _ isChild inductionHypothesis =>
      obtain ⟨other, placed, sameNode⟩ := inductionHypothesis
      have found :=
        (exists_placed_child_iff below child.node).mp ⟨child, isChild, rfl⟩
      rw [← sameNode] at found
      obtain ⟨next, isNext, same⟩ :=
        (exists_placed_child_iff other child.node).mpr found
      exact ⟨next, .tail placed isNext, same⟩

/-! ### What the layout writes -/

/-- The ids of a node and of all nodes below it. -/
def idsOf (node : LayoutNode) : List JsString :=
  (indexNodes node).map LayoutNode.id

/-- No id of the one tree is an id of the other one. -/
def IdsApart (first second : LayoutNode) : Prop :=
  (idsOf first).Disjoint (idsOf second)

theorem id_mem_of_entry {placement : Placement} {id : JsString}
    {pos : NodePosition} (entry : Entry placement id pos) :
    id ∈ idsOf placement.node := by
  obtain ⟨below, placed, rfl, -⟩ := entry
  exact List.mem_map_of_mem (mem_indexNodes_of_placed placed)

theorem id_mem_of_entryAmong {availableWidth : ℚ}
    {spots : List (Spot LayoutNode ℚ)} {id : JsString} {pos : NodePosition}
    (entry :
      EntryAmong (spots.map (Placement.offered availableWidth)) id pos) :
    ∃ item ∈ spots.map Spot.item, id ∈ idsOf item := by
  obtain ⟨placement, member, entry⟩ := entry
  obtain ⟨spot, isSpot, rfl⟩ := List.mem_map.mp member
  exact ⟨spot.item, List.mem_map_of_mem isSpot, id_mem_of_entry entry⟩

/-- The ids of a placed item are apart from those of the items after it. -/
theorem entries_apart {availableWidth : ℚ} {first : Placement}
    {rest : List LayoutNode} {spots : List (Spot LayoutNode ℚ)}
    (items : spots.map Spot.item = rest)
    (apart : ∀ item ∈ rest, IdsApart first.node item) (id : JsString)
    (pos other : NodePosition) (entry : Entry first id pos) :
    ¬ EntryAmong (spots.map (Placement.offered availableWidth)) id other := by
  intro later
  obtain ⟨item, isItem, member⟩ := id_mem_of_entryAmong later
  rw [items] at isItem
  exact apart item isItem (id_mem_of_entry entry) member

/-- Laying out any of the children writes its entries. -/
def EachUpdates (availableWidth : ℚ) (children : List LayoutNode) : Prop :=
  ∀ child ∈ children, ∀ x y positions,
    Updates (Entry ⟨child, x, y, availableWidth⟩) positions
      (layoutTree child x y availableWidth positions).positions

section

variable {size : LayoutNode → Box ℚ} {availableWidth : ℚ}
variable {children : List LayoutNode}

theorem updates_stackChildren
    (sized : Sized size availableWidth children)
    (each : EachUpdates availableWidth children)
    (apart : children.Pairwise IdsApart) (innerX : ℚ) (loop : StackLoop) :
    Updates
      (EntryAmong
        ((stack innerX (PADDING / 2) size loop.stackY children).map
          (Placement.offered availableWidth)))
      loop.positions
      (stackChildren children innerX availableWidth loop).positions := by
  induction children generalizing loop with
  | nil =>
      exact (Updates.nothing loop.positions).congr fun _ _ => by
        simp [EntryAmong, stack]
  | cons child rest inductionHypothesis =>
      rw [Sized, List.forall_mem_cons] at sized
      rw [EachUpdates, List.forall_mem_cons] at each
      rw [List.pairwise_cons] at apart
      rw [stackChildren, stack, List.map_cons]
      have later :=
        inductionHypothesis sized.2 each.2 apart.2
          ⟨loop.stackY + (size child).height + PADDING / 2,
            (layoutTree child innerX loop.stackY availableWidth
              loop.positions).positions⟩
      rw [sized.1]
      refine ((each.1 _ _ _).append later ?_).congr fun id pos =>
        (entryAmong_cons _ _ id pos).symm
      exact entries_apart (items_stack _ _ _ _ rest) apart.1

theorem updates_tileZone
    (sized : Sized size FILE_WIDTH children)
    (each : EachUpdates FILE_WIDTH children)
    (apart : children.Pairwise IdsApart) (innerX wrapAt : ℚ)
    (loop : ZoneLoop) :
    Updates
      (EntryAmong
        ((flow innerX wrapAt (PADDING / 2) size loop.cursor children).map
          (Placement.offered FILE_WIDTH)))
      loop.positions (tileZone children innerX wrapAt loop).positions := by
  induction children generalizing loop with
  | nil =>
      exact (Updates.nothing loop.positions).congr fun _ _ => by
        simp [EntryAmong, flow]
  | cons child rest inductionHypothesis =>
      rw [Sized, List.forall_mem_cons] at sized
      rw [EachUpdates, List.forall_mem_cons] at each
      rw [List.pairwise_cons] at apart
      obtain ⟨next, before, passes, cursor, written, earlier⟩ :=
        tileZone_cons (by simpa [Sized] using sized.1) rest innerX wrapAt loop
      have later := inductionHypothesis sized.2 each.2 apart.2 next
      rw [cursor, written] at later
      rw [passes, flow, List.map_cons]
      let settled :=
        loop.cursor.settle innerX wrapAt (PADDING / 2) (size child)
      have child_updates :
          Updates (Entry ⟨child, settled.x, settled.y, FILE_WIDTH⟩)
            loop.positions
            (layoutTree child settled.x settled.y FILE_WIDTH
              before).positions := by
        rcases earlier with rfl | rfl
        · exact each.1 _ _ _
        · -- The row wrapped: the second layout covers what the first wrote.
          refine (each.1 _ _ _).overwrite (each.1 _ _ _) ?_
          rintro id pos ⟨below, placed, sameId, -⟩
          obtain ⟨other, elsewhere, sameNode⟩ :=
            exists_placed_elsewhere placed settled.x settled.y
          exact ⟨other.rect, other, elsewhere, sameNode ▸ sameId, rfl⟩
      refine (child_updates.append later ?_).congr fun id pos =>
        (entryAmong_cons _ _ id pos).symm
      exact entries_apart (items_flow _ _ _ _ _ rest) apart.1

end

theorem uniqueIds_iff (tree : LayoutNode) :
    UniqueIds tree ↔
      (∀ child ∈ tree.children, UniqueIds child) ∧
        tree.children.Pairwise IdsApart ∧
        ∀ child ∈ tree.children, tree.id ∉ idsOf child := by
  rw [UniqueIds, indexNodes_eq, List.map_cons, List.nodup_cons,
    List.map_flatMap, List.nodup_flatMap, List.mem_flatMap]
  simp only [not_exists, not_and]
  constructor
  · rintro ⟨own, each, apart⟩
    exact ⟨each, apart, own⟩
  · rintro ⟨each, apart, own⟩
    exact ⟨own, each, apart⟩

/-- The children of a node write the entries of its placed children. -/
theorem updates_childPositions {tree : LayoutNode} (noHints : NoHints tree)
    (availableWidth : ℚ)
    (each :
      EachUpdates (offeredWidth tree.type availableWidth) tree.children)
    (apart : tree.children.Pairwise IdsApart) (x y : ℚ)
    (positions : Positions) :
    Updates
      (EntryAmong (Placement.children ⟨tree, x, y, availableWidth⟩))
      positions (childPositions tree x y availableWidth positions) := by
  have sized :=
    sized_children noHints (offeredWidth tree.type availableWidth)
  obtain ⟨id, type, renderHints, children⟩ := tree
  cases type with
  | file =>
      exact (Updates.nothing positions).congr fun _ _ => by
        simp [EntryAmong, Placement.children, Placement.spots]
  | zone =>
      exact updates_tileZone sized each apart _ _
        ⟨x + PADDING, y + NODE_HEIGHT_DEFAULT + PADDING / 2, 0, positions⟩
  | _ =>
      exact updates_stackChildren sized each apart (x + PADDING)
        ⟨y + NODE_HEIGHT_DEFAULT + PADDING / 2, positions⟩

/-- `layoutTree` writes the rectangles of the placement and of those below it,
and changes no others. -/
theorem updates_layoutTree {tree : LayoutNode} (unique : UniqueIds tree)
    (noHints : NoHints tree) (x y availableWidth : ℚ)
    (positions : Positions) :
    Updates (Entry ⟨tree, x, y, availableWidth⟩) positions
      (layoutTree tree x y availableWidth positions).positions := by
  induction tree using LayoutNode.induction
    generalizing x y availableWidth positions with
  | step tree inductionHypothesis =>
      obtain ⟨uniqueChildren, apart, own⟩ := (uniqueIds_iff tree).mp unique
      have below :=
        updates_childPositions noHints availableWidth
          (fun child isChild x y positions =>
            inductionHypothesis child isChild (uniqueChildren child isChild)
              (noHints_of_child noHints isChild) x y _ positions)
          apart x y positions
      rw [layoutTree_eq noHints]
      refine (below.append (Updates.set _ _ _) ?_).congr fun id pos =>
        (entry_iff _ id pos).symm
      rintro id pos other ⟨child, isChild, entry⟩ ⟨rfl, -⟩
      have found :=
        (exists_placed_child_iff _ child.node).mp ⟨child, isChild, rfl⟩
      exact own child.node found.2 (id_mem_of_entry entry)

/-- From an empty map, `layoutTree` leaves exactly the rectangles of the
placed nodes. -/
theorem get_layoutTree_iff {tree : LayoutNode} (unique : UniqueIds tree)
    (noHints : NoHints tree) (x y availableWidth : ℚ) (id : JsString)
    (pos : NodePosition) :
    (layoutTree tree x y availableWidth .empty).positions.get id = some pos ↔
      Entry ⟨tree, x, y, availableWidth⟩ id pos :=
  (updates_layoutTree unique noHints x y availableWidth .empty).get_eq_some_iff
    id pos

/-! ### The parent of a node -/

theorem eq_of_id_eq {tree first second : LayoutNode} (unique : UniqueIds tree)
    (isFirst : first ∈ indexNodes tree) (isSecond : second ∈ indexNodes tree)
    (same : first.id = second.id) : first = second :=
  List.inj_on_of_nodup_map unique isFirst isSecond same

theorem mem_indexNodes_child {tree parent child : LayoutNode}
    (isNode : parent ∈ indexNodes tree) (isChild : child ∈ parent.children) :
    child ∈ indexNodes tree := by
  induction tree using LayoutNode.induction with
  | step tree inductionHypothesis =>
      rcases mem_indexNodes_iff.mp isNode with rfl | ⟨inner, isInner, below⟩
      · exact mem_indexNodes_of_child isChild (self_mem_indexNodes child)
      · exact mem_indexNodes_of_child isInner
          (inductionHypothesis inner isInner below)

/-- A child of a node below the root has its id among those of the root. -/
theorem id_mem_of_child {tree parent child : LayoutNode}
    (isNode : parent ∈ indexNodes tree) (isChild : child ∈ parent.children) :
    child.id ∈ idsOf tree :=
  List.mem_map_of_mem (mem_indexNodes_child isNode isChild)

theorem not_child_of_below {tree parent : LayoutNode}
    (unique : UniqueIds tree) (isNode : parent ∈ indexNodes tree) :
    tree ∉ parent.children := by
  intro isChild
  have own := ((uniqueIds_iff tree).mp unique).2.2
  rcases mem_indexNodes_iff.mp isNode with rfl | ⟨inner, isInner, below⟩
  · exact own parent isChild
      (List.mem_map_of_mem (self_mem_indexNodes parent))
  · exact own inner isInner
      (List.mem_map_of_mem (mem_indexNodes_child below isChild))

/-- Two children that share an id are the same one. -/
theorem child_eq_of_shared {tree first second : LayoutNode} {id : JsString}
    (unique : UniqueIds tree) (isFirst : first ∈ tree.children)
    (isSecond : second ∈ tree.children) (inFirst : id ∈ idsOf first)
    (inSecond : id ∈ idsOf second) : first = second := by
  by_contra different
  have apart := ((uniqueIds_iff tree).mp unique).2.1
  have symmetric : Std.Symm IdsApart :=
    ⟨fun _ _ disjoint _ inSecond inFirst =>
      disjoint inFirst inSecond⟩
  exact apart.forall isFirst isSecond different inFirst inSecond

theorem parent_unique {tree parent other child : LayoutNode}
    (unique : UniqueIds tree) (isNode : parent ∈ indexNodes tree)
    (isOther : other ∈ indexNodes tree) (isChild : child ∈ parent.children)
    (ofOther : child ∈ other.children) : parent = other := by
  have ownId : child.id ∈ idsOf child :=
    List.mem_map_of_mem (self_mem_indexNodes child)
  induction tree using LayoutNode.induction with
  | step tree inductionHypothesis =>
      have uniqueChildren := ((uniqueIds_iff tree).mp unique).1
      rcases mem_indexNodes_iff.mp isNode with rfl | ⟨inner, isInner, below⟩
      · rcases mem_indexNodes_iff.mp isOther with
          rfl | ⟨inner, isInner, below⟩
        · rfl
        · cases child_eq_of_shared unique isChild isInner ownId
            (id_mem_of_child below ofOther)
          exact absurd ofOther
            (not_child_of_below (uniqueChildren child isChild) below)
      · have shared := id_mem_of_child below isChild
        rcases mem_indexNodes_iff.mp isOther with
          rfl | ⟨otherInner, isOtherInner, otherBelow⟩
        · cases child_eq_of_shared unique ofOther isInner ownId shared
          exact absurd isChild
            (not_child_of_below (uniqueChildren child ofOther) below)
        · cases child_eq_of_shared unique isInner isOtherInner shared
            (id_mem_of_child otherBelow ofOther)
          exact inductionHypothesis inner isInner
            (uniqueChildren inner isInner) below otherBelow

/-- A child that has a rectangle has a parent that is placed and is no
file. -/
theorem exists_placed_parent {tree parent child : LayoutNode}
    (unique : UniqueIds tree) (isNode : parent ∈ indexNodes tree)
    (isChild : child ∈ parent.children) {x y availableWidth : ℚ}
    {pos : NodePosition}
    (entry : Entry ⟨tree, x, y, availableWidth⟩ child.id pos) :
    ∃ placement, Placed ⟨tree, x, y, availableWidth⟩ placement ∧
      placement.node = parent ∧ parent.type ≠ .file := by
  obtain ⟨below, placed, sameId, -⟩ := entry
  have sameNode : below.node = child :=
    eq_of_id_eq unique (mem_indexNodes_of_placed placed)
      (mem_indexNodes_child isNode isChild) sameId
  rcases Relation.ReflTransGen.cases_tail placed with
    rfl | ⟨placement, above, isBelow⟩
  · cases sameNode
    exact absurd isChild (not_child_of_below unique isNode)
  · have found :=
      (exists_placed_child_iff placement child).mp ⟨below, isBelow, sameNode⟩
    have same : placement.node = parent :=
      parent_unique unique (mem_indexNodes_of_placed above) isNode found.2
        isChild
    exact ⟨placement, above, same, same ▸ found.1⟩

/-- The rectangle of a placed node. -/
theorem eq_rect_of_entry {root placement : Placement}
    (unique : UniqueIds root.node) (noHints : NoHints root.node)
    (placed : Placed root placement) {pos : NodePosition}
    (entry : Entry root placement.node.id pos) : pos = placement.rect := by
  obtain ⟨tree, x, y, availableWidth⟩ := root
  have found :=
    (get_layoutTree_iff unique noHints x y availableWidth _ pos).mpr entry
  have own :=
    (get_layoutTree_iff unique noHints x y availableWidth _
      placement.rect).mpr ⟨placement, placed, rfl, rfl⟩
  rw [found] at own
  exact Option.some.inj own

end RtsNotebook.Webviews.MapView
