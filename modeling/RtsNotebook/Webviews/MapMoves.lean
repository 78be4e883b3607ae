import RtsNotebook.Library.MappedLists
import RtsNotebook.Webviews.MapHints

/-!
# Moving a part of the map

What a position hint on one node does to the layout of the whole tree.  All
that is laid out below the node moves by as much as the node does.  Outside of
it no column and no width changes, and what is laid out before the node
stays where it is.
-/

namespace RtsNotebook.Webviews.MapView

open RtsNotebook.Library RtsNotebook.Js

/-! ### Moving a node by its hint -/

mutual

/-- The tree with a position hint on the nodes with an id. -/
def withPosition (id : JsString) (position : ℚ × ℚ) :
    LayoutNode → LayoutNode
  | ⟨own, type, renderHints, children⟩ =>
      { id := own
        type := type
        renderHints :=
          if own = id then
            some
              ((js "position",
                .array [.number position.1, .number position.2]) ::
                renderHints.getD [])
          else
            renderHints
        children := withPositions id position children }

def withPositions (id : JsString) (position : ℚ × ℚ) :
    List LayoutNode → List LayoutNode
  | [] => []
  | child :: rest =>
      withPosition id position child :: withPositions id position rest

end

section

variable (id : JsString) (position : ℚ × ℚ)

theorem withPositions_eq (children : List LayoutNode) :
    withPositions id position children =
      children.map (withPosition id position) := by
  induction children with
  | nil =>
      rfl
  | cons child rest inductionHypothesis =>
      rw [withPositions, inductionHypothesis, List.map_cons]

@[simp]
theorem id_withPosition (node : LayoutNode) :
    (withPosition id position node).id = node.id := by
  obtain ⟨own, type, renderHints, children⟩ := node
  rw [withPosition]

@[simp]
theorem type_withPosition (node : LayoutNode) :
    (withPosition id position node).type = node.type := by
  obtain ⟨own, type, renderHints, children⟩ := node
  rw [withPosition]

@[simp]
theorem children_withPosition (node : LayoutNode) :
    (withPosition id position node).children =
      node.children.map (withPosition id position) := by
  obtain ⟨own, type, renderHints, children⟩ := node
  rw [withPosition, withPositions_eq]

theorem idsOf_withPosition (tree : LayoutNode) :
    idsOf (withPosition id position tree) = idsOf tree := by
  induction tree using LayoutNode.induction with
  | step tree inductionHypothesis =>
      rw [idsOf_eq, idsOf_eq, id_withPosition, children_withPosition,
        List.flatMap_map, List.flatMap_congr inductionHypothesis]

theorem uniqueIds_withPosition {tree : LayoutNode} (unique : UniqueIds tree) :
    UniqueIds (withPosition id position tree) := by
  change (idsOf (withPosition id position tree)).Nodup
  rw [idsOf_withPosition]
  exact unique

variable {id}

theorem withPosition_of_not_mem {tree : LayoutNode}
    (foreign : id ∉ idsOf tree) : withPosition id position tree = tree := by
  induction tree using LayoutNode.induction with
  | step tree inductionHypothesis =>
      obtain ⟨own, type, renderHints, children⟩ := tree
      rw [idsOf_eq, List.mem_cons, not_or, List.mem_flatMap] at foreign
      obtain ⟨different, below⟩ := foreign
      have same : children.map (withPosition id position) = children := by
        rw [map_eq_self_iff]
        intro child isChild
        exact inductionHypothesis child isChild fun shared =>
          below ⟨child, isChild, shared⟩
      rw [withPosition, withPositions_eq, same, if_neg (Ne.symm different)]

/-- The nodes that are laid out, and the widths that they are offered, do not
depend on the hint. -/
theorem offers_withPosition {tree below : LayoutNode}
    {availableWidth width : ℚ}
    (offers : Offers tree availableWidth below width) :
    Offers (withPosition id position tree) availableWidth
      (withPosition id position below) width := by
  induction offers with
  | self node availableWidth =>
      exact .self _ availableWidth
  | @child node child below availableWidth width container isChild under
      inductionHypothesis =>
      refine @Offers.child _ (withPosition id position child) _ _ _ ?_ ?_ ?_
      · rw [type_withPosition]
        exact container
      · rw [children_withPosition]
        exact List.mem_map_of_mem isChild
      · rw [type_withPosition]
        exact inductionHypothesis

end

theorem unhinted_withPosition {tree : LayoutNode} (unique : UniqueIds tree)
    (position : ℚ × ℚ) :
    (withPosition tree.id position tree).unhinted = tree.unhinted := by
  have own := ((uniqueIds_iff tree).mp unique).2.2
  have same :
      tree.children.map (withPosition tree.id position) = tree.children := by
    rw [map_eq_self_iff]
    intro child isChild
    exact withPosition_of_not_mem position (own child isChild)
  rw [LayoutNode.unhinted, LayoutNode.unhinted, LayoutNode.mk.injEq]
  simp [same]

theorem readPositionHint_withPosition (tree : LayoutNode)
    (position : ℚ × ℚ) :
    readPositionHint (withPosition tree.id position tree).renderHints =
      some position := by
  obtain ⟨own, type, renderHints, children⟩ := tree
  simp [withPosition, readPositionHint]

/-! ### Layouts at another place -/

def Placement.moved (right down : ℚ) (placement : Placement) : Placement where
  node := placement.node
  x := placement.x + right
  y := placement.y + down
  availableWidth := placement.availableWidth

theorem spots_moved (right down : ℚ) (placement : Placement) :
    (placement.moved right down).spots =
      placement.spots.map (Spot.moved right down) := by
  obtain ⟨⟨id, type, renderHints, children⟩, x, y, availableWidth⟩ := placement
  have left : x + right + PADDING = x + PADDING + right := by
    ring
  have top :
      y + down + NODE_HEIGHT_DEFAULT + PADDING / 2 =
        y + NODE_HEIGHT_DEFAULT + PADDING / 2 + down := by
    ring
  cases type with
  | file =>
      rfl
  | zone =>
      have limit :
          x + right + innerWidth availableWidth + PADDING =
            x + innerWidth availableWidth + PADDING + right := by
        ring
      have start :
          zoneStart (x + right) (y + down) =
            (zoneStart x y).moved right down := by
        rw [zoneStart, left, top]
        rfl
      simp only [Placement.moved, Placement.spots, left, limit, start]
      exact flow_moved right down (zoneStart x y) children
  | _ =>
      simp only [Placement.moved, Placement.spots, left, top]
      exact stack_moved _ _ _ _ right down children

theorem children_moved (right down : ℚ) (placement : Placement) :
    (placement.moved right down).children =
      placement.children.map (Placement.moved right down) := by
  rw [Placement.children, Placement.children, spots_moved, List.map_map,
    List.map_map]
  rfl

theorem placed_moved {root below : Placement} (placed : Placed root below)
    (right down : ℚ) :
    Placed (root.moved right down) (below.moved right down) := by
  induction placed with
  | refl =>
      exact .refl
  | @tail below child _ isChild inductionHypothesis =>
      refine .tail inductionHypothesis ?_
      rw [children_moved]
      exact List.mem_map_of_mem isChild

/-- Without hints, a layout moves with the place of its root. -/
theorem drawn_moved {tree : LayoutNode} (unique : UniqueIds tree)
    (noHints : NoHints tree) (x y availableWidth right down : ℚ)
    (id : JsString) :
    drawn tree (x + right) (y + down) availableWidth id =
      (drawn tree x y availableWidth id).map (Rect.moved right down) := by
  cases found : drawn tree x y availableWidth id with
  | none =>
      have nowhere := (steady_layoutTree tree).ids x y availableWidth id
      rw [found] at nowhere
      rw [Option.map_none, ← Option.not_isSome_iff_eq_none,
        (steady_layoutTree tree).ids, ← nowhere]
      exact Bool.false_ne_true
  | some pos =>
      obtain ⟨below, placed, sameId, rfl⟩ :=
        (get_layoutTree_iff unique noHints x y availableWidth id pos).mp found
      exact
        (get_layoutTree_iff unique noHints _ _ availableWidth id _).mpr
          ⟨below.moved right down, placed_moved placed right down, sameId,
            rfl⟩

/-! ### Moving a part of a tree -/

theorem drawn_unhinted (node : LayoutNode) (x y availableWidth : ℚ)
    (id : JsString) :
    drawn node x y availableWidth id =
      drawn node.unhinted (originX node x) (originY node y) availableWidth
        id := by
  rw [drawn, layoutTree_unhinted]
  rfl

theorem drawn_self (node : LayoutNode) (x y availableWidth : ℚ) :
    drawn node x y availableWidth node.id =
      some (layoutTree node x y availableWidth .empty).pos := by
  rw [drawn, positions_layoutTree, OrderedMap.get_set_self]

theorem origin_layoutTree (node : LayoutNode) (x y availableWidth : ℚ)
    (positions : Positions) :
    (layoutTree node x y availableWidth positions).pos.x = originX node x ∧
      (layoutTree node x y availableWidth positions).pos.y =
        originY node y := by
  obtain ⟨id, type, renderHints, children⟩ := node
  rw [layoutTree]
  split
  · exact ⟨rfl, rfl⟩
  · cases type <;> exact ⟨rfl, rfl⟩

theorem uniqueIds_unhinted {node : LayoutNode} :
    UniqueIds node.unhinted ↔ UniqueIds node := by
  obtain ⟨id, type, renderHints, children⟩ := node
  rw [LayoutNode.unhinted, uniqueIds_iff, uniqueIds_iff]

theorem noHints_unhinted {node : LayoutNode}
    (below : ∀ child ∈ node.children, NoHints child) :
    NoHints node.unhinted := by
  intro inner isInner
  rcases mem_indexNodes_iff.mp isInner with rfl | ⟨child, isChild, under⟩
  · rfl
  · exact below child isChild inner under

theorem uniqueIds_of_mem {tree node : LayoutNode} (unique : UniqueIds tree)
    (isNode : node ∈ indexNodes tree) : UniqueIds node := by
  induction tree using LayoutNode.induction with
  | step tree inductionHypothesis =>
      rcases mem_indexNodes_iff.mp isNode with rfl | ⟨child, isChild, under⟩
      · exact unique
      · exact inductionHypothesis child isChild
          (((uniqueIds_iff tree).mp unique).1 child isChild) under

/-- Where a node has a position hint, all that is laid out below it moves by
as much as its own rectangle does. -/
theorem drawn_withPosition {tree node : LayoutNode} (unique : UniqueIds tree)
    (isNode : node ∈ indexNodes tree)
    (below : ∀ child ∈ node.children, NoHints child)
    {x y availableWidth : ℚ} {pos : NodePosition}
    (found : drawn tree x y availableWidth node.id = some pos)
    (right down : ℚ) {inner : LayoutNode}
    (isInner : inner ∈ indexNodes node) :
    drawn (withPosition node.id (pos.x + right, pos.y + down) tree) x y
        availableWidth inner.id =
      (drawn tree x y availableWidth inner.id).map
        (Rect.moved right down) := by
  have uniqueNode := uniqueIds_of_mem unique isNode
  obtain ⟨other, width, offers, sameId⟩ :=
    ((steady_layoutTree tree).ids x y availableWidth node.id).mp
      (Option.isSome_of_eq_some found)
  obtain rfl : other = node :=
    eq_of_id_eq unique (mem_indexNodes_of_offers offers) isNode sameId
  let position := (pos.x + right, pos.y + down)
  obtain ⟨left, top, before⟩ := exists_place_of_offers unique offers x y
  obtain ⟨newLeft, newTop, after⟩ :=
    exists_place_of_offers
      (uniqueIds_withPosition other.id position unique)
      (offers_withPosition position offers) x y
  rw [idsOf_withPosition] at after
  have isOwn : other.id ∈ idsOf other :=
    List.mem_map_of_mem (self_mem_indexNodes other)
  have inOther : inner.id ∈ idsOf other := List.mem_map_of_mem isInner
  -- The rectangle of the node itself tells where the part was laid out.
  have origin := origin_layoutTree other left top width .empty
  rw [before _ isOwn, drawn_self, Option.some.injEq] at found
  rw [found] at origin
  have hint := readPositionHint_withPosition other position
  rw [after _ inOther, before _ inOther, drawn_unhinted,
    drawn_unhinted other, unhinted_withPosition uniqueNode, originX, originY,
    hint, ← origin.1, ← origin.2]
  exact drawn_moved (uniqueIds_unhinted.mpr uniqueNode)
    (noHints_unhinted below) pos.x pos.y width right down inner.id

/-! ### Outside of the part -/

section

variable {id : JsString} {position : ℚ × ℚ} {children : List LayoutNode}

/-- The two nodes are equally wide wherever they are laid out. -/
def SameWidth (first second : LayoutNode) : Prop :=
  ∀ x y left top availableWidth positions others,
    (layoutTree first x y availableWidth positions).pos.width =
      (layoutTree second left top availableWidth others).pos.width

theorem tileWorkspace_maxChildW_withPosition
    (each : ∀ child ∈ children,
      SameWidth (withPosition id position child) child)
    (innerX left availableWidth : ℚ) {loop other : WorkspaceLoop}
    (start : loop.maxChildW = other.maxChildW) :
    (tileWorkspace (children.map (withPosition id position)) innerX
        availableWidth loop).maxChildW =
      (tileWorkspace children left availableWidth other).maxChildW := by
  induction children generalizing loop other with
  | nil =>
      exact start
  | cons child rest inductionHypothesis =>
      rw [List.forall_mem_cons] at each
      rw [List.map_cons, tileWorkspace, tileWorkspace]
      apply inductionHypothesis each.2
      exact congrArg₂ max start (each.1 _ _ _ _ _ _ _)

/-- No hint changes a width. -/
theorem width_withPosition (id : JsString) (position : ℚ × ℚ)
    (node : LayoutNode) : SameWidth (withPosition id position node) node := by
  induction node using LayoutNode.induction with
  | step node inductionHypothesis =>
      obtain ⟨own, type, renderHints, children⟩ := node
      intro x y left top availableWidth positions others
      rw [withPosition, withPositions_eq, layoutTree, layoutTree,
        List.length_map]
      by_cases leaf : type = .file ∨ children.length = 0
      · rw [if_pos leaf, if_pos leaf]
      · rw [if_neg leaf, if_neg leaf]
        cases type with
        | workspace =>
            exact congrArg (· + PADDING * 2)
              (tileWorkspace_maxChildW_withPosition inductionHypothesis _ _ _
                rfl)
        | _ =>
            rfl

theorem originX_withPosition {node : LayoutNode} (different : node.id ≠ id)
    (x : ℚ) : originX (withPosition id position node) x = originX node x := by
  obtain ⟨own, type, renderHints, children⟩ := node
  rw [withPosition, originX, originX]
  exact congrArg (fun hints => ((readPositionHint hints).map Prod.fst).getD x)
    (if_neg different)

theorem originY_withPosition {node : LayoutNode} (different : node.id ≠ id)
    (y : ℚ) : originY (withPosition id position node) y = originY node y := by
  obtain ⟨own, type, renderHints, children⟩ := node
  rw [withPosition, originY, originY]
  exact congrArg (fun hints => ((readPositionHint hints).map Prod.snd).getD y)
    (if_neg different)

/-- The column of a rectangle: where it begins, and how wide it is. -/
def column (pos : NodePosition) : ℚ × ℚ :=
  (pos.x, pos.width)

/-- Laid out at the same x, the two nodes draw everything but some ids in the
same columns. -/
def SameColumns (part : List JsString) (first second : LayoutNode) : Prop :=
  ∀ x y top availableWidth, ∀ other ∉ part,
    (drawn first x y availableWidth other).map column =
      (drawn second x top availableWidth other).map column

variable {part : List JsString} {other : JsString}

theorem column_stackChildren
    (each : ∀ child ∈ children,
      SameColumns part (withPosition id position child) child)
    (foreign : other ∉ part) (innerX availableWidth y top : ℚ) :
    ((stackChildren (children.map (withPosition id position)) innerX
        availableWidth ⟨y, .empty⟩).positions.get other).map column =
      ((stackChildren children innerX availableWidth
        ⟨top, .empty⟩).positions.get other).map column := by
  induction children generalizing y top with
  | nil =>
      rfl
  | cons child rest inductionHypothesis =>
      rw [List.forall_mem_cons] at each
      have overlays := fun (items : List LayoutNode) y =>
        (overlays_stackChildren (fun item (_ : item ∈ items) =>
          steady_layoutTree item) innerX availableWidth y).2.1
      rw [List.map_cons, stackChildren, stackChildren, overlays,
        overlays rest, Option.map_or, Option.map_or,
        inductionHypothesis each.2]
      exact congrArg _ (each.1 innerX y top availableWidth other foreign)

theorem wrapsAt_withPosition {innerX wrapAt : ℚ} {cursor start : Cursor ℚ}
    (sameX : cursor.x = start.x) (child : LayoutNode) :
    WrapsAt innerX wrapAt cursor (withPosition id position child) ↔
      WrapsAt innerX wrapAt start child := by
  rw [WrapsAt, WrapsAt, sameX,
    width_withPosition id position child start.x cursor.y start.x start.y
      FILE_WIDTH .empty .empty]

theorem column_tileZone
    (each : ∀ child ∈ children,
      SameColumns part (withPosition id position child) child)
    (foreign : other ∉ part) (innerX wrapAt : ℚ) {cursor start : Cursor ℚ}
    (sameX : cursor.x = start.x) :
    ((tileZone (children.map (withPosition id position)) innerX wrapAt
        ⟨cursor.x, cursor.y, cursor.rowHeight,
          .empty⟩).positions.get other).map column =
      ((tileZone children innerX wrapAt
        ⟨start.x, start.y, start.rowHeight,
          .empty⟩).positions.get other).map column := by
  induction children generalizing cursor start with
  | nil =>
      rfl
  | cons child rest inductionHypothesis =>
      rw [List.forall_mem_cons] at each
      have overlays := fun (items : List LayoutNode) cursor =>
        (overlays_tileZone (fun item (_ : item ∈ items) =>
          steady_layoutTree item) innerX wrapAt cursor).2.1
      obtain ⟨next, left, top, write, leftEq, -, nextX, -, written,
          passes⟩ :=
        tileZone_steady_cons
          (steady_layoutTree (withPosition id position child)) innerX wrapAt
          cursor
      obtain ⟨further, right, bottom, draw, rightEq, -, furtherX, -, drawing,
          goes⟩ :=
        tileZone_steady_cons (steady_layoutTree child) innerX wrapAt start
      have sameWidth := width_withPosition id position child
      have sameLeft : left = right := by
        rw [leftEq, rightEq]
        simp only [wrapsAt_withPosition sameX, sameX]
      have sameNext : next.x = further.x := by
        rw [nextX, furtherX, sameLeft,
          sameWidth right top right bottom FILE_WIDTH .empty .empty]
      rw [List.map_cons, passes, goes, overlays, overlays rest, written,
        drawing, Option.map_or, Option.map_or,
        inductionHypothesis each.2 sameNext, sameLeft,
        each.1 right top bottom FILE_WIDTH other foreign]

theorem column_childPositions {node : LayoutNode}
    (each : ∀ child ∈ node.children,
      SameColumns part (withPosition id position child) child)
    (foreign : other ∉ part) (x y top availableWidth : ℚ) :
    ((childPositions (withPosition id position node) x y availableWidth
        .empty).get other).map column =
      ((childPositions node x top availableWidth .empty).get other).map
        column := by
  rw [childPositions, childPositions, type_withPosition, children_withPosition]
  obtain ⟨own, type, renderHints, children⟩ := node
  cases type with
  | file =>
      rfl
  | zone =>
      exact @column_tileZone id position children part other each foreign
        (x + PADDING) (x + innerWidth availableWidth + PADDING) (zoneStart x y)
        (zoneStart x top) rfl
  | _ =>
      exact column_stackChildren each foreign _ _ _ _

theorem sameColumns_withPosition {tree : LayoutNode}
    (covered : ∀ node ∈ indexNodes tree, node.id = id → idsOf node ⊆ part) :
    SameColumns part (withPosition id position tree) tree := by
  induction tree using LayoutNode.induction with
  | step tree inductionHypothesis =>
      intro x y top availableWidth other foreign
      by_cases same : tree.id = id
      · have outside : other ∉ idsOf tree := fun shared =>
          foreign (covered tree (self_mem_indexNodes tree) same shared)
        rw [drawn_eq_none outside, drawn_eq_none]
        rw [idsOf_withPosition]
        exact outside
      · rw [drawn, drawn, positions_layoutTree,
          positions_layoutTree tree x top, OrderedMap.get_set,
          OrderedMap.get_set, id_withPosition, originX_withPosition same]
        split
        · have sameX : originX (withPosition id position tree) x =
              originX tree x :=
            originX_withPosition same x
          rw [Option.map_some, Option.map_some, column, column,
            width_withPosition id position tree x y x top availableWidth
              .empty .empty,
            (origin_layoutTree _ _ _ _ _).1, (origin_layoutTree _ _ _ _ _).1,
            sameX]
        · exact column_childPositions
            (fun child isChild => inductionHypothesis child isChild
              fun node isNode => covered node
                (mem_indexNodes_of_child isChild isNode))
            foreign _ _ _ _

/-! ### Before the part -/

/-- Laid out at the same place, the two nodes draw some ids in the same
rows. -/
def SameRows (ids : List JsString) (first second : LayoutNode) : Prop :=
  ∀ x y availableWidth, ∀ other ∈ ids,
    (drawn first x y availableWidth other).map Rect.y =
      (drawn second x y availableWidth other).map Rect.y

theorem get_stackChildren_eq_none (foreign : other ∉ children.flatMap idsOf)
    (innerX availableWidth y : ℚ) :
    (stackChildren children innerX availableWidth
      ⟨y, .empty⟩).positions.get other = none := by
  obtain ⟨-, -, spots, items, -, among⟩ :=
    overlays_stackChildren (fun item (_ : item ∈ children) =>
      steady_layoutTree item) innerX availableWidth y
  rw [among]
  apply drawnAmong_eq_none
  intro spot member own
  rw [← items] at foreign
  exact foreign (List.mem_flatMap.mpr
    ⟨spot.item, List.mem_map_of_mem member, own⟩)

theorem get_tileZone_eq_none (foreign : other ∉ children.flatMap idsOf)
    (innerX wrapAt : ℚ) (cursor : Cursor ℚ) :
    (tileZone children innerX wrapAt
      ⟨cursor.x, cursor.y, cursor.rowHeight, .empty⟩).positions.get other =
        none := by
  obtain ⟨-, -, spots, items, among⟩ :=
    overlays_tileZone (fun item (_ : item ∈ children) =>
      steady_layoutTree item) innerX wrapAt cursor
  rw [among]
  apply drawnAmong_eq_none
  intro spot member own
  rw [← items] at foreign
  exact foreign (List.mem_flatMap.mpr
    ⟨spot.item, List.mem_map_of_mem member, own⟩)

theorem flatMap_idsOf_withPosition (children : List LayoutNode) :
    (children.map (withPosition id position)).flatMap idsOf =
      children.flatMap idsOf := by
  rw [List.flatMap_map]
  exact List.flatMap_congr fun child _ => idsOf_withPosition id position child

/-- The ids of a list that come before an id. -/
def before (id : JsString) : List JsString → List JsString
  | [] => []
  | first :: rest => if first = id then [] else first :: before id rest

theorem mem_before_append_iff {first later : List JsString} :
    other ∈ before id (first ++ later) ↔
      other ∈ before id first ∨ id ∉ first ∧ other ∈ before id later := by
  induction first with
  | nil =>
      simp [before]
  | cons head rest inductionHypothesis =>
      rw [List.cons_append, before, before]
      by_cases same : head = id
      · simp [same]
      · rw [if_neg same, if_neg same, List.mem_cons, List.mem_cons,
          inductionHypothesis, List.mem_cons, not_or]
        have different : id ≠ head := Ne.symm same
        tauto

theorem mem_of_mem_before {ids : List JsString}
    (member : other ∈ before id ids) : other ∈ ids := by
  induction ids with
  | nil =>
      exact member
  | cons first rest inductionHypothesis =>
      rw [before] at member
      split at member
      · cases member
      · rcases List.mem_cons.mp member with rfl | later
        · exact List.mem_cons_self
        · exact List.mem_cons_of_mem first (inductionHypothesis later)

/-- Among the ids below some children, those before an id stand below the first
child, or behind one that does not have the id. -/
theorem before_children_cases {child : LayoutNode} {rest : List LayoutNode}
    (apart : (child :: rest).Pairwise IdsApart)
    (early : other ∈ before id ((child :: rest).flatMap idsOf)) :
    (other ∈ before id (idsOf child) ∧ other ∉ rest.flatMap idsOf) ∨
      id ∉ idsOf child ∧ other ∉ idsOf child ∧
        other ∈ before id (rest.flatMap idsOf) := by
  have disjoint : ∀ tested ∈ idsOf child, tested ∉ rest.flatMap idsOf := by
    intro tested own shared
    obtain ⟨item, isItem, inItem⟩ := List.mem_flatMap.mp shared
    exact (List.pairwise_cons.mp apart).1 item isItem own inItem
  rw [List.flatMap_cons, mem_before_append_iff] at early
  rcases early with own | ⟨absent, later⟩
  · exact Or.inl ⟨own, disjoint other (mem_of_mem_before own)⟩
  · exact Or.inr
      ⟨absent, fun own => disjoint other own (mem_of_mem_before later), later⟩

theorem row_stackChildren
    (each : ∀ child ∈ children,
      SameRows (before id (idsOf child)) (withPosition id position child)
        child)
    (apart : children.Pairwise IdsApart)
    (early : other ∈ before id (children.flatMap idsOf))
    (innerX availableWidth y : ℚ) :
    ((stackChildren (children.map (withPosition id position)) innerX
        availableWidth ⟨y, .empty⟩).positions.get other).map Rect.y =
      ((stackChildren children innerX availableWidth
        ⟨y, .empty⟩).positions.get other).map Rect.y := by
  induction children generalizing y with
  | nil =>
      cases early
  | cons child rest inductionHypothesis =>
      rw [List.forall_mem_cons] at each
      have overlays := fun (items : List LayoutNode) y =>
        (overlays_stackChildren (fun item (_ : item ∈ items) =>
          steady_layoutTree item) innerX availableWidth y).2.1
      rw [List.map_cons, stackChildren, stackChildren, overlays,
        overlays rest, Option.map_or, Option.map_or]
      rcases before_children_cases apart early with
        ⟨own, notLater⟩ | ⟨absent, foreign, later⟩
      · have sameChild := each.1 innerX y availableWidth other own
        rw [get_stackChildren_eq_none notLater, get_stackChildren_eq_none]
        · exact congrArg _ sameChild
        · rw [flatMap_idsOf_withPosition]
          exact notLater
      · rw [withPosition_of_not_mem position absent,
          inductionHypothesis each.2 (List.pairwise_cons.mp apart).2 later]

theorem row_tileZone
    (each : ∀ child ∈ children,
      SameRows (before id (idsOf child)) (withPosition id position child)
        child)
    (apart : children.Pairwise IdsApart)
    (early : other ∈ before id (children.flatMap idsOf))
    (innerX wrapAt : ℚ) (cursor : Cursor ℚ) :
    ((tileZone (children.map (withPosition id position)) innerX wrapAt
        ⟨cursor.x, cursor.y, cursor.rowHeight,
          .empty⟩).positions.get other).map Rect.y =
      ((tileZone children innerX wrapAt
        ⟨cursor.x, cursor.y, cursor.rowHeight,
          .empty⟩).positions.get other).map Rect.y := by
  induction children generalizing cursor with
  | nil =>
      cases early
  | cons child rest inductionHypothesis =>
      rw [List.forall_mem_cons] at each
      have overlays := fun (items : List LayoutNode) cursor =>
        (overlays_tileZone (fun item (_ : item ∈ items) =>
          steady_layoutTree item) innerX wrapAt cursor).2.1
      rw [List.map_cons]
      rcases before_children_cases apart early with
        ⟨own, notLater⟩ | ⟨absent, foreign, later⟩
      · obtain ⟨next, left, top, write, leftEq, topEq, -, -, written,
            passes⟩ :=
          tileZone_steady_cons
            (steady_layoutTree (withPosition id position child)) innerX wrapAt
            cursor
        obtain ⟨further, right, bottom, draw, rightEq, bottomEq, -, -,
            drawing, goes⟩ :=
          tileZone_steady_cons (steady_layoutTree child) innerX wrapAt cursor
        have sameLeft : left = right := by
          rw [leftEq, rightEq]
          simp only [wrapsAt_withPosition rfl]
        have sameTop : top = bottom := by
          rw [topEq, bottomEq]
          simp only [wrapsAt_withPosition rfl]
        have notThere :
            other ∉ (rest.map (withPosition id position)).flatMap idsOf := by
          rw [flatMap_idsOf_withPosition]
          exact notLater
        rw [passes, goes, overlays, overlays rest, written, drawing,
          get_tileZone_eq_none notLater, get_tileZone_eq_none notThere,
          Option.none_or, Option.none_or, sameLeft, sameTop]
        exact each.1 right bottom FILE_WIDTH other own
      · obtain ⟨next, left, top, write, -, -, -, -, written, passes⟩ :=
          tileZone_steady_cons (steady_layoutTree child) innerX wrapAt cursor
        rw [withPosition_of_not_mem position absent, passes, passes, overlays,
          overlays rest, Option.map_or, Option.map_or,
          inductionHypothesis each.2 (List.pairwise_cons.mp apart).2 later]

theorem row_childPositions {node : LayoutNode}
    (each : ∀ child ∈ node.children,
      SameRows (before id (idsOf child)) (withPosition id position child)
        child)
    (apart : node.children.Pairwise IdsApart)
    (early : other ∈ before id (node.children.flatMap idsOf))
    (x y availableWidth : ℚ) :
    ((childPositions (withPosition id position node) x y availableWidth
        .empty).get other).map Rect.y =
      ((childPositions node x y availableWidth .empty).get other).map
        Rect.y := by
  rw [childPositions, childPositions, type_withPosition, children_withPosition]
  obtain ⟨own, type, renderHints, children⟩ := node
  cases type with
  | file =>
      rfl
  | zone =>
      exact row_tileZone each apart early (x + PADDING)
        (x + innerWidth availableWidth + PADDING) (zoneStart x y)
  | _ =>
      exact row_stackChildren each apart early _ _ _

theorem sameRows_withPosition {tree : LayoutNode} (unique : UniqueIds tree) :
    SameRows (before id (idsOf tree)) (withPosition id position tree)
      tree := by
  induction tree using LayoutNode.induction with
  | step tree inductionHypothesis =>
      intro x y availableWidth other early
      obtain ⟨uniqueChildren, apart, own⟩ := (uniqueIds_iff tree).mp unique
      rw [idsOf_eq, before] at early
      split at early
      case isTrue same =>
        cases early
      case isFalse different =>
        rw [drawn, drawn, positions_layoutTree,
          positions_layoutTree tree x y, OrderedMap.get_set,
          OrderedMap.get_set, id_withPosition, originX_withPosition different,
          originY_withPosition different]
        split
        case isTrue =>
          have sameY : originY (withPosition id position tree) y =
              originY tree y :=
            originY_withPosition different y
          rw [Option.map_some, Option.map_some, (origin_layoutTree _ _ _ _ _).2,
            (origin_layoutTree _ _ _ _ _).2, sameY]
        case isFalse below =>
          rcases List.mem_cons.mp early with same | later
          · exact absurd same below
          · exact row_childPositions
              (fun child isChild =>
                inductionHypothesis child isChild
                  (uniqueChildren child isChild))
              apart later _ _ _

end

end RtsNotebook.Webviews.MapView
