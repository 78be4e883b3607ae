import RtsNotebook.Webviews.MapPlaces

/-!
# The layout of trees with position hints

A position hint moves a node, and with it all that is laid out below it, but
changes neither the width that the node is offered nor its size.  `layoutTree`
reads nothing from the map that it is passed, so it overlays the map with
what it writes into an empty one, and a part of the tree is drawn as
the layout of that part draws it, at some place.
-/

namespace RtsNotebook.Webviews.MapView

open RtsNotebook.Library RtsNotebook.Js

/-! ### Where a node begins -/

/-- The x coordinate of a node that is laid out at `x`. -/
def originX (node : LayoutNode) (x : ℚ) : ℚ :=
  ((readPositionHint node.renderHints).map Prod.fst).getD x

/-- The y coordinate of a node that is laid out at `y`. -/
def originY (node : LayoutNode) (y : ℚ) : ℚ :=
  ((readPositionHint node.renderHints).map Prod.snd).getD y

/-- The node without its render hints. -/
def LayoutNode.unhinted (node : LayoutNode) : LayoutNode :=
  { node with renderHints := none }

theorem layoutTree_unhinted
    (node : LayoutNode) (x y availableWidth : ℚ) (positions : Positions) :
    layoutTree node x y availableWidth positions =
      layoutTree node.unhinted (originX node x) (originY node y)
        availableWidth positions := by
  obtain ⟨id, type, renderHints, children⟩ := node
  rw [LayoutNode.unhinted, layoutTree, layoutTree]
  rfl

/-- What a node leaves is what its children leave, with its own
rectangle. -/
theorem positions_layoutTree
    (node : LayoutNode) (x y availableWidth : ℚ) (positions : Positions) :
    (layoutTree node x y availableWidth positions).positions =
      (childPositions node (originX node x) (originY node y) availableWidth
        positions).set node.id
          (layoutTree node x y availableWidth positions).pos := by
  by_cases leaf : IsLeaf node
  · rw [childPositions_of_leaf leaf]
    obtain ⟨id, type, renderHints, children⟩ := node
    rw [layoutTree, if_pos (by exact leaf)]
  · obtain ⟨id, type, renderHints, children⟩ := node
    rw [layoutTree, if_neg (by exact leaf)]
    cases type with
    | workspace =>
        have written :=
          (tileWorkspace_eq_stackChildren children
            (originX ⟨id, .workspace, renderHints, children⟩ x + PADDING)
            (innerWidth availableWidth)
            ⟨originY ⟨id, .workspace, renderHints, children⟩ y +
                NODE_HEIGHT_DEFAULT + PADDING / 2,
              innerWidth availableWidth, positions⟩).2
        exact congrArg (fun left : Positions => left.set id _) written
    | file =>
        exact absurd (Or.inl rfl) leaf
    | _ =>
        rfl

/-! ### What is drawn -/

/-- The rectangle that a node leaves under an id in an empty map. -/
def drawn (node : LayoutNode) (x y availableWidth : ℚ) (id : JsString) :
    Option NodePosition :=
  (layoutTree node x y availableWidth .empty).positions.get id

/-- A node that is laid out below another one, with the widths that they are
offered. -/
inductive Offers : LayoutNode → ℚ → LayoutNode → ℚ → Prop
  | self (node : LayoutNode) (availableWidth : ℚ) :
      Offers node availableWidth node availableWidth
  | child {node child below : LayoutNode} {availableWidth width : ℚ} :
      node.type ≠ .file → child ∈ node.children →
      Offers child (offeredWidth node.type availableWidth) below width →
      Offers node availableWidth below width

/-- An id that is drawn wherever the node is laid out. -/
def Drawn (node : LayoutNode) (availableWidth : ℚ) (id : JsString) : Prop :=
  ∃ below width, Offers node availableWidth below width ∧ below.id = id

theorem drawn_iff (node : LayoutNode) (availableWidth : ℚ) (id : JsString) :
    Drawn node availableWidth id ↔
      id = node.id ∨ node.type ≠ .file ∧ ∃ child ∈ node.children,
        Drawn child (offeredWidth node.type availableWidth) id := by
  constructor
  · rintro ⟨below, width, offers, sameId⟩
    cases offers with
    | self =>
        exact Or.inl sameId.symm
    | child container isChild under =>
        exact Or.inr ⟨container, _, isChild, below, width, under, sameId⟩
  · rintro (rfl | ⟨container, child, isChild, below, width, under, sameId⟩)
    · exact ⟨node, availableWidth, .self node availableWidth, rfl⟩
    · exact ⟨below, width, .child container isChild under, sameId⟩

theorem mem_indexNodes_of_offers {tree below : LayoutNode}
    {availableWidth width : ℚ}
    (offers : Offers tree availableWidth below width) :
    below ∈ indexNodes tree := by
  induction offers with
  | self node availableWidth =>
      exact self_mem_indexNodes node
  | child container isChild under inductionHypothesis =>
      exact mem_indexNodes_of_child isChild inductionHypothesis

/-- The layout of a node does not read the map, and draws the same ids
wherever the node is laid out. -/
structure Steady (node : LayoutNode) : Prop where
  pos : ∀ x y availableWidth positions,
    (layoutTree node x y availableWidth positions).pos =
      (layoutTree node x y availableWidth .empty).pos
  overlays : ∀ x y availableWidth, Overlays fun positions =>
    (layoutTree node x y availableWidth positions).positions
  ids : ∀ x y availableWidth id,
    (drawn node x y availableWidth id).isSome ↔ Drawn node availableWidth id

/-- What is drawn of some items at their spots, the later ones over the
earlier ones. -/
def drawnAmong (availableWidth : ℚ) (spots : List (Spot LayoutNode ℚ))
    (id : JsString) : Option NodePosition :=
  match spots with
  | [] => none
  | spot :: rest =>
      (drawnAmong availableWidth rest id).or
        (drawn spot.item spot.x spot.y availableWidth id)

/-! ### The loops over the children -/

section

variable {children : List LayoutNode}

/-- The loop of a stack overlays the map with the drawings of the children at
some spots. -/
theorem overlays_stackChildren
    (steady : ∀ child ∈ children, Steady child)
    (innerX availableWidth stackY : ℚ) :
    (∀ positions,
      (stackChildren children innerX availableWidth
          ⟨stackY, positions⟩).stackY =
        (stackChildren children innerX availableWidth
          ⟨stackY, .empty⟩).stackY) ∧
    (Overlays fun positions =>
      (stackChildren children innerX availableWidth
        ⟨stackY, positions⟩).positions) ∧
    ∃ spots : List (Spot LayoutNode ℚ),
      spots.map Spot.item = children ∧
      (∀ spot ∈ spots, spot.x = innerX) ∧
      ∀ id,
        (stackChildren children innerX availableWidth
          ⟨stackY, .empty⟩).positions.get id =
          drawnAmong availableWidth spots id := by
  induction children generalizing stackY with
  | nil =>
      exact ⟨fun _ => rfl, Overlays.nothing, [], rfl, by simp, fun _ => rfl⟩
  | cons child rest inductionHypothesis =>
      rw [List.forall_mem_cons] at steady
      let pos := (layoutTree child innerX stackY availableWidth .empty).pos
      obtain ⟨sameY, overlays, spots, items, left, among⟩ :=
        inductionHypothesis steady.2 (pos.y + pos.height + PADDING / 2)
      have passes : ∀ positions,
          stackChildren (child :: rest) innerX availableWidth
              ⟨stackY, positions⟩ =
            stackChildren rest innerX availableWidth
              ⟨pos.y + pos.height + PADDING / 2,
                (layoutTree child innerX stackY availableWidth
                  positions).positions⟩ := by
        intro positions
        rw [stackChildren, steady.1.pos]
      refine ⟨fun positions => ?_, ?_,
        ⟨child, innerX, stackY⟩ :: spots, ?_, ?_, fun id => ?_⟩
      · rw [passes, passes, sameY]
        exact (sameY _).symm
      · simp only [passes]
        exact (steady.1.overlays innerX stackY availableWidth).comp overlays
      · rw [List.map_cons, items]
      · exact List.forall_mem_cons.mpr ⟨rfl, left⟩
      · rw [passes, drawnAmong, ← among]
        exact overlays _ id

/-- A child that is laid out twice leaves what the second layout draws. -/
theorem get_laidTwice {child : LayoutNode} (steady : Steady child)
    (x y left top availableWidth : ℚ) (id : JsString) :
    (layoutTree child left top availableWidth
        (layoutTree child x y availableWidth .empty).positions).positions.get
        id =
      drawn child left top availableWidth id := by
  rw [steady.overlays left top availableWidth]
  change (drawn child left top availableWidth id).or
    (drawn child x y availableWidth id) = _
  by_cases isDrawn : Drawn child availableWidth id
  · have present := (steady.ids left top availableWidth id).mpr isDrawn
    exact Option.or_of_isSome present
  · have absent : drawn child x y availableWidth id = none := by
      rw [← Option.not_isSome_iff_eq_none, steady.ids]
      exact isDrawn
    rw [absent, Option.or_none]

/-- A child wraps that is too wide for what is left of its row, unless it is
the first one there. -/
def WrapsAt (innerX wrapAt : ℚ) (cursor : Cursor ℚ) (child : LayoutNode) :
    Prop :=
  wrapAt < cursor.x +
      (layoutTree child cursor.x cursor.y FILE_WIDTH .empty).pos.width ∧
    cursor.x ≠ innerX

instance (innerX wrapAt : ℚ) (cursor : Cursor ℚ) (child : LayoutNode) :
    Decidable (WrapsAt innerX wrapAt cursor child) :=
  inferInstanceAs (Decidable (_ ∧ _))

/-- One pass of the loop of a zone writes what the child draws at some spot,
whose column depends on the widths of the child. -/
theorem tileZone_steady_cons {child : LayoutNode} (steady : Steady child)
    (innerX wrapAt : ℚ) (cursor : Cursor ℚ) :
    ∃ (next : Cursor ℚ) (left top : ℚ) (write : Positions → Positions),
      left =
        (if WrapsAt innerX wrapAt cursor child then innerX else cursor.x) ∧
      top =
        (if WrapsAt innerX wrapAt cursor child then
          cursor.y + (cursor.rowHeight + PADDING / 2)
        else
          cursor.y) ∧
      next.x = left + ((layoutTree child left top FILE_WIDTH .empty).pos.width
        + PADDING / 2) ∧
      Overlays write ∧
      (∀ id, (write .empty).get id = drawn child left top FILE_WIDTH id) ∧
      ∀ rest positions,
        tileZone (child :: rest) innerX wrapAt
            ⟨cursor.x, cursor.y, cursor.rowHeight, positions⟩ =
          tileZone rest innerX wrapAt
            ⟨next.x, next.y, next.rowHeight, write positions⟩ := by
  let pos := (layoutTree child cursor.x cursor.y FILE_WIDTH .empty).pos
  by_cases wraps : WrapsAt innerX wrapAt cursor child
  · let top := cursor.y + (cursor.rowHeight + PADDING / 2)
    let wrapped := (layoutTree child innerX top FILE_WIDTH .empty).pos
    refine
      ⟨⟨innerX + (wrapped.width + PADDING / 2), top, max 0 wrapped.height⟩,
        innerX, top, _, (if_pos wraps).symm, (if_pos wraps).symm, rfl,
        (steady.overlays cursor.x cursor.y FILE_WIDTH).comp
          (steady.overlays innerX top FILE_WIDTH),
        get_laidTwice steady cursor.x cursor.y innerX top FILE_WIDTH,
        fun rest positions => ?_⟩
    rw [tileZone]
    simp only [steady.pos _ _ _ positions]
    rw [if_pos (by exact wraps)]
    simp only [steady.pos _ _ _ (layoutTree child cursor.x cursor.y
      FILE_WIDTH positions).positions]
    rfl
  · refine
      ⟨⟨cursor.x + (pos.width + PADDING / 2), cursor.y,
          max cursor.rowHeight pos.height⟩,
        cursor.x, cursor.y, _, (if_neg wraps).symm, (if_neg wraps).symm, rfl,
        steady.overlays cursor.x cursor.y FILE_WIDTH, fun _ => rfl,
        fun rest positions => ?_⟩
    rw [tileZone]
    simp only [steady.pos _ _ _ positions]
    rw [if_neg (by exact wraps)]

/-- The loop of a zone overlays the map with the drawings of the children at
some spots. -/
theorem overlays_tileZone
    (steady : ∀ child ∈ children, Steady child)
    (innerX wrapAt : ℚ) (cursor : Cursor ℚ) :
    (∀ positions,
      (tileZone children innerX wrapAt
          ⟨cursor.x, cursor.y, cursor.rowHeight, positions⟩).cursor =
        (tileZone children innerX wrapAt
          ⟨cursor.x, cursor.y, cursor.rowHeight, .empty⟩).cursor) ∧
    (Overlays fun positions =>
      (tileZone children innerX wrapAt
        ⟨cursor.x, cursor.y, cursor.rowHeight, positions⟩).positions) ∧
    ∃ spots : List (Spot LayoutNode ℚ),
      spots.map Spot.item = children ∧
      ∀ id,
        (tileZone children innerX wrapAt
          ⟨cursor.x, cursor.y, cursor.rowHeight,
            .empty⟩).positions.get id =
          drawnAmong FILE_WIDTH spots id := by
  induction children generalizing cursor with
  | nil =>
      exact ⟨fun _ => rfl, Overlays.nothing, [], rfl, fun _ => rfl⟩
  | cons child rest inductionHypothesis =>
      rw [List.forall_mem_cons] at steady
      obtain ⟨next, left, top, write, -, -, -, writes, written, passes⟩ :=
        tileZone_steady_cons steady.1 innerX wrapAt cursor
      obtain ⟨sameCursor, overlays, spots, items, among⟩ :=
        inductionHypothesis steady.2 next
      refine ⟨fun positions => ?_, ?_, ⟨child, left, top⟩ :: spots, ?_,
        fun id => ?_⟩
      · rw [passes, passes, sameCursor]
        exact (sameCursor _).symm
      · simp only [passes]
        exact writes.comp overlays
      · rw [List.map_cons, items]
      · rw [passes, drawnAmong, ← among]
        simp only
        rw [overlays, written]

theorem tileWorkspace_maxChildW_steady
    (steady : ∀ child ∈ children, Steady child) (innerX availableWidth : ℚ)
    (innerY maxChildW : ℚ) (positions : Positions) :
    (tileWorkspace children innerX availableWidth
        ⟨innerY, maxChildW, positions⟩).maxChildW =
      (tileWorkspace children innerX availableWidth
        ⟨innerY, maxChildW, .empty⟩).maxChildW := by
  induction children generalizing innerY maxChildW positions with
  | nil =>
      rfl
  | cons child rest inductionHypothesis =>
      rw [List.forall_mem_cons] at steady
      rw [tileWorkspace, tileWorkspace, inductionHypothesis steady.2,
        steady.1.pos, ← inductionHypothesis steady.2]

end

/-- The children of a node overlay the map with what they draw at some
spots. -/
theorem overlays_childPositions {node : LayoutNode}
    (steady : ∀ child ∈ node.children, Steady child)
    (x y availableWidth : ℚ) :
    (Overlays fun positions =>
      childPositions node x y availableWidth positions) ∧
    ∃ spots : List (Spot LayoutNode ℚ),
      spots.map Spot.item =
          (if node.type = .file then [] else node.children) ∧
      ∀ id,
        (childPositions node x y availableWidth .empty).get id =
          drawnAmong (offeredWidth node.type availableWidth) spots id := by
  obtain ⟨id, type, renderHints, children⟩ := node
  cases type with
  | file =>
      exact ⟨Overlays.nothing, [], rfl, fun _ => rfl⟩
  | zone =>
      obtain ⟨-, overlays, spots, items, among⟩ :=
        overlays_tileZone steady (x + PADDING)
          (x + innerWidth availableWidth + PADDING) (zoneStart x y)
      exact ⟨overlays, spots, items, among⟩
  | _ =>
      obtain ⟨-, overlays, spots, items, -, among⟩ :=
        overlays_stackChildren steady (x + PADDING)
          (innerWidth availableWidth) (y + NODE_HEIGHT_DEFAULT + PADDING / 2)
      exact ⟨overlays, spots, items, among⟩

theorem pos_layoutTree_steady {node : LayoutNode}
    (steady : ∀ child ∈ node.children, Steady child)
    (x y availableWidth : ℚ) (positions : Positions) :
    (layoutTree node x y availableWidth positions).pos =
      (layoutTree node x y availableWidth .empty).pos := by
  rw [layoutTree_unhinted, layoutTree_unhinted node x y availableWidth .empty]
  generalize originX node x = left
  generalize originY node y = top
  obtain ⟨id, type, renderHints, children⟩ := node
  by_cases leaf : type = .file ∨ children.length = 0
  · rw [LayoutNode.unhinted, layoutTree, layoutTree, if_pos leaf, if_pos leaf]
  · rw [LayoutNode.unhinted, layoutTree, layoutTree, if_neg leaf, if_neg leaf]
    let innerX := left + PADDING
    let innerY := top + NODE_HEIGHT_DEFAULT + PADDING / 2
    let inner := innerWidth availableWidth
    have stacked : (stackChildren children innerX inner
          ⟨innerY, positions⟩).stackY =
        (stackChildren children innerX inner ⟨innerY, .empty⟩).stackY :=
      (overlays_stackChildren steady innerX inner innerY).1 positions
    cases type with
    | workspace =>
        have width := tileWorkspace_maxChildW_steady steady innerX inner innerY
          inner positions
        have height : (tileWorkspace children innerX inner
              ⟨innerY, inner, positions⟩).innerY =
            (tileWorkspace children innerX inner
              ⟨innerY, inner, .empty⟩).innerY := by
          rw [(tileWorkspace_eq_stackChildren _ _ _ _).1, stacked,
            (tileWorkspace_eq_stackChildren _ _ _ _).1]
        exact Rect.ext rfl rfl (congrArg (· + PADDING * 2) width)
          (congrArg (fun bottom =>
            max (NODE_HEIGHT_DEFAULT * 2) (bottom - top + PADDING / 2))
            height)
    | zone =>
        have cursor :=
          (overlays_tileZone steady innerX (left + inner + PADDING)
            (zoneStart left top)).1 positions
        exact Rect.ext rfl rfl rfl
          (congrArg (fun ending : Cursor ℚ =>
            ending.bottom - top + PADDING) cursor)
    | file =>
        exact absurd (Or.inl rfl) leaf
    | _ =>
        exact Rect.ext rfl rfl rfl
          (congrArg (fun bottom => bottom - top + PADDING / 2) stacked)

theorem isSome_drawnAmong (availableWidth : ℚ)
    (spots : List (Spot LayoutNode ℚ)) (id : JsString) :
    (drawnAmong availableWidth spots id).isSome ↔
      ∃ spot ∈ spots,
        (drawn spot.item spot.x spot.y availableWidth id).isSome := by
  induction spots with
  | nil =>
      simp [drawnAmong]
  | cons spot rest inductionHypothesis =>
      rw [drawnAmong, Option.isSome_or, Bool.or_eq_true, inductionHypothesis,
        List.exists_mem_cons_iff, or_comm]

/-- What a node draws: its own rectangle, and what its children draw at some
spots. -/
theorem exists_spots {node : LayoutNode}
    (steady : ∀ child ∈ node.children, Steady child)
    (x y availableWidth : ℚ) :
    ∃ spots : List (Spot LayoutNode ℚ),
      spots.map Spot.item =
          (if node.type = .file then [] else node.children) ∧
      ∀ id,
        drawn node x y availableWidth id =
          if id = node.id then
            some (layoutTree node x y availableWidth .empty).pos
          else
            drawnAmong (offeredWidth node.type availableWidth) spots id := by
  obtain ⟨-, spots, items, among⟩ :=
    overlays_childPositions steady (originX node x) (originY node y)
      availableWidth
  refine ⟨spots, items, fun id => ?_⟩
  rw [drawn, positions_layoutTree, OrderedMap.get_set, among]

theorem steady_layoutTree (node : LayoutNode) : Steady node := by
  induction node using LayoutNode.induction with
  | step node inductionHypothesis =>
      have pos := pos_layoutTree_steady inductionHypothesis
      refine ⟨pos, ?_, ?_⟩
      · intro x y availableWidth
        have below :=
          (overlays_childPositions inductionHypothesis (originX node x)
            (originY node y) availableWidth).1
        have own :=
          Overlays.set node.id (layoutTree node x y availableWidth .empty).pos
        simp only [positions_layoutTree node x y, pos]
        exact below.comp own
      · intro x y availableWidth id
        obtain ⟨spots, items, drawing⟩ :=
          exists_spots inductionHypothesis x y availableWidth
        rw [drawing, drawn_iff]
        split
        case isTrue same =>
          simp [same]
        case isFalse different =>
          have below : (∃ spot ∈ spots,
                (drawn spot.item spot.x spot.y
                  (offeredWidth node.type availableWidth) id).isSome) ↔
              ∃ child ∈ spots.map Spot.item,
                Drawn child (offeredWidth node.type availableWidth) id := by
            simp only [List.mem_map, exists_exists_and_eq_and]
            refine exists_congr fun spot => and_congr_right fun member => ?_
            have isChild : spot.item ∈ node.children := by
              have isItem := List.mem_map_of_mem (f := Spot.item) member
              rw [items] at isItem
              split at isItem
              · cases isItem
              · exact isItem
            exact (inductionHypothesis spot.item isChild).ids _ _ _ _
          rw [isSome_drawnAmong, below, items]
          by_cases isFile : node.type = .file <;> simp [isFile, different]

/-! ### A part of a tree -/

theorem indexNodes_subset {tree below : LayoutNode}
    (isNode : below ∈ indexNodes tree) : indexNodes below ⊆ indexNodes tree := by
  intro inner isInner
  induction tree using LayoutNode.induction with
  | step tree inductionHypothesis =>
      rcases mem_indexNodes_iff.mp isNode with rfl | ⟨next, isNext, under⟩
      · exact isInner
      · exact mem_indexNodes_of_child isNext
          (inductionHypothesis next isNext under)

theorem idsOf_eq (node : LayoutNode) :
    idsOf node = node.id :: node.children.flatMap idsOf := by
  rw [idsOf, indexNodes_eq, List.map_cons, List.map_flatMap]
  rfl

theorem idsOf_subset {tree below : LayoutNode}
    (isNode : below ∈ indexNodes tree) : idsOf below ⊆ idsOf tree :=
  List.map_subset _ (indexNodes_subset isNode)

theorem id_mem_of_drawn {node : LayoutNode} {availableWidth : ℚ}
    {id : JsString} (isDrawn : Drawn node availableWidth id) :
    id ∈ idsOf node := by
  obtain ⟨below, width, offers, rfl⟩ := isDrawn
  exact List.mem_map_of_mem (mem_indexNodes_of_offers offers)

theorem drawn_eq_none {node : LayoutNode} {id : JsString}
    (foreign : id ∉ idsOf node) (x y availableWidth : ℚ) :
    drawn node x y availableWidth id = none := by
  rw [← Option.not_isSome_iff_eq_none, (steady_layoutTree node).ids]
  exact fun isDrawn => foreign (id_mem_of_drawn isDrawn)

theorem drawnAmong_eq_none {availableWidth : ℚ}
    {spots : List (Spot LayoutNode ℚ)} {id : JsString}
    (foreign : ∀ spot ∈ spots, id ∉ idsOf spot.item) :
    drawnAmong availableWidth spots id = none := by
  rw [← Option.not_isSome_iff_eq_none, isSome_drawnAmong]
  rintro ⟨spot, member, present⟩
  rw [drawn_eq_none (foreign spot member)] at present
  cases present

/-- Items with ids apart do not draw over each other. -/
theorem drawnAmong_of_mem {availableWidth : ℚ}
    {spots : List (Spot LayoutNode ℚ)}
    (apart : (spots.map Spot.item).Pairwise IdsApart)
    {spot : Spot LayoutNode ℚ} (member : spot ∈ spots) {id : JsString}
    (own : id ∈ idsOf spot.item) :
    drawnAmong availableWidth spots id =
      drawn spot.item spot.x spot.y availableWidth id := by
  induction spots with
  | nil =>
      cases member
  | cons first rest inductionHypothesis =>
      rw [List.map_cons, List.pairwise_cons] at apart
      rw [drawnAmong]
      rcases List.mem_cons.mp member with rfl | later
      · have untouched : drawnAmong availableWidth rest id = none := by
          apply drawnAmong_eq_none
          intro other isOther shared
          exact apart.1 other.item (List.mem_map_of_mem isOther) own shared
        rw [untouched, Option.none_or]
      · have foreign : id ∉ idsOf first.item := fun shared =>
          apart.1 spot.item (List.mem_map_of_mem later) shared own
        rw [inductionHypothesis apart.2 later, drawn_eq_none foreign,
          Option.or_none]

/-- The part of a tree below a node is drawn as the layout of that node
alone draws it, at some place. -/
theorem exists_place_of_offers {tree below : LayoutNode}
    {availableWidth width : ℚ} (unique : UniqueIds tree)
    (offers : Offers tree availableWidth below width) (x y : ℚ) :
    ∃ left top, ∀ id ∈ idsOf below,
      drawn tree x y availableWidth id = drawn below left top width id := by
  induction offers generalizing x y with
  | self node availableWidth =>
      exact ⟨x, y, fun _ _ => rfl⟩
  | @child node child below availableWidth width container isChild under
      inductionHypothesis =>
      obtain ⟨uniqueChildren, apart, own⟩ := (uniqueIds_iff node).mp unique
      obtain ⟨spots, items, drawing⟩ :=
        @exists_spots node (fun child _ => steady_layoutTree child) x y
          availableWidth
      rw [if_neg container] at items
      obtain ⟨spot, member, rfl⟩ : ∃ spot ∈ spots, spot.item = child := by
        rw [← items] at isChild
        exact List.mem_map.mp isChild
      obtain ⟨left, top, same⟩ :=
        inductionHypothesis (uniqueChildren _ isChild) spot.x spot.y
      refine ⟨left, top, fun id isBelow => ?_⟩
      have inChild : id ∈ idsOf spot.item :=
        idsOf_subset (mem_indexNodes_of_offers under) isBelow
      have different : id ≠ node.id := by
        rintro rfl
        exact own _ isChild inChild
      rw [drawing, if_neg different,
        drawnAmong_of_mem (items ▸ apart) member inChild]
      exact same id isBelow

end RtsNotebook.Webviews.MapView
