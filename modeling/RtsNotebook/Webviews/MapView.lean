import RtsNotebook.Js.Text
import RtsNotebook.Library.OrderedMap
import RtsNotebook.Library.Tiling
import Mathlib.Algebra.Order.Field.Rat

/-!
# The layout of the map view

`layoutTree`, which gives every node of a layout tree its rectangle in the
SVG drawing.  It writes the rectangles into `positions` and returns the one of
the node; the map is passed along here.

Coordinates are exact rationals.  The three loops over the children of a
workspace, of a zone and of any other container are functions of their own.
-/

namespace RtsNotebook.Webviews.MapView

open RtsNotebook.Library RtsNotebook.Js

/-- `LayoutNode.type` -/
inductive NodeType where
  | workspace
  | zone
  | file
  | agent
  | viewpoint
  | annotation
  deriving DecidableEq, Repr

/-- A value among the render hints, as far as `readPositionHint` tells them
apart. -/
inductive RenderHint where
  | number (value : ℚ)
  | array (items : List RenderHint)
  | other

/-- `LayoutNode` -/
structure LayoutNode where
  id : JsString
  type : NodeType
  renderHints : Option (List (JsString × RenderHint))
  children : List LayoutNode

/-- `NodePosition` -/
abbrev NodePosition := Rect ℚ

/-- `positions` -/
abbrev Positions := OrderedMap JsString NodePosition

def PADDING : ℚ := 12

def NODE_HEIGHT_DEFAULT : ℚ := 28

def FILE_WIDTH : ℚ := 96

def FILE_HEIGHT : ℚ := 24

/-- `readPositionHint`, of the hints of the node. -/
def readPositionHint (renderHints : Option (List (JsString × RenderHint))) :
    Option (ℚ × ℚ) :=
  match renderHints.bind (List.lookup (js "position")) with
  | some (.array (.number x :: .number y :: _)) => some (x, y)
  | _ => none

/-- The result of `layoutTree`, and the map that it leaves. -/
structure Laid where
  pos : NodePosition
  positions : Positions

/-- The variables of the loop over the children of a workspace. -/
structure WorkspaceLoop where
  innerY : ℚ
  maxChildW : ℚ
  positions : Positions

/-- The variables of the loop over the children of a zone. -/
structure ZoneLoop where
  cursorX : ℚ
  cursorY : ℚ
  rowMaxH : ℚ
  positions : Positions

/-- The variables of the loop over the children of another container. -/
structure StackLoop where
  stackY : ℚ
  positions : Positions

mutual

def layoutTree :
    LayoutNode → ℚ → ℚ → ℚ → Positions → Laid
  | ⟨id, type, renderHints, children⟩, x, y, availableWidth, positions =>
      let hint := readPositionHint renderHints
      let nx := (hint.map Prod.fst).getD x
      let ny := (hint.map Prod.snd).getD y
      if type = .file ∨ children.length = 0 then
        let pos : NodePosition :=
          { x := nx
            y := ny
            width :=
              if type = .file then FILE_WIDTH else max 64 availableWidth
            height :=
              if type = .file then FILE_HEIGHT else NODE_HEIGHT_DEFAULT }
        ⟨pos, positions.set id pos⟩
      else
        let headerHeight := NODE_HEIGHT_DEFAULT
        let innerX := nx + PADDING
        let innerY := ny + headerHeight + PADDING / 2
        let innerWidth := max 120 (availableWidth - PADDING * 2)
        match type with
        | .workspace =>
            let loop :=
              tileWorkspace children innerX innerWidth
                ⟨innerY, innerWidth, positions⟩
            let totalH := loop.innerY - ny + PADDING / 2
            let pos : NodePosition :=
              { x := nx
                y := ny
                width := loop.maxChildW + PADDING * 2
                height := max (NODE_HEIGHT_DEFAULT * 2) totalH }
            ⟨pos, loop.positions.set id pos⟩
        | .zone =>
            let wrapAt := nx + innerWidth + PADDING
            let loop :=
              tileZone children innerX wrapAt ⟨innerX, innerY, 0, positions⟩
            let pos : NodePosition :=
              { x := nx
                y := ny
                width := innerWidth + PADDING * 2
                height := loop.cursorY + loop.rowMaxH - ny + PADDING }
            ⟨pos, loop.positions.set id pos⟩
        | _ =>
            let loop :=
              stackChildren children innerX innerWidth ⟨innerY, positions⟩
            let pos : NodePosition :=
              { x := nx
                y := ny
                width := innerWidth + PADDING * 2
                height := loop.stackY - ny + PADDING / 2 }
            ⟨pos, loop.positions.set id pos⟩

def tileWorkspace :
    List LayoutNode → ℚ → ℚ → WorkspaceLoop → WorkspaceLoop
  | [], _, _, loop => loop
  | child :: rest, innerX, innerWidth, loop =>
      let laid :=
        layoutTree child innerX loop.innerY innerWidth loop.positions
      tileWorkspace rest innerX innerWidth
        { innerY := laid.pos.y + laid.pos.height + PADDING / 2
          maxChildW := max loop.maxChildW laid.pos.width
          positions := laid.positions }

def tileZone : List LayoutNode → ℚ → ℚ → ZoneLoop → ZoneLoop
  | [], _, _, loop => loop
  | child :: rest, innerX, wrapAt, loop =>
      let laid :=
        layoutTree child loop.cursorX loop.cursorY FILE_WIDTH loop.positions
      if wrapAt < loop.cursorX + laid.pos.width ∧ loop.cursorX ≠ innerX then
        let cursorY := loop.cursorY + (loop.rowMaxH + PADDING / 2)
        -- The child is laid out again; what it wrote before is overwritten.
        let wrapped :=
          layoutTree child innerX cursorY FILE_WIDTH laid.positions
        tileZone rest innerX wrapAt
          { cursorX := innerX + (wrapped.pos.width + PADDING / 2)
            cursorY := cursorY
            rowMaxH := max 0 wrapped.pos.height
            positions := wrapped.positions }
      else
        tileZone rest innerX wrapAt
          { cursorX := loop.cursorX + (laid.pos.width + PADDING / 2)
            cursorY := loop.cursorY
            rowMaxH := max loop.rowMaxH laid.pos.height
            positions := laid.positions }

def stackChildren : List LayoutNode → ℚ → ℚ → StackLoop → StackLoop
  | [], _, _, loop => loop
  | child :: rest, innerX, innerWidth, loop =>
      let laid :=
        layoutTree child innerX loop.stackY innerWidth loop.positions
      stackChildren rest innerX innerWidth
        { stackY := laid.pos.y + laid.pos.height + PADDING / 2
          positions := laid.positions }

end

mutual

/-- The nodes of a tree, in the order in which `indexNodes` visits them. -/
def indexNodes : LayoutNode → List LayoutNode
  | ⟨id, type, renderHints, children⟩ =>
      ⟨id, type, renderHints, children⟩ :: indexChildren children

def indexChildren : List LayoutNode → List LayoutNode
  | [] => []
  | child :: rest => indexNodes child ++ indexChildren rest

end

/-! ### Trees -/

/-- No two nodes of the tree have the same id. -/
def UniqueIds (tree : LayoutNode) : Prop :=
  ((indexNodes tree).map LayoutNode.id).Nodup

/-- No node of the tree has a position hint. -/
def NoHints (tree : LayoutNode) : Prop :=
  ∀ node ∈ indexNodes tree, readPositionHint node.renderHints = none

instance (tree : LayoutNode) : Decidable (UniqueIds tree) :=
  inferInstanceAs (Decidable (List.Nodup _))

instance (tree : LayoutNode) : Decidable (NoHints tree) :=
  inferInstanceAs (Decidable (∀ node ∈ indexNodes tree, _ = none))

/-- Induction over a layout tree: a node by its children. -/
theorem LayoutNode.induction {motive : LayoutNode → Prop}
    (step : ∀ node : LayoutNode,
      (∀ child ∈ node.children, motive child) → motive node)
    (node : LayoutNode) : motive node :=
  @LayoutNode.rec motive (fun children => ∀ child ∈ children, motive child)
    (fun id type renderHints children each =>
      step ⟨id, type, renderHints, children⟩ each)
    (by simp)
    (fun _ _ first later => List.forall_mem_cons.mpr ⟨first, later⟩)
    node

theorem indexChildren_eq (children : List LayoutNode) :
    indexChildren children = children.flatMap indexNodes := by
  induction children with
  | nil =>
      rfl
  | cons child rest inductionHypothesis =>
      rw [indexChildren, List.flatMap_cons, inductionHypothesis]

theorem indexNodes_eq (node : LayoutNode) :
    indexNodes node = node :: node.children.flatMap indexNodes := by
  obtain ⟨id, type, renderHints, children⟩ := node
  rw [indexNodes, indexChildren_eq]

theorem self_mem_indexNodes (node : LayoutNode) : node ∈ indexNodes node := by
  rw [indexNodes_eq]
  exact List.mem_cons_self

theorem mem_indexNodes_iff {node tree : LayoutNode} :
    node ∈ indexNodes tree ↔
      node = tree ∨ ∃ child ∈ tree.children, node ∈ indexNodes child := by
  rw [indexNodes_eq, List.mem_cons, List.mem_flatMap]

theorem mem_indexNodes_of_child {node child tree : LayoutNode}
    (isChild : child ∈ tree.children) (member : node ∈ indexNodes child) :
    node ∈ indexNodes tree :=
  mem_indexNodes_iff.mpr (Or.inr ⟨child, isChild, member⟩)

end RtsNotebook.Webviews.MapView
