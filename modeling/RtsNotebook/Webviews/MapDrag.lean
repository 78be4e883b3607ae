import RtsNotebook.Library.Machines
import RtsNotebook.Library.Runs
import RtsNotebook.Webviews.MapMoves
import RtsNotebook.Webviews.MapSiblings

/-!
# Dragging zones in the map view

The state of the webview script, and what its listeners do with it: snapshots
and changes of the window lay the tree out again, a press on a zone begins a
drag, the moves of the pointer shift the dragged zone by a transform, and the
release posts an edit of its position hint.

Every `<g>` of a zone listens for a press and none stops the event, so a press
begins a drag of each enclosing zone in turn, and the outermost one is left.
-/

namespace RtsNotebook.Webviews.MapView

open RtsNotebook.Library RtsNotebook.Js

/-- `DragState` -/
structure DragState where
  nodeId : JsString
  startClientX : ℚ
  startClientY : ℚ
  startX : ℚ
  startY : ℚ
  currentX : ℚ
  currentY : ℚ
  deriving DecidableEq

/-- The `update_render_hints` edit that `onDragEnd` posts. -/
structure LayoutEdit where
  node_id : JsString
  position : ℚ × ℚ
  deriving DecidableEq

/-- The variables of the script, the `transform` attributes of the drawing, and
the width of the window.  `listening` says that the listeners of a drag are
on the window. -/
structure MapScript where
  innerWidth : ℚ
  lastTree : Option LayoutNode
  positions : Positions
  drag : Option DragState
  listening : Bool
  transforms : OrderedMap JsString (ℚ × ℚ)

/-- What reaches the script.  A press comes with the `<g>` elements that it
bubbles through, the innermost one first. -/
inductive MapEvent where
  | layoutUpdate (tree : LayoutNode)
  | resize (innerWidth : ℚ)
  | mousedown (path : List (JsString × NodeType)) (clientX clientY : ℚ)
  | mousemove (clientX clientY : ℚ)
  | mouseup

def getViewportWidth (innerWidth : ℚ) : ℚ :=
  max 400 (if innerWidth = 0 then 800 else innerWidth)

/-- The positions of a tree in a window. -/
def laidOut (innerWidth : ℚ) (tree : LayoutNode) : Positions :=
  (layoutTree tree PADDING PADDING
    (getViewportWidth innerWidth - PADDING * 2) .empty).positions

mutual

/-- The ids of the `<g>` elements that `renderNode` appends. -/
def renderNode (positions : Positions) : LayoutNode → List JsString
  | ⟨id, _, _, children⟩ =>
      match positions.get id with
      | none => []
      | some _ => id :: renderNodes positions children

def renderNodes (positions : Positions) : List LayoutNode → List JsString
  | [] => []
  | child :: rest =>
      renderNode positions child ++ renderNodes positions rest

end

namespace MapScript

def initial (innerWidth : ℚ) : MapScript where
  innerWidth := innerWidth
  lastTree := none
  positions := .empty
  drag := none
  listening := false
  transforms := .empty

/-- `render` draws everything anew, without a transform. -/
def render (script : MapScript) : MapScript :=
  { script with transforms := .empty }

def onLayoutUpdate (script : MapScript) (tree : LayoutNode) : MapScript :=
  render
    { script with
      lastTree := some tree
      positions := laidOut script.innerWidth tree }

def onResize (script : MapScript) (innerWidth : ℚ) : MapScript :=
  match script.lastTree with
  | none => { script with innerWidth := innerWidth }
  | some tree =>
      render
        { script with
          innerWidth := innerWidth
          positions := laidOut innerWidth tree }

def beginDrag (clientX clientY : ℚ) (script : MapScript)
    (nodeId : JsString) : MapScript :=
  match script.positions.get nodeId with
  | none => script
  | some pos =>
      { script with
        drag := some
          { nodeId := nodeId
            startClientX := clientX
            startClientY := clientY
            startX := pos.x
            startY := pos.y
            currentX := pos.x
            currentY := pos.y }
        listening := true }

/-- The listeners of the elements, one after the other. -/
def onMousedown (script : MapScript) (path : List (JsString × NodeType))
    (clientX clientY : ℚ) : MapScript :=
  path.foldl
    (fun script element =>
      if element.2 = .zone then
        script.beginDrag clientX clientY element.1
      else
        script)
    script

/-- The ids of the elements in the drawing. -/
def rendered (script : MapScript) : List JsString :=
  match script.lastTree with
  | none => []
  | some tree => renderNode script.positions tree

def onDragMove (script : MapScript) (clientX clientY : ℚ) : MapScript :=
  match script.drag with
  | none => script
  | some drag =>
      let dx := clientX - drag.startClientX
      let dy := clientY - drag.startClientY
      { script with
        drag := some
          { drag with
            currentX := drag.startX + dx
            currentY := drag.startY + dy }
        transforms :=
          if drag.nodeId ∈ script.rendered then
            script.transforms.set drag.nodeId (dx, dy)
          else
            script.transforms }

def onDragEnd (script : MapScript) : MapScript × Option LayoutEdit :=
  match script.drag with
  | none => (script, none)
  | some finished =>
      ({ script with drag := none, listening := false },
        some ⟨finished.nodeId, (finished.currentX, finished.currentY)⟩)

def step (script : MapScript) : MapEvent → MapScript × Option LayoutEdit
  | .layoutUpdate tree => (script.onLayoutUpdate tree, none)
  | .resize innerWidth => (script.onResize innerWidth, none)
  | .mousedown path clientX clientY =>
      (script.onMousedown path clientX clientY, none)
  | .mousemove clientX clientY =>
      (if script.listening then script.onDragMove clientX clientY else script,
        none)
  | .mouseup => if script.listening then script.onDragEnd else (script, none)

/-- The script as a machine that posts edits. -/
def machine (innerWidth : ℚ) :
    Machine MapScript MapEvent (Option LayoutEdit) where
  initial := initial innerWidth
  step := step

end MapScript

/-! ### What a press takes hold of -/

/-- The drag that a press on a zone begins. -/
def heldBy (positions : Positions) (clientX clientY : ℚ)
    (element : JsString × NodeType) : Option DragState :=
  if element.2 = .zone then
    (positions.get element.1).map fun pos =>
      { nodeId := element.1
        startClientX := clientX
        startClientY := clientY
        startX := pos.x
        startY := pos.y
        currentX := pos.x
        currentY := pos.y }
  else
    none

/-- The drag of the outermost zone with a rectangle. -/
def grabbed (positions : Positions) (path : List (JsString × NodeType))
    (clientX clientY : ℚ) : Option DragState :=
  (path.filterMap (heldBy positions clientX clientY)).getLast?

/-- A drag whose pointer has moved to a point. -/
def DragState.movedTo (drag : DragState) (point : ℚ × ℚ) : DragState :=
  { drag with
    currentX := drag.startX + (point.1 - drag.startClientX)
    currentY := drag.startY + (point.2 - drag.startClientY) }

namespace MapScript

/-- A press sets the drag, and nothing else but the listeners. -/
theorem onMousedown_eq (script : MapScript)
    (path : List (JsString × NodeType)) (clientX clientY : ℚ) :
    script.onMousedown path clientX clientY =
      match grabbed script.positions path clientX clientY with
      | none => script
      | some drag => { script with drag := some drag, listening := true } := by
  induction path generalizing script with
  | nil =>
      rfl
  | cons element rest inductionHypothesis =>
      have passes :
          script.onMousedown (element :: rest) clientX clientY =
            (match heldBy script.positions clientX clientY element with
            | none => script
            | some drag =>
                { script with
                  drag := some drag
                  listening := true }).onMousedown rest clientX clientY := by
        rw [onMousedown, List.foldl_cons, heldBy, beginDrag]
        split
        · cases script.positions.get element.1 <;> rfl
        · rfl
      rw [passes, grabbed, List.filterMap_cons]
      cases heldBy script.positions clientX clientY element with
      | none =>
          exact inductionHypothesis script
      | some drag =>
          simp only
          rw [inductionHypothesis, List.getLast?_cons, grabbed]
          cases (rest.filterMap
            (heldBy script.positions clientX clientY)).getLast? <;> rfl

/-- The window listens while there is a drag. -/
def Listens (script : MapScript) : Prop :=
  script.listening = script.drag.isSome

theorem listens_step {script : MapScript} (listens : script.Listens)
    (event : MapEvent) : (script.step event).1.Listens := by
  cases event with
  | layoutUpdate tree =>
      exact listens
  | resize innerWidth =>
      rw [step, onResize]
      split <;> exact listens
  | mousedown path clientX clientY =>
      rw [step, onMousedown_eq]
      split
      · exact listens
      · rfl
  | mousemove clientX clientY =>
      rw [step, onDragMove]
      split
      · split
        · exact listens
        · next drag holds =>
            rw [Listens, listens, holds]
            rfl
      · exact listens
  | mouseup =>
      rw [step, onDragEnd]
      split
      · split
        · exact listens
        · rfl
      · exact listens

theorem listens_stateAt (innerWidth : ℚ) (events : List MapEvent)
    (position : Nat) : ((machine innerWidth).stateAt events position).Listens :=
  Machine.stateAt_invariant (machine innerWidth) events Listens rfl
    (fun _ event listens => listens_step listens event) position

theorem onDragMove_of_listens {script : MapScript} (listens : script.Listens)
    (clientX clientY : ℚ) :
    (script.step (.mousemove clientX clientY)).1.drag =
      script.drag.map fun drag => drag.movedTo (clientX, clientY) := by
  rw [step, onDragMove, listens]
  cases drag : script.drag with
  | none =>
      exact drag
  | some drag =>
      rfl

theorem mouseup_of_listens {script : MapScript} (listens : script.Listens) :
    (script.step .mouseup).1.drag = none ∧
      (script.step .mouseup).2 = script.drag.map fun drag =>
        ⟨drag.nodeId, (drag.currentX, drag.currentY)⟩ := by
  rw [step, onDragEnd, listens]
  cases drag : script.drag with
  | none =>
      exact ⟨drag, rfl⟩
  | some drag =>
      exact ⟨rfl, rfl⟩

theorem mousedown_drag (script : MapScript)
    (path : List (JsString × NodeType)) (clientX clientY : ℚ) :
    (script.step (.mousedown path clientX clientY)).1.drag =
      (grabbed script.positions path clientX clientY).or script.drag := by
  rw [step, onMousedown_eq]
  cases grabbed script.positions path clientX clientY <;> rfl

/-! ### The drags of a run -/

section

variable (innerWidth : ℚ) (events : List MapEvent)

/-- The drag that the event at a position begins, if it is a press that takes
hold of a zone. -/
def grabAt (position : Nat) : Option DragState :=
  match events[position]? with
  | some (.mousedown path clientX clientY) =>
      grabbed ((machine innerWidth).stateAt events position).positions path
        clientX clientY
  | _ => none

/-- The event at a position ends a drag: a release, or a press that begins
another one. -/
def Interrupts (position : Nat) : Prop :=
  events[position]? = some .mouseup ∨
    (grabAt innerWidth events position).isSome

/-- Where an event moves the pointer to. -/
def point? : MapEvent → Option (ℚ × ℚ)
  | .mousemove clientX clientY => some (clientX, clientY)
  | _ => none

/-- Where the pointer goes between two positions. -/
def pointsBetween (start stop : Nat) : List (ℚ × ℚ) :=
  ((events.take stop).drop (start + 1)).filterMap point?

/-- A drag after the pointer has gone to some points: the last one counts. -/
def dragAfter (drag : DragState) (points : List (ℚ × ℚ)) : DragState :=
  (points.getLast?.map drag.movedTo).getD drag

/-- A drag is going on: a press has begun it, no event has ended it since, and
the pointer has gone to some points. -/
def Dragging (position : Nat) (drag : DragState) : Prop :=
  ∃ start < position, ∃ grab, grabAt innerWidth events start = some grab ∧
    (∀ between, start < between → between < position →
      ¬ Interrupts innerWidth events between) ∧
    drag = dragAfter grab (pointsBetween events start position)

end

variable {innerWidth : ℚ} {events : List MapEvent} {position : Nat}

theorem pointsBetween_succ {start : Nat} (earlier : start < position) :
    pointsBetween events start (position + 1) =
      pointsBetween events start position ++
        (events[position]?.bind point?).toList := by
  rw [pointsBetween, pointsBetween, List.take_add_one]
  cases isEvent : events[position]? with
  | none =>
      simp
  | some event =>
      have long : position < events.length :=
        (List.getElem?_eq_some_iff.mp isEvent).1
      rw [List.drop_append_of_le_length
        (by rw [List.length_take]; omega), List.filterMap_append]
      cases moved : point? event <;> simp [moved]

theorem dragAfter_append (grab : DragState) (points : List (ℚ × ℚ))
    (next : Option (ℚ × ℚ)) :
    dragAfter grab (points ++ next.toList) =
      (next.map (dragAfter grab points).movedTo).getD
        (dragAfter grab points) := by
  cases next with
  | none =>
      rw [Option.toList_none, List.append_nil]
      rfl
  | some point =>
      rw [Option.toList_some, dragAfter, List.getLast?_concat, dragAfter]
      cases points.getLast? <;> rfl

theorem dragging_succ_iff (drag : DragState) :
    Dragging innerWidth events (position + 1) drag ↔
      grabAt innerWidth events position = some drag ∨
        ¬ Interrupts innerWidth events position ∧
          ∃ held, Dragging innerWidth events position held ∧
            drag = ((events[position]?.bind point?).map held.movedTo).getD
              held := by
  constructor
  · rintro ⟨start, earlier, grab, begins, goesOn, rfl⟩
    rcases Nat.lt_succ_iff_lt_or_eq.mp earlier with before | rfl
    · refine Or.inr ⟨goesOn position before (Nat.lt_succ_self position),
        dragAfter grab (pointsBetween events start position),
        ⟨start, before, grab, begins, ?_, rfl⟩, ?_⟩
      · exact fun between after ahead =>
          goesOn between after (ahead.trans (Nat.lt_succ_self position))
      · rw [pointsBetween_succ before, dragAfter_append]
    · have fresh : pointsBetween events start (start + 1) = [] := by
        rw [pointsBetween, List.drop_eq_nil_of_le (List.length_take_le _ _)]
        rfl
      rw [fresh]
      exact Or.inl begins
  · rintro (begins | ⟨continues, held, ⟨start, before, grab, begins, goesOn,
      rfl⟩, rfl⟩)
    · refine ⟨position, Nat.lt_succ_self position, drag, begins, ?_, ?_⟩
      · intro between after ahead
        omega
      · rw [pointsBetween, List.drop_eq_nil_of_le (List.length_take_le _ _)]
        rfl
    · refine ⟨start, before.trans (Nat.lt_succ_self position), grab, begins,
        ?_, ?_⟩
      · intro between after ahead
        rcases Nat.lt_succ_iff_lt_or_eq.mp ahead with inside | rfl
        · exact goesOn between after inside
        · exact continues
      · rw [pointsBetween_succ before, dragAfter_append]

/-- The drag of the script is the one that is going on. -/
theorem drag_stateAt_iff (position : Nat) (drag : DragState) :
    ((machine innerWidth).stateAt events position).drag = some drag ↔
      Dragging innerWidth events position drag := by
  induction position generalizing drag with
  | zero =>
      constructor
      · intro holds
        cases holds
      · rintro ⟨start, earlier, -⟩
        exact absurd earlier (Nat.not_lt_zero start)
  | succ position inductionHypothesis =>
      rw [dragging_succ_iff]
      simp only [← inductionHypothesis, grabAt, Interrupts]
      have listens := listens_stateAt innerWidth events position
      cases isEvent : events[position]? with
      | none =>
          rw [Machine.stateAt_succ_of_none isEvent]
          simp
      | some event =>
          rw [Machine.stateAt_succ isEvent]
          generalize (machine innerWidth).stateAt events position = script
            at listens ⊢
          cases event with
          | layoutUpdate tree =>
              simp [machine, step, onLayoutUpdate, render, point?]
          | resize innerWidth =>
              have same : (script.onResize innerWidth).drag = script.drag := by
                rw [onResize]
                split <;> rfl
              simp [machine, step, same, point?]
          | mousedown path clientX clientY =>
              change (script.step _).1.drag = _ ↔ _
              rw [mousedown_drag]
              cases found : grabbed script.positions path clientX clientY <;>
                simp [found, point?]
          | mousemove clientX clientY =>
              change (script.step _).1.drag = _ ↔ _
              rw [onDragMove_of_listens listens, Option.map_eq_some_iff]
              simp [point?, eq_comm]
          | mouseup =>
              change (script.step _).1.drag = _ ↔ _
              rw [(mouseup_of_listens listens).1]
              simp

/-- An edit is posted by the release that ends a drag, and by nothing else: it
names the outermost zone under the press that began the drag, at its
rectangle of that moment, moved as far as the pointer went. -/
theorem posts_edit_iff (innerWidth : ℚ) (events : List MapEvent)
    (position : Nat) (edit : LayoutEdit) :
    (machine innerWidth).outputAt? events position = some (some edit) ↔
      events[position]? = some .mouseup ∧
        ∃ drag, Dragging innerWidth events position drag ∧
          edit = ⟨drag.nodeId, (drag.currentX, drag.currentY)⟩ := by
  have listens := listens_stateAt innerWidth events position
  cases isEvent : events[position]? with
  | none =>
      simp [Machine.outputAt?_eq_none isEvent]
  | some event =>
      rw [Machine.outputAt?_eq isEvent]
      cases event with
      | mouseup =>
          have posted := (mouseup_of_listens listens).2
          simp only [← drag_stateAt_iff, true_and, Option.some.injEq]
          change (step _ _).2 = _ ↔ _
          rw [posted, Option.map_eq_some_iff]
          exact exists_congr fun drag =>
            and_congr_right fun _ => eq_comm
      | _ =>
          simp [machine, step]

end MapScript

/-! ### From the preview to the layout -/

theorem renderNodes_eq (positions : Positions) (children : List LayoutNode) :
    renderNodes positions children =
      children.flatMap (renderNode positions) := by
  induction children with
  | nil =>
      rfl
  | cons child rest inductionHypothesis =>
      rw [renderNodes, inductionHypothesis, List.flatMap_cons]

theorem mem_renderNode_of_present {positions : Positions} {node : LayoutNode}
    (present : (positions.get node.id).isSome) (id : JsString) :
    id ∈ renderNode positions node ↔
      id = node.id ∨ ∃ child ∈ node.children,
        id ∈ renderNode positions child := by
  obtain ⟨own, type, renderHints, children⟩ := node
  obtain ⟨pos, found⟩ := Option.isSome_iff_exists.mp present
  rw [renderNode, found, renderNodes_eq, List.mem_cons, List.mem_flatMap]

/-- A node that is laid out is drawn. -/
theorem mem_renderNode {positions : Positions} {tree below : LayoutNode}
    {availableWidth width : ℚ}
    (offers : Offers tree availableWidth below width)
    (present : ∀ inner innerWidth, Offers tree availableWidth inner innerWidth →
      (positions.get inner.id).isSome) :
    below.id ∈ renderNode positions tree := by
  induction offers with
  | self node availableWidth =>
      exact (mem_renderNode_of_present
        (present node _ (.self node availableWidth)) node.id).mpr (Or.inl rfl)
  | @child node child below availableWidth width container isChild under
      inductionHypothesis =>
      have own := present node _ (.self node availableWidth)
      have further := inductionHypothesis fun inner innerWidth offers =>
        present inner innerWidth (.child container isChild offers)
      exact (mem_renderNode_of_present own below.id).mpr
        (Or.inr ⟨child, isChild, further⟩)

theorem mem_renderNode_laidOut {innerWidth : ℚ} {tree : LayoutNode}
    {id : JsString} {pos : NodePosition}
    (found : (laidOut innerWidth tree).get id = some pos) :
    id ∈ renderNode (laidOut innerWidth tree) tree := by
  have ids := (steady_layoutTree tree).ids PADDING PADDING
    (getViewportWidth innerWidth - PADDING * 2)
  obtain ⟨below, width, offers, rfl⟩ :=
    (ids id).mp (Option.isSome_of_eq_some found)
  apply mem_renderNode offers
  intro inner innerWidth reached
  exact (ids inner.id).mpr ⟨inner, innerWidth, reached, rfl⟩

namespace MapScript

/-- The rectangles are those of the last tree, in the window as it is. -/
def UpToDate (script : MapScript) : Prop :=
  match script.lastTree with
  | none => script.positions = .empty
  | some tree => script.positions = laidOut script.innerWidth tree

theorem upToDate_step {script : MapScript} (upToDate : script.UpToDate)
    (event : MapEvent) : (script.step event).1.UpToDate := by
  cases event with
  | layoutUpdate tree =>
      rfl
  | resize innerWidth =>
      rw [step, onResize]
      split
      · next absent =>
          rw [UpToDate, absent] at upToDate
          rw [UpToDate, absent]
          exact upToDate
      · next tree shown =>
          rw [UpToDate, render, shown]
  | mousedown path clientX clientY =>
      rw [step, onMousedown_eq]
      split <;> exact upToDate
  | mousemove clientX clientY =>
      rw [step, onDragMove]
      split
      · split <;> exact upToDate
      · exact upToDate
  | mouseup =>
      rw [step, onDragEnd]
      split
      · split <;> exact upToDate
      · exact upToDate

theorem upToDate_stateAt (innerWidth : ℚ) (events : List MapEvent)
    (position : Nat) :
    ((machine innerWidth).stateAt events position).UpToDate :=
  Machine.stateAt_invariant (machine innerWidth) events UpToDate rfl
    (fun _ event upToDate => upToDate_step upToDate event) position

/-- The script after the pointer has gone to some points. -/
def followed (script : MapScript) (points : List (ℚ × ℚ)) : MapScript :=
  points.foldl
    (fun script point => (script.step (.mousemove point.1 point.2)).1) script

theorem mousemove_of_rendered {script : MapScript} {drag : DragState}
    (listening : script.listening = true) (holds : script.drag = some drag)
    (isRendered : drag.nodeId ∈ script.rendered) (point : ℚ × ℚ) :
    (script.step (.mousemove point.1 point.2)).1 =
      { script with
        drag := some (drag.movedTo point)
        transforms := script.transforms.set drag.nodeId
          (point.1 - drag.startClientX, point.2 - drag.startClientY) } := by
  rw [step, onDragMove, listening, holds]
  simp only [if_pos isRendered, if_true]
  rfl

/-- Only the last point of a drag counts, in the drag and in the
transform. -/
theorem followed_append {script : MapScript} {drag : DragState}
    (listening : script.listening = true) (holds : script.drag = some drag)
    (isRendered : drag.nodeId ∈ script.rendered)
    (points : List (ℚ × ℚ)) (last : ℚ × ℚ) :
    ∃ transforms : OrderedMap JsString (ℚ × ℚ),
      script.followed (points ++ [last]) =
        { script with
          drag := some (drag.movedTo last)
          transforms := transforms.set drag.nodeId
            (last.1 - drag.startClientX, last.2 - drag.startClientY) } := by
  induction points generalizing script drag with
  | nil =>
      exact ⟨script.transforms,
        mousemove_of_rendered listening holds isRendered last⟩
  | cons point rest inductionHypothesis =>
      rw [List.cons_append, followed, List.foldl_cons,
        mousemove_of_rendered listening holds isRendered]
      exact @inductionHypothesis
        { script with
          drag := some (drag.movedTo point)
          transforms := script.transforms.set drag.nodeId
            (point.1 - drag.startClientX, point.2 - drag.startClientY) }
        (drag.movedTo point) listening rfl isRendered

theorem startOf_grabbed {positions : Positions}
    {path : List (JsString × NodeType)} {clientX clientY : ℚ}
    {grab : DragState}
    (grabs : grabbed positions path clientX clientY = some grab) :
    ∃ pos, positions.get grab.nodeId = some pos ∧
      grab.startX = pos.x ∧ grab.startY = pos.y ∧
      grab.startClientX = clientX ∧ grab.startClientY = clientY := by
  have member := List.mem_of_getLast? grabs
  obtain ⟨element, -, held⟩ := List.mem_filterMap.mp member
  rw [heldBy] at held
  split at held
  · obtain ⟨pos, found, rfl⟩ := Option.map_eq_some_iff.mp held
    exact ⟨pos, found, rfl, rfl, rfl, rfl⟩
  · cases held

/-- The zone of the tree that wraps. -/
def inboxZone : LayoutNode :=
  ⟨js "inbox", .zone, none,
    [⟨js "a.ts", .file, none, []⟩, ⟨js "b.ts", .file, none, []⟩]⟩

/-- A position hint on a node changes no column and no width outside of the
node, and no row before it. -/
theorem laidOut_outside (innerWidth : ℚ) {tree node : LayoutNode}
    (unique : UniqueIds tree) (isNode : node ∈ indexNodes tree)
    (position : ℚ × ℚ) :
    let former := laidOut innerWidth tree
    let after := laidOut innerWidth (withPosition node.id position tree)
    (∀ id ∉ idsOf node,
      (after.get id).map column = (former.get id).map column) ∧
    ∀ id ∈ before node.id (idsOf tree),
      (after.get id).map Rect.y = (former.get id).map Rect.y := by
  constructor
  · apply sameColumns_withPosition
    intro other isOther sameId
    rw [eq_of_id_eq unique isOther isNode sameId]
    exact List.Subset.refl _
  · exact sameRows_withPosition unique _ _ _

theorem inboxZone_laidOut_outside :
    let former := laidOut 0 wrappingTree
    let after := laidOut 0 (withPosition (js "inbox") (300, 200) wrappingTree)
    (∀ id ∉ idsOf inboxZone,
      (after.get id).map column = (former.get id).map column) ∧
    ∀ id ∈ before (js "inbox") (idsOf wrappingTree),
      (after.get id).map Rect.y = (former.get id).map Rect.y :=
  @laidOut_outside 0 wrappingTree inboxZone (by decide)
    (mem_indexNodes_of_child List.mem_cons_self (self_mem_indexNodes _))
    (300, 200)

end MapScript

end RtsNotebook.Webviews.MapView
