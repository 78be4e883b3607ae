import RtsNotebook.Notebook.Controller
import RtsNotebook.Notebook.PtyKernelClient

/-!
# Which cell a span is attributed to

The controller together with the PTY client.  `runOne` calls `executeCell`
with a sink that routes every payload to the controller, and the client routes
a span frame to the sink in its slot or, before any call, to the router; both
ways end in the controller's hooks.

Nothing calls `bindCorrelation`, so a payload is attributed to whatever
execution is alone in flight when it arrives.  The history variable `openers`
records, at the first frame of each span, the cell that was alone in flight.
-/

namespace RtsNotebook.Notebook.Attribution

open RtsNotebook.Library RtsNotebook.Js RtsNotebook.Messaging
open RtsNotebook.Notebook

/-- The two objects, the execution that each call of `executeCell` belongs
to, and the cell that was alone in flight when each span opened. -/
structure State where
  controller : Controller.State
  client : PtyKernelClient.State
  owners : List Controller.ExecutionId
  openers : OrderedMap JsString (Option JsString)

inductive Event where
  | run (cell : JsString)
  | cleared (execution : Controller.ExecutionId)
  | connectFailed (execution : Controller.ExecutionId)
  | executeCell (execution : Controller.ExecutionId)
      (directive : Option PtyKernelClient.DirectiveKind)
  | ready (call : PtyKernelClient.CallId) (runSpan : JsString)
  | startFailed (call : PtyKernelClient.CallId)
  | frame (payload : Json) (observerThrows : Bool)
  | timeout (call : PtyKernelClient.CallId)
  | appendCommitted (position : Nat)
  | settled (call : PtyKernelClient.CallId)

/-- The promise of `executeCell` has settled; the value says whether it was
rejected. -/
def settlement? (client : PtyKernelClient.State)
    (call : PtyKernelClient.CallId) : Option Bool :=
  match (client.calls[call]?).map PtyKernelClient.Call.phase with
  | some .resolved => some false
  | some .returned => some false
  | some .rejected => some true
  | _ => none

namespace State

def initial : State where
  controller := Controller.State.initial
  client := PtyKernelClient.State.initial
  owners := []
  openers := .empty

/-- An event of the controller alone. -/
def controllerStep (endThrows : Bool) (state : State)
    (event : Controller.Event) : Option State :=
  (Controller.step endThrows state.controller event).map fun controller =>
    { state with controller := controller }

/-- An event of the client alone. -/
def clientStep (state : State) (event : PtyKernelClient.Event) :
    Option State :=
  (PtyKernelClient.step state.client event).map fun client =>
    { state with client := client }

/-- The execution waits in `runOne` and has not called `executeCell`. -/
def awaitsConnect (state : State) (execution : Controller.ExecutionId) :
    Bool :=
  (state.controller.executions[execution]?).any (fun record =>
    record.phase = .executing) && decide (execution ∉ state.owners)

/-- History: the first frame of a span records the cell alone in flight. -/
def observe (state : State) (spanId : JsString) :
    OrderedMap JsString (Option JsString) :=
  if state.openers.has spanId then
    state.openers
  else
    state.openers.set spanId state.controller.inflight.onlyKey

end State

/-- One event.  A frame reaches the controller through the sink or through
the router, and the client sees what the sink throws. -/
def step (endThrows : Bool) (state : State) : Event → Option State
  | .run cell => state.controllerStep endThrows (.run cell)
  | .cleared execution => state.controllerStep endThrows (.cleared execution)
  | .connectFailed execution =>
      if state.awaitsConnect execution then
        state.controllerStep endThrows (.settled execution true)
      else
        none
  | .executeCell execution directive =>
      if state.awaitsConnect execution then
        ({ state with owners := state.owners ++ [execution] }.clientStep
          (.executeCell directive))
      else
        none
  | .ready call runSpan => state.clientStep (.ready call runSpan)
  | .startFailed call => state.clientStep (.startFailed call)
  | .timeout call => state.clientStep (.timeout call)
  | .appendCommitted position =>
      state.controllerStep endThrows (.appendCommitted position)
  | .settled call =>
      match state.owners[call]?, settlement? state.client call with
      | some execution, some rejected =>
          state.controllerStep endThrows (.settled execution rejected)
      | _, _ => none
  | .frame payload observerThrows =>
      match spanId? payload with
      | none => some state
      | some spanId => do
          let client ← PtyKernelClient.step state.client
            (.frame payload
              (observerThrows || routeRunMime payload = .threw))
          let controller ← Controller.step endThrows state.controller
            (.payload payload)
          pure
            { state with
              client := client
              controller := controller
              openers := state.observe spanId }

/-- Cell executions, calls of the client and span frames, interleaved. -/
def system (endThrows : Bool) : System State Event where
  initial := State.initial
  step := step endThrows

/-- A span that opened while a cell was alone in flight is appended to
executions of that cell only, and waits to end executions of that cell
only. -/
structure AttributedToOpener (state : State) : Prop where
  outputs : ∀ execution ∈ state.controller.executions,
    ∀ payload ∈ execution.outputs, ∀ spanId opener,
      spanId? payload = some spanId →
      state.openers.get spanId = some (some opener) →
      execution.cell = opener
  ends : ∀ pending ∈ state.controller.pendingEnds, ∀ spanId opener,
    pending.spanId = some spanId →
    state.openers.get spanId = some (some opener) →
    state.controller.cellOf pending.execution = some opener

/-- A delivered frame of a span that opened while a cell was alone in flight
does not arrive while another cell is. -/
def OpenerStillAlone (state : State) : Event → Prop
  | .frame payload _ =>
      ∀ spanId opener callback cell,
        spanId? payload = some spanId →
        state.openers.get spanId = some (some opener) →
        routeRunMime payload = .deliver callback →
        state.controller.inflight.onlyKey = some cell →
        cell = opener
  | _ => True

/-- No span is bound, an entry is of its own cell, and a span that has left a
trace is recorded. -/
structure Invariant (state : State) : Prop where
  unbound : ∀ spanId,
    state.controller.cellByCorrelation.get spanId = none
  ownEntry : ∀ cell id, state.controller.inflight.get cell = some id →
    state.controller.cellOf id = some cell
  recordedOutputs : ∀ execution ∈ state.controller.executions,
    ∀ payload ∈ execution.outputs, ∀ spanId,
      spanId? payload = some spanId →
      state.openers.get spanId ≠ none
  recordedEnds : ∀ pending ∈ state.controller.pendingEnds, ∀ spanId,
    pending.spanId = some spanId → state.openers.get spanId ≠ none

theorem Invariant.initial : Invariant State.initial where
  unbound := by simp [State.initial, Controller.State.initial]
  ownEntry := by simp [State.initial, Controller.State.initial]
  recordedOutputs := by simp [State.initial, Controller.State.initial]
  recordedEnds := by simp [State.initial, Controller.State.initial]

theorem AttributedToOpener.initial : AttributedToOpener State.initial where
  outputs := by simp [State.initial, Controller.State.initial]
  ends := by simp [State.initial, Controller.State.initial]

/-! ### Steps that attribute nothing -/

/-- A controller step that adds no output and no pending end. -/
structure Quiet (state next : Controller.State) : Prop where
  outputs : ∀ after ∈ next.executions, after.outputs = [] ∨
    ∃ before ∈ state.executions,
      after.cell = before.cell ∧ after.outputs = before.outputs
  cells : ∀ id cell, state.cellOf id = some cell → next.cellOf id = some cell
  entries : ∀ cell id, next.inflight.get cell = some id →
    state.inflight.get cell = some id ∨ state.cellOf id = some cell
  pendingEnds : ∀ pending ∈ next.pendingEnds, pending ∈ state.pendingEnds
  unbound : (∀ spanId, state.cellByCorrelation.get spanId = none) →
    ∀ spanId, next.cellByCorrelation.get spanId = none

/-- A step that leaves the traces as they are. -/
theorem Quiet.of_traces
    {state next : Controller.State} (traces : next.traces = state.traces)
    (entries : ∀ cell id, next.inflight.get cell = some id →
      state.inflight.get cell = some id ∨ state.cellOf id = some cell)
    (pendingEnds : ∀ pending ∈ next.pendingEnds,
      pending ∈ state.pendingEnds)
    (unbound : (∀ spanId, state.cellByCorrelation.get spanId = none) →
      ∀ spanId, next.cellByCorrelation.get spanId = none) :
    Quiet state next where
  outputs := by
    intro after member
    have traced : (after.cell, after.outputs) ∈ state.traces := by
      rw [← traces]
      exact List.mem_map.mpr ⟨after, member, rfl⟩
    obtain ⟨before, beforeMember, same⟩ := List.mem_map.mp traced
    obtain ⟨cell, outputs⟩ := Prod.mk.inj same
    exact Or.inr ⟨before, beforeMember, cell.symm, outputs.symm⟩
  cells := by
    intro id cell found
    rw [Controller.State.cellOf_eq_traces] at found ⊢
    rw [traces, found]
  entries := entries
  pendingEnds := pendingEnds
  unbound := unbound

/-- Every event of the controller but a payload and a binding is quiet. -/
theorem quiet_of_step
    {endThrows : Bool} {state next : Controller.State}
    {event : Controller.Event}
    (stepped : Controller.step endThrows state event = some next)
    (notPayload : ∀ payload, event ≠ .payload payload)
    (notBinding : ∀ spanId cell, event ≠ .bindCorrelation spanId cell) :
    Quiet state next := by
  cases Controller.stepped_of_step stepped with
  | payload payload => exact absurd rfl (notPayload payload)
  | bindCorrelation spanId cell => exact absurd rfl (notBinding spanId cell)
  | run isOver =>
      refine
        { outputs := ?_
          cells := ?_
          entries := fun _ _ entry => Or.inl entry
          pendingEnds := fun _ member => member
          unbound := fun unbound => unbound }
      · intro after member
        rcases List.mem_append.mp member with old | new
        · exact Or.inr ⟨after, old, rfl, rfl⟩
        · rw [List.mem_singleton.mp new]
          exact Or.inl rfl
      · intro id tested found
        obtain ⟨execution, present, cellEq⟩ := Option.map_eq_some_iff.mp found
        have small := (List.getElem?_eq_some_iff.mp present).1
        rw [Controller.State.cellOf, List.getElem?_append_left small, present]
        exact congrArg some cellEq
  | cleared found clearing =>
      rename_i id execution
      refine Quiet.of_traces (state.traces_setPhase id .executing) ?_
        (fun _ member => member) (fun unbound => unbound)
      intro cell tested entry
      simp only [OrderedMap.get_set] at entry
      split at entry
      · rename_i same
        cases entry
        exact Or.inr (by rw [same, Controller.State.cellOf, found]; rfl)
      · exact Or.inl entry
  | appendCommitted found =>
      rename_i position pending
      refine Quiet.of_traces (Controller.State.traces_commitEnd _ _ _)
        ?_ ?_ ?_
      · intro cell id entry
        rw [Controller.State.commitEnd_inflight] at entry
        exact Or.inl entry
      · intro tested member
        rw [Controller.State.commitEnd_pendingEnds] at member
        exact List.mem_of_mem_eraseIdx member
      · intro unbound spanId
        exact Controller.State.commitEnd_unbound _
          { state with
            pendingEnds := state.pendingEnds.eraseIdx position }
          _ unbound spanId
  | settled rejected found executing =>
      refine Quiet.of_traces (by simp) ?_ ?_ ?_
      · intro cell tested entry
        have older := Controller.State.settle_inflight entry
        exact Or.inl older
      · intro tested member
        rwa [Controller.State.settle_pendingEnds] at member
      · intro unbound spanId
        rw [Controller.State.settle_cellByCorrelation]
        exact unbound spanId

theorem Quiet.invariant
    {state next : State}
    (quiet : Quiet state.controller next.controller)
    (openers : next.openers = state.openers)
    (invariant : Invariant state) :
    Invariant next where
  unbound := quiet.unbound invariant.unbound
  ownEntry := by
    intro cell id entry
    rcases quiet.entries cell id entry with old | own
    · exact quiet.cells id cell (invariant.ownEntry cell id old)
    · exact quiet.cells id cell own
  recordedOutputs := by
    intro execution member payload output
    rw [openers]
    rcases quiet.outputs execution member with empty | ⟨old, oldMember, same⟩
    · simp [empty] at output
    · exact invariant.recordedOutputs old oldMember payload
        (same.2 ▸ output)
  recordedEnds := by
    intro pending member
    rw [openers]
    exact invariant.recordedEnds pending (quiet.pendingEnds pending member)

theorem Quiet.attributed
    {state next : State}
    (quiet : Quiet state.controller next.controller)
    (openers : next.openers = state.openers)
    (attributed : AttributedToOpener state) :
    AttributedToOpener next where
  outputs := by
    intro execution member payload output spanId opener span opened
    rw [openers] at opened
    rcases quiet.outputs execution member with empty | ⟨old, oldMember, same⟩
    · simp [empty] at output
    · rw [same.1]
      exact attributed.outputs old oldMember payload (same.2 ▸ output)
        spanId opener span opened
  ends := by
    intro pending member spanId opener span opened
    rw [openers] at opened
    exact quiet.cells pending.execution opener
      (attributed.ends pending (quiet.pendingEnds pending member) spanId
        opener span opened)

/-! ### Frames -/

/-- One output goes to the execution that is alone in flight. -/
structure Attributes (state next : Controller.State) (payload : Json)
    (cell : JsString) (id : Controller.ExecutionId) : Prop where
  alone : state.inflight.onlyKey = some cell
  own : state.cellOf id = some cell
  traces : next.traces = state.traces.modify id fun trace =>
    (trace.1, trace.2 ++ [payload])
  entries : ∀ tested owner, next.inflight.get tested = some owner →
    state.inflight.get tested = some owner
  pendingEnds : ∀ pending ∈ next.pendingEnds,
    pending ∈ state.pendingEnds ∨
      pending.execution = id ∧ pending.spanId = spanId? payload
  cellByCorrelation : next.cellByCorrelation = state.cellByCorrelation

/-- With no span bound, the execution of a correlation is the one that is
alone in flight. -/
theorem findExecForCorrelation_iff
    {state : State} (invariant : Invariant state)
    (spanId : Option JsString) (id : Controller.ExecutionId) :
    state.controller.findExecForCorrelation spanId = some id ↔
      ∃ cell, state.controller.inflight.onlyKey = some cell ∧
        state.controller.inflight.get cell = some id := by
  have notBound :
      spanId.bind state.controller.cellByCorrelation.get = none := by
    cases spanId with
    | none => rfl
    | some spanId => exact invariant.unbound spanId
  rw [Controller.State.findExecForCorrelation, notBound]
  exact OrderedMap.head_values_of_size_one _ _

/-- With no span bound, a delivered payload goes to the execution that is
alone in flight, if there is one. -/
theorem attributes_of_delivered
    {state : State} (invariant : Invariant state) {payload : Json}
    {callback : RunCallback}
    (delivered : routeRunMime payload = .deliver callback)
    {cell : JsString}
    (alone : state.controller.inflight.onlyKey = some cell) :
    ∃ id, Attributes state.controller (state.controller.routeRunMime payload)
      payload cell id := by
  obtain ⟨id, entry⟩ := OrderedMap.get_of_onlyKey alone
  have found : state.controller.findExecForCorrelation (spanId? payload) =
      some id :=
    (findExecForCorrelation_iff invariant _ _).mpr ⟨cell, alone, entry⟩
  have own := invariant.ownEntry cell id entry
  have updated : Attributes state.controller
      (state.controller.onRunUpdate payload) payload cell id := by
    simp only [Controller.State.onRunUpdate, found]
    exact
      { alone := alone
        own := own
        traces := state.controller.traces_append id payload
        entries := fun _ _ entry => entry
        pendingEnds := fun _ member => Or.inl member
        cellByCorrelation := rfl }
  have completed : Attributes state.controller
      (state.controller.onRunComplete payload) payload cell id := by
    simp only [Controller.State.onRunComplete, found]
    refine
      { alone := alone
        own := own
        traces := state.controller.traces_append id payload
        entries := ?_
        pendingEnds := ?_
        cellByCorrelation := rfl }
    · intro tested owner entry
      exact OrderedMap.get_of_get_deleteValue entry
    · intro pending member
      rcases List.mem_append.mp member with old | new
      · exact Or.inl old
      · rw [List.mem_singleton.mp new]
        exact Or.inr ⟨rfl, rfl⟩
  refine ⟨id, ?_⟩
  unfold Controller.State.routeRunMime
  rw [delivered]
  cases callback with
  | onRunStart => exact updated
  | onRunEvent => exact updated
  | onRunComplete => exact completed

theorem routeRunMime_of_unattributed
    {state : State} (invariant : Invariant state) {payload : Json}
    (unattributed : ∀ callback cell,
      routeRunMime payload = .deliver callback →
      state.controller.inflight.onlyKey ≠ some cell) :
    state.controller.routeRunMime payload = state.controller := by
  unfold Controller.State.routeRunMime
  cases routed : routeRunMime payload with
  | dropped => rfl
  | threw => rfl
  | deliver callback =>
      have notFound : state.controller.findExecForCorrelation
          (spanId? payload) = none := by
        cases found : state.controller.findExecForCorrelation
            (spanId? payload) with
        | none => rfl
        | some id =>
            obtain ⟨cell, alone, _⟩ :=
              (findExecForCorrelation_iff invariant _ _).mp found
            exact absurd alone (unattributed callback cell routed)
      cases callback <;>
        simp [Controller.State.onRunUpdate, Controller.State.onRunComplete,
          notFound]

/-- The history variable after a frame: an old record stands, and a new span
is recorded with the cell alone in flight. -/
theorem observe_get
    (state : State) (spanId tested : JsString) :
    (state.observe spanId).get tested =
      if tested = spanId ∧ state.openers.get spanId = none then
        some state.controller.inflight.onlyKey
      else
        state.openers.get tested := by
  unfold State.observe
  cases recorded : state.openers.get spanId with
  | none =>
      rw [if_neg (by simp [OrderedMap.has, recorded]), OrderedMap.get_set]
      simp
  | some opener =>
      rw [if_pos (by simp [OrderedMap.has, recorded])]
      simp

namespace Attributes

variable {state next : Controller.State} {payload : Json} {cell : JsString}
  {id : Controller.ExecutionId}

theorem outputs
    (attributes : Attributes state next payload cell id)
    {after : Controller.Execution} (member : after ∈ next.executions)
    {output : Json} (isOutput : output ∈ after.outputs) :
    (∃ before ∈ state.executions,
      after.cell = before.cell ∧ output ∈ before.outputs) ∨
      output = payload ∧ after.cell = cell := by
  have traced : (after.cell, after.outputs) ∈ next.traces :=
    List.mem_map.mpr ⟨after, member, rfl⟩
  rw [attributes.traces] at traced
  obtain ⟨tested, atTested⟩ := List.mem_iff_getElem?.mp traced
  rw [List.getElem?_modify] at atTested
  obtain ⟨old, oldFound, same⟩ := Option.map_eq_some_iff.mp atTested
  have oldTrace : ∃ before ∈ state.executions,
      (before.cell, before.outputs) = old :=
    List.mem_map.mp (List.mem_of_getElem? oldFound)
  obtain ⟨before, beforeMember, rfl⟩ := oldTrace
  split at same
  · rename_i isTested
    obtain ⟨cellEq, outputsEq⟩ := Prod.mk.inj same
    rw [← outputsEq] at isOutput
    rcases List.mem_append.mp isOutput with earlier | new
    · exact Or.inl ⟨before, beforeMember, cellEq.symm, earlier⟩
    · refine Or.inr ⟨List.mem_singleton.mp new, ?_⟩
      have own := attributes.own
      rw [Controller.State.cellOf_eq_traces, isTested, oldFound] at own
      rw [← cellEq]
      exact Option.some.inj own
  · obtain ⟨cellEq, outputsEq⟩ := Prod.mk.inj same
    exact Or.inl ⟨before, beforeMember, cellEq.symm, outputsEq ▸ isOutput⟩

theorem appended (attributes : Attributes state next payload cell id) :
    ∃ after ∈ next.executions,
      after.cell = cell ∧ payload ∈ after.outputs := by
  have own := attributes.own
  rw [Controller.State.cellOf_eq_traces] at own
  obtain ⟨old, oldFound, cellEq⟩ := Option.map_eq_some_iff.mp own
  have new : next.traces[id]? = some (old.1, old.2 ++ [payload]) := by
    rw [attributes.traces]
    simp [oldFound]
  obtain ⟨after, member, same⟩ :=
    List.mem_map.mp (List.mem_of_getElem? new)
  obtain ⟨afterCell, afterOutputs⟩ := Prod.mk.inj same
  refine ⟨after, member, afterCell.trans cellEq, ?_⟩
  rw [afterOutputs]
  simp

theorem cellOf
    (attributes : Attributes state next payload cell id)
    (tested : Controller.ExecutionId) :
    next.cellOf tested = state.cellOf tested := by
  rw [Controller.State.cellOf_eq_traces, Controller.State.cellOf_eq_traces,
    attributes.traces, List.getElem?_modify]
  cases state.traces[tested]? with
  | none => rfl
  | some trace =>
      simp only [Option.map_some, Option.map_eq_map]
      split <;> rfl

end Attributes

theorem observe_recorded {state : State} (spanId : JsString)
    {tested : JsString} (recorded : state.openers.get tested ≠ none) :
    (state.observe spanId).get tested ≠ none := by
  rw [observe_get]
  split
  · simp
  · exact recorded

theorem observe_own (state : State) (spanId : JsString) :
    (state.observe spanId).get spanId ≠ none := by
  rw [observe_get]
  split
  · simp
  · rename_i present
    simpa using present

/-- A record that a frame adds is of a span without earlier traces. -/
theorem get_of_observe {state : State} {spanId tested opener : JsString}
    (recorded : state.openers.get tested ≠ none)
    (opened : (state.observe spanId).get tested = some (some opener)) :
    state.openers.get tested = some (some opener) := by
  rw [observe_get] at opened
  split at opened
  · rename_i fresh
    rw [fresh.1] at recorded
    exact absurd fresh.2 recorded
  · exact opened

section Frame

variable {state next : State} {payload : Json} {spanId : JsString}

/-- A frame is attributed to the cell that is alone in flight, or leaves the
controller as it is. -/
theorem frame_attributes_or_unmoved (invariant : Invariant state)
    (controller :
      next.controller = state.controller.routeRunMime payload) :
    (∃ callback cell id, routeRunMime payload = .deliver callback ∧
        state.controller.inflight.onlyKey = some cell ∧
        Attributes state.controller next.controller payload cell id) ∨
      next.controller = state.controller := by
  rw [controller]
  by_cases attributed : ∃ callback cell,
      routeRunMime payload = .deliver callback ∧
        state.controller.inflight.onlyKey = some cell
  · obtain ⟨callback, cell, delivered, alone⟩ := attributed
    obtain ⟨id, attributes⟩ :=
      attributes_of_delivered invariant delivered alone
    exact Or.inl ⟨callback, cell, id, delivered, alone, attributes⟩
  · apply Or.inr
    exact routeRunMime_of_unattributed invariant
      fun callback cell delivered alone =>
        attributed ⟨callback, cell, delivered, alone⟩

/-- After a frame, every trace of a span is recorded. -/
theorem frame_invariant
    (invariant : Invariant state) (span : spanId? payload = some spanId)
    (controller :
      next.controller = state.controller.routeRunMime payload)
    (openers : next.openers = state.observe spanId) :
    Invariant next := by
  have stillRecorded : ∀ tested, state.openers.get tested ≠ none →
      next.openers.get tested ≠ none := by
    intro tested recorded
    rw [openers]
    exact observe_recorded spanId recorded
  have nowRecorded : next.openers.get spanId ≠ none := by
    rw [openers]
    exact observe_own state spanId
  rcases frame_attributes_or_unmoved invariant controller with
    ⟨_, _, _, _, _, attributes⟩ | unmoved
  · exact
      { unbound := by
          rw [attributes.cellByCorrelation]
          exact invariant.unbound
        ownEntry := by
          intro tested owner entry
          rw [attributes.cellOf]
          exact invariant.ownEntry tested owner
            (attributes.entries tested owner entry)
        recordedOutputs := by
          intro after member output isOutput tested outputSpan
          rcases attributes.outputs member isOutput with
            ⟨before, beforeMember, _, earlier⟩ | ⟨rfl, _⟩
          · exact stillRecorded tested
              (invariant.recordedOutputs before beforeMember output earlier
                tested outputSpan)
          · rw [span] at outputSpan
            cases outputSpan
            exact nowRecorded
        recordedEnds := by
          intro pending member tested pendingSpan
          rcases attributes.pendingEnds pending member with old | ⟨_, same⟩
          · exact stillRecorded tested
              (invariant.recordedEnds pending old tested pendingSpan)
          · rw [same, span] at pendingSpan
            cases pendingSpan
            exact nowRecorded }
  · exact
      { unbound := by rw [unmoved]; exact invariant.unbound
        ownEntry := by rw [unmoved]; exact invariant.ownEntry
        recordedOutputs := by
          rw [unmoved]
          intro execution member output isOutput tested outputSpan
          exact stillRecorded tested
            (invariant.recordedOutputs execution member output isOutput
              tested outputSpan)
        recordedEnds := by
          rw [unmoved]
          intro pending member tested pendingSpan
          exact stillRecorded tested
            (invariant.recordedEnds pending member tested pendingSpan) }

/-- Where a frame keeps the attribution, the opener recorded for its span is
what is alone in flight: the frame itself is attributed to that. -/
theorem openerStillAlone_of_frame (invariant : Invariant state)
    (span : spanId? payload = some spanId)
    (controller :
      next.controller = state.controller.routeRunMime payload)
    (openers : next.openers = state.observe spanId)
    (observerThrows : Bool) (after : AttributedToOpener next) :
    OpenerStillAlone state (.frame payload observerThrows) := by
  intro tested opener callback cell testedSpan opened delivered alone
  rw [span] at testedSpan
  cases testedSpan
  obtain ⟨id, attributes⟩ :=
    attributes_of_delivered invariant delivered alone
  rw [← controller] at attributes
  obtain ⟨execution, member, cellEq, output⟩ := attributes.appended
  have nextOpened : next.openers.get spanId = some (some opener) := by
    rw [openers, observe_get, if_neg (by simp [opened])]
    exact opened
  rw [← cellEq]
  exact after.outputs execution member payload output spanId opener span
    nextOpened

/-- A frame that is attributed keeps the attribution where the opener recorded
for its span is its cell. -/
theorem frame_attributed_of_attributes
    (invariant : Invariant state) (holds : AttributedToOpener state)
    (span : spanId? payload = some spanId)
    (openers : next.openers = state.observe spanId)
    {cell : JsString} {id : Controller.ExecutionId}
    (attributes :
      Attributes state.controller next.controller payload cell id)
    (ownOpener : ∀ opener,
      next.openers.get spanId = some (some opener) → cell = opener) :
    AttributedToOpener next := by
  constructor
  · intro after member output isOutput tested opener outputSpan opened
    rcases attributes.outputs member isOutput with
      ⟨before, beforeMember, sameCell, earlier⟩ | ⟨rfl, cellEq⟩
    · rw [sameCell]
      rw [openers] at opened
      have recorded := invariant.recordedOutputs before beforeMember
        output earlier tested outputSpan
      exact holds.outputs before beforeMember output earlier tested
        opener outputSpan (get_of_observe recorded opened)
    · rw [span] at outputSpan
      cases outputSpan
      rw [cellEq]
      exact ownOpener opener opened
  · intro pending member tested opener pendingSpan opened
    rw [attributes.cellOf]
    rcases attributes.pendingEnds pending member with
      old | ⟨isAlone, same⟩
    · rw [openers] at opened
      have recorded :=
        invariant.recordedEnds pending old tested pendingSpan
      exact holds.ends pending old tested opener pendingSpan
        (get_of_observe recorded opened)
    · rw [same, span] at pendingSpan
      cases pendingSpan
      rw [isAlone, attributes.own, ownOpener opener opened]

theorem frame_attributed_of_unmoved
    (invariant : Invariant state) (holds : AttributedToOpener state)
    (openers : next.openers = state.observe spanId)
    (unmoved : next.controller = state.controller) :
    AttributedToOpener next := by
  constructor
  · rw [unmoved, openers]
    intro execution member output isOutput tested opener outputSpan opened
    have recorded := invariant.recordedOutputs execution member output
      isOutput tested outputSpan
    exact holds.outputs execution member output isOutput tested opener
      outputSpan (get_of_observe recorded opened)
  · rw [unmoved, openers]
    intro pending member tested opener pendingSpan opened
    have recorded :=
      invariant.recordedEnds pending member tested pendingSpan
    exact holds.ends pending member tested opener pendingSpan
      (get_of_observe recorded opened)

/-- A frame keeps the attribution exactly where the opener of its span, if it
is recorded, is what is alone in flight. -/
theorem frame_attributed_iff
    (invariant : Invariant state) (holds : AttributedToOpener state)
    (span : spanId? payload = some spanId)
    (controller :
      next.controller = state.controller.routeRunMime payload)
    (openers : next.openers = state.observe spanId)
    (observerThrows : Bool) :
    AttributedToOpener next ↔
      OpenerStillAlone state (.frame payload observerThrows) := by
  constructor
  · intro after
    exact openerStillAlone_of_frame invariant span controller openers
      observerThrows after
  · intro meets
    rcases frame_attributes_or_unmoved invariant controller with
      ⟨callback, cell, id, delivered, alone, attributes⟩ | unmoved
    · apply frame_attributed_of_attributes invariant holds span openers
        attributes
      -- The opener recorded for the frame's own span is the cell alone now.
      intro opener opened
      rw [openers, observe_get] at opened
      split at opened
      · rw [alone] at opened
        exact Option.some.inj (Option.some.inj opened)
      · exact meets spanId opener callback cell span opened delivered alone
    · exact frame_attributed_of_unmoved invariant holds openers unmoved

end Frame

/-! ### Runs -/

theorem Quiet.refl (state : Controller.State) : Quiet state state :=
  Quiet.of_traces rfl (fun _ _ entry => Or.inl entry)
    (fun _ member => member) (fun unbound => unbound)

private theorem quiet_controllerStep
    {endThrows : Bool} {state next : State} {event : Controller.Event}
    (stepped : state.controllerStep endThrows event = some next)
    (notPayload : ∀ payload, event ≠ .payload payload)
    (notBinding : ∀ spanId cell, event ≠ .bindCorrelation spanId cell) :
    Quiet state.controller next.controller ∧
      next.openers = state.openers := by
  obtain ⟨controller, accepted, rfl⟩ := Option.map_eq_some_iff.mp stepped
  exact ⟨quiet_of_step accepted notPayload notBinding, rfl⟩

private theorem quiet_clientStep
    {state next : State} {event : PtyKernelClient.Event}
    (stepped : state.clientStep event = some next) :
    Quiet state.controller next.controller ∧
      next.openers = state.openers := by
  obtain ⟨client, _, rfl⟩ := Option.map_eq_some_iff.mp stepped
  exact ⟨Quiet.refl _, rfl⟩

/-- An event is quiet for the controller, or it is a span frame. -/
theorem step_cases
    {endThrows : Bool} {state next : State} {event : Event}
    (stepped : step endThrows state event = some next) :
    (Quiet state.controller next.controller ∧
        next.openers = state.openers) ∧ OpenerStillAlone state event ∨
      ∃ payload observerThrows spanId,
        event = .frame payload observerThrows ∧
        spanId? payload = some spanId ∧
        next.controller = state.controller.routeRunMime payload ∧
        next.openers = state.observe spanId := by
  cases event with
  | run cell =>
      exact Or.inl ⟨quiet_controllerStep stepped (by simp) (by simp), trivial⟩
  | cleared execution =>
      exact Or.inl ⟨quiet_controllerStep stepped (by simp) (by simp), trivial⟩
  | appendCommitted position =>
      exact Or.inl ⟨quiet_controllerStep stepped (by simp) (by simp), trivial⟩
  | ready call runSpan =>
      exact Or.inl ⟨quiet_clientStep stepped, trivial⟩
  | startFailed call =>
      exact Or.inl ⟨quiet_clientStep stepped, trivial⟩
  | timeout call =>
      exact Or.inl ⟨quiet_clientStep stepped, trivial⟩
  | connectFailed execution =>
      simp only [step, Option.ite_none_right_eq_some] at stepped
      exact Or.inl
        ⟨quiet_controllerStep stepped.2 (by simp) (by simp), trivial⟩
  | executeCell execution directive =>
      simp only [step, Option.ite_none_right_eq_some] at stepped
      obtain ⟨client, _, rfl⟩ := Option.map_eq_some_iff.mp stepped.2
      exact Or.inl ⟨⟨Quiet.refl _, rfl⟩, trivial⟩
  | settled call =>
      simp only [step] at stepped
      split at stepped
      · exact Or.inl
          ⟨quiet_controllerStep stepped (by simp) (by simp), trivial⟩
      · cases stepped
  | frame payload observerThrows =>
      simp only [step] at stepped
      split at stepped
      · rename_i noSpan
        cases stepped
        refine Or.inl ⟨⟨Quiet.refl _, rfl⟩, ?_⟩
        intro spanId opener callback cell span
        rw [noSpan] at span
        cases span
      · rename_i spanId span
        obtain ⟨client, _, rest⟩ := Option.bind_eq_some_iff.mp stepped
        obtain ⟨controller, routed, rest⟩ := Option.bind_eq_some_iff.mp rest
        cases routed
        cases rest
        exact Or.inr
          ⟨payload, observerThrows, spanId, rfl, span, rfl, rfl⟩

/-- On the whole run no span that opened while a cell was alone in flight is
attributed to another cell, exactly when no delivered frame of such a span
arrives while another cell is alone in flight. -/
theorem attributedToOpener_iff_openerStillAlone
    (endThrows : Bool) (events : List Event) :
    (system endThrows).Always AttributedToOpener State.initial events ↔
      (system endThrows).StepsMeet OpenerStillAlone State.initial events := by
  have oneStep : ∀ (state : State) (event : Event) (next : State),
      Invariant state → AttributedToOpener state →
      step endThrows state event = some next →
      Invariant next ∧
        (AttributedToOpener next ↔ OpenerStillAlone state event) := by
    intro state event next invariant holds stepped
    rcases step_cases stepped with
      ⟨⟨quiet, openers⟩, meets⟩ |
      ⟨payload, observerThrows, spanId, rfl, span, controller, openers⟩
    · exact ⟨quiet.invariant openers invariant,
        iff_of_true (quiet.attributed openers holds) meets⟩
    · exact ⟨frame_invariant invariant span controller openers,
        frame_attributed_iff invariant holds span controller openers
          observerThrows⟩
  exact System.always_iff_stepsMeet (I := Invariant)
    (fun state event next invariant holds stepped meets =>
      have step := oneStep state event next invariant holds stepped
      ⟨step.1, step.2.mpr meets⟩)
    (fun state event next invariant holds stepped misses kept =>
      misses ((oneStep state event next invariant holds stepped).2.mp kept))
    events Invariant.initial AttributedToOpener.initial

/-- The span of cell `a` opens while `a` is alone in flight; `a` ends by its
own terminal frame; then `b` runs, and an event of the first span is late. -/
def lateEvent : List Event :=
  [.run (js "a"), .cleared 0, .executeCell 0 (some .spawn),
    .ready 0 (js "s1"),
    .frame (.object [(js "spanId", .string (js "s1"))]) false,
    .frame (PtyKernelClient.closedSpan "s1") false,
    .appendCommitted 0, .settled 0,
    .run (js "b"), .cleared 1,
    .frame
      (.object
        [(js "spanId", .string (js "s1")), (js "event", .bool true)])
      false]

/-- The late event is appended to the execution of `b`. -/
theorem lateEvent_attributed_to_other_cell :
    ¬ (system false).Always AttributedToOpener State.initial lateEvent := by
  intro always
  have last := always.last rfl
  have sameCell := last.outputs _ (List.mem_of_getElem? (i := 1) rfl)
    _ (List.mem_of_getElem? (i := 0) rfl) (js "s1") (js "a") rfl rfl
  revert sameCell
  decide

end RtsNotebook.Notebook.Attribution
