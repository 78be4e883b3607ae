import RtsNotebook.Library.Runs
import RtsNotebook.Library.OrderedMap
import RtsNotebook.Messaging.RunMime

/-!
# The notebook controller

`LlmnbNotebookController` as a transition system.  `runOne` is cut at its
awaits, so a cell execution goes through three phases, and the asynchronous
tail of `onRunComplete` is a pending end that a later event commits.  Each
execution object is kept with the list of calls made on it.

`exec.end` on an execution that has already ended belongs to the editor, not
to this source.  The parameter `endThrows` says whether it throws; nothing
below depends on the answer.
-/

namespace RtsNotebook.Notebook.Controller

open RtsNotebook.Library RtsNotebook.Js RtsNotebook.Messaging

/-- An execution object, named by its position in creation order. -/
abbrev ExecutionId := Nat

/-- A call on a `NotebookCellExecution`. -/
inductive Operation where
  | start
  | clearOutput
  | appendOutput (payload : Json)
  | endExecution (success : Bool)

/-- Where `runOne` stands: before the await of `clearOutput` is over, before
the await of `connect` and `executeCell` is over, or past it. -/
inductive RunPhase where
  | clearing
  | executing
  | settled
  deriving DecidableEq, Repr

/-- A `NotebookCellExecution` with the calls made on it so far. -/
structure Execution where
  cell : JsString
  phase : RunPhase
  operations : List Operation

/-- The awaited tail of `onRunComplete`. -/
structure PendingEnd where
  execution : ExecutionId
  success : Bool
  spanId : Option JsString

/-- The fields of the controller, with every execution it created. -/
structure State where
  executions : List Execution
  inflight : OrderedMap JsString ExecutionId
  cellByCorrelation : OrderedMap JsString JsString
  pendingEnds : List PendingEnd

inductive Event where
  | run (cell : JsString)
  | cleared (execution : ExecutionId)
  | bindCorrelation (spanId cell : JsString)
  | payload (payload : Json)
  | appendCommitted (position : Nat)
  | settled (execution : ExecutionId) (rejected : Bool)

def Operation.isEnd : Operation → Bool
  | endExecution _ => true
  | _ => false

/-- Some call has ended the execution. -/
def Execution.ended (execution : Execution) : Bool :=
  execution.operations.any Operation.isEnd

/-- The payloads appended to the execution, in order. -/
def Execution.outputs (execution : Execution) : List Json :=
  execution.operations.filterMap fun operation =>
    match operation with
    | .appendOutput payload => some payload
    | _ => none

namespace State

def initial : State where
  executions := []
  inflight := .empty
  cellByCorrelation := .empty
  pendingEnds := []

def update (state : State) (id : ExecutionId)
    (change : Execution → Execution) : State :=
  { state with executions := state.executions.modify id change }

/-- A call on an execution object. -/
def call (state : State) (id : ExecutionId) (operation : Operation) : State :=
  state.update id fun execution =>
    { execution with operations := execution.operations ++ [operation] }

def setPhase (state : State) (id : ExecutionId) (phase : RunPhase) : State :=
  state.update id fun execution => { execution with phase := phase }

/-- `exec.end(success, Date.now())`, with whether it threw. -/
def endExecution (endThrows : Bool) (state : State) (id : ExecutionId)
    (success : Bool) : State × Bool :=
  (state.call id (.endExecution success),
    endThrows && (state.executions[id]?).any Execution.ended)

/-- `findExecForCorrelation` -/
def findExecForCorrelation (state : State) (spanId : Option JsString) :
    Option ExecutionId :=
  match spanId.bind state.cellByCorrelation.get with
  | some cell => state.inflight.get cell
  | none =>
      if state.inflight.size = 1 then state.inflight.values.head? else none

/-- `onRunStart` and `onRunEvent`, whose bodies are the same. -/
def onRunUpdate (state : State) (payload : Json) : State :=
  match state.findExecForCorrelation (spanId? payload) with
  | none => state
  | some id => state.call id (.appendOutput payload)

/-- `onRunComplete`, up to the await of `appendOutput`. -/
def onRunComplete (state : State) (payload : Json) : State :=
  match state.findExecForCorrelation (spanId? payload) with
  | none => state
  | some id =>
      { state.call id (.appendOutput payload) with
        inflight := state.inflight.deleteValue id
        pendingEnds := state.pendingEnds ++
          [{ execution := id
             success := isStatusOk payload
             spanId := spanId? payload }] }

/-- The router calls the hook that the payload is classified for. -/
def routeRunMime (state : State) (payload : Json) : State :=
  match Messaging.routeRunMime payload with
  | .dropped => state
  | .threw => state
  | .deliver .onRunStart => state.onRunUpdate payload
  | .deliver .onRunEvent => state.onRunUpdate payload
  | .deliver .onRunComplete => state.onRunComplete payload

/-- The tail of `onRunComplete`, past the await of `appendOutput`. -/
def commitEnd (endThrows : Bool) (state : State) (pending : PendingEnd) :
    State :=
  let (ended, threw) :=
    state.endExecution endThrows pending.execution pending.success
  if threw then
    ended
  else
    match pending.spanId with
    | some spanId =>
        { ended with
          cellByCorrelation := ended.cellByCorrelation.delete spanId }
    | none => ended

/-- The guarded `exec.end(false)` and `inflight.delete` that `runOne` has in
its `try` and again in its `catch`, with whether it threw. -/
def endIfInflight (endThrows : Bool) (state : State) (id : ExecutionId)
    (cell : JsString) : State × Bool :=
  if state.inflight.has cell then
    let (ended, threw) := state.endExecution endThrows id false
    if threw then
      (ended, true)
    else
      ({ ended with inflight := ended.inflight.delete cell }, false)
  else
    (state, false)

/-- The rest of `runOne` once `executeCell` has settled.  What the `try` throws
is caught, and the `catch` makes the same guarded calls. -/
def settle (endThrows : Bool) (state : State) (id : ExecutionId)
    (cell : JsString) (rejected : Bool) : State :=
  let (tried, threw) :=
    if rejected then (state, true)
    else state.endIfInflight endThrows id cell
  if threw then (tried.endIfInflight endThrows id cell).1 else tried

section UpdateLemmas

variable (state : State) (id : ExecutionId) (change : Execution → Execution)

@[simp]
theorem update_inflight : (state.update id change).inflight = state.inflight :=
  rfl

@[simp]
theorem update_cellByCorrelation :
    (state.update id change).cellByCorrelation = state.cellByCorrelation := rfl

@[simp]
theorem update_pendingEnds :
    (state.update id change).pendingEnds = state.pendingEnds := rfl

theorem update_executions
    {execution : Execution} (found : state.executions[id]? = some execution)
    (tested : ExecutionId) :
    (state.update id change).executions[tested]? =
      if tested = id then
        some (change execution)
      else
        state.executions[tested]? := by
  by_cases same : id = tested
  · subst same
    simp [update, found]
  · simp [update, same, Ne.symm same]

end UpdateLemmas

theorem findExecForCorrelation_inflight
    {state : State} {spanId : Option JsString} {id : ExecutionId}
    (found : state.findExecForCorrelation spanId = some id) :
    ∃ cell, state.inflight.get cell = some id := by
  unfold findExecForCorrelation at found
  split at found
  · exact ⟨_, found⟩
  · split at found
    · rename_i sizeOne
      obtain ⟨rest, only⟩ := List.head?_eq_some_iff.mp found
      obtain ⟨cell, atCell, _⟩ :=
        OrderedMap.get_of_size_one sizeOne only
      exact ⟨cell, atCell⟩
    · cases found

theorem endIfInflight_of_open
    {state : State} {id : ExecutionId} {cell : JsString} (endThrows : Bool)
    (stillOpen : (state.executions[id]?).any Execution.ended = false)
    (present : state.inflight.has cell = true) :
    state.endIfInflight endThrows id cell =
      ({ state.call id (.endExecution false) with
          inflight := state.inflight.delete cell }, false) := by
  simp [endIfInflight, endExecution, present, stillOpen, call]

/-- A settlement that finds an entry calls `end` even on an execution that has
ended, and once more where the first call throws into the `catch`. -/
theorem settle_of_ended
    {state : State} {id : ExecutionId} {execution : Execution}
    {cell : JsString} (endThrows rejected : Bool)
    (found : state.executions[id]? = some execution)
    (ended : execution.ended = true)
    (present : state.inflight.has cell = true) :
    ∃ (after : Execution) (more : List Operation),
      (state.settle endThrows id cell rejected).executions[id]? =
        some after ∧
      after.operations =
        execution.operations ++ .endExecution false :: more := by
  set again : Execution := { execution with
    operations := execution.operations ++ [.endExecution false] }
  have foundAgain :
      (state.call id (.endExecution false)).executions[id]? = some again := by
    rw [call, update_executions _ _ _ found, if_pos rfl]
  have endedAgain : again.ended = true := by
    have before : execution.operations.any Operation.isEnd = true := ended
    simp [again, Execution.ended, List.any_append, before]
  have presentAgain :
      (state.call id (.endExecution false)).inflight.has cell = true :=
    present
  cases endThrows with
  | false =>
      refine ⟨again, [], ?_, rfl⟩
      cases rejected <;>
        simpa [settle, endIfInflight, endExecution, present]
          using foundAgain
  | true =>
      cases rejected with
      | true =>
          refine ⟨again, [], ?_, rfl⟩
          simpa [settle, endIfInflight, endExecution, present, found, ended]
            using foundAgain
      | false =>
          refine ⟨{ again with
            operations := again.operations ++ [.endExecution false] },
            [.endExecution false], ?_, by simp [again]⟩
          have twice :
              state.settle true id cell false =
                (state.call id (.endExecution false)).call id
                  (.endExecution false) := by
            simp [settle, endIfInflight, endExecution, present, found, ended,
              presentAgain, foundAgain, endedAgain]
          rw [twice, call, update_executions _ _ _ foundAgain, if_pos rfl]

/-! ### What becomes of the outputs -/

/-- The cell and the outputs of each execution. -/
def traces (state : State) : List (JsString × List Json) :=
  state.executions.map fun execution => (execution.cell, execution.outputs)

/-- The cell that an execution is of. -/
def cellOf (state : State) (id : ExecutionId) : Option JsString :=
  (state.executions[id]?).map Execution.cell

theorem cellOf_eq_traces (state : State) (id : ExecutionId) :
    state.cellOf id = (state.traces[id]?).map Prod.fst := by
  simp [cellOf, traces, Function.comp_def]

theorem traces_update
    (state : State) (id : ExecutionId) {change : Execution → Execution}
    {traced : JsString × List Json → JsString × List Json}
    (follows : ∀ execution,
      ((change execution).cell, (change execution).outputs) =
        traced (execution.cell, execution.outputs)) :
    (state.update id change).traces = state.traces.modify id traced := by
  apply List.ext_getElem?
  intro tested
  simp only [traces, update, List.getElem?_map, List.getElem?_modify]
  cases state.executions[tested]? with
  | none => rfl
  | some execution =>
      simp only [Option.map_some, Option.map_eq_map]
      split
      · rw [follows]
      · rfl

theorem traces_update_of_kept
    (state : State) (id : ExecutionId) {change : Execution → Execution}
    (kept : ∀ execution,
      ((change execution).cell, (change execution).outputs) =
        (execution.cell, execution.outputs)) :
    (state.update id change).traces = state.traces := by
  have followed : (state.update id change).traces =
      state.traces.modify id fun trace => trace :=
    traces_update state id kept
  rw [followed]
  exact List.modify_id id state.traces

@[simp]
theorem traces_setPhase
    (state : State) (id : ExecutionId) (phase : RunPhase) :
    (state.setPhase id phase).traces = state.traces :=
  state.traces_update_of_kept id fun _ => rfl

@[simp]
theorem traces_end (state : State) (id : ExecutionId) (success : Bool) :
    (state.call id (.endExecution success)).traces = state.traces :=
  state.traces_update_of_kept id fun execution => by
    simp [Execution.outputs]

theorem traces_append (state : State) (id : ExecutionId) (payload : Json) :
    (state.call id (.appendOutput payload)).traces =
      state.traces.modify id fun trace =>
        (trace.1, trace.2 ++ [payload]) :=
  state.traces_update id fun execution => by simp [Execution.outputs]

@[simp]
theorem traces_endIfInflight
    (endThrows : Bool) (state : State) (id : ExecutionId) (cell : JsString) :
    (state.endIfInflight endThrows id cell).1.traces = state.traces := by
  have ended := state.traces_end id false
  unfold endIfInflight endExecution
  split
  · dsimp only
    split
    · exact ended
    · exact ended
  · rfl

@[simp]
theorem traces_settle
    (endThrows : Bool) (state : State) (id : ExecutionId) (cell : JsString)
    (rejected : Bool) :
    (state.settle endThrows id cell rejected).traces = state.traces := by
  unfold settle
  cases rejected with
  | true => exact state.traces_endIfInflight endThrows id cell
  | false =>
      simp only [Bool.false_eq_true, if_false]
      split <;> simp

@[simp]
theorem traces_commitEnd
    (endThrows : Bool) (state : State) (pending : PendingEnd) :
    (state.commitEnd endThrows pending).traces = state.traces := by
  have ended := state.traces_end pending.execution pending.success
  unfold commitEnd endExecution
  dsimp only
  split
  · exact ended
  · split
    · exact ended
    · exact ended

/-! ### What a settlement and a commit leave alone -/

@[simp]
theorem endIfInflight_pendingEnds
    (endThrows : Bool) (state : State) (id : ExecutionId) (cell : JsString) :
    (state.endIfInflight endThrows id cell).1.pendingEnds =
      state.pendingEnds := by
  unfold endIfInflight endExecution
  dsimp only
  split
  · split <;> rfl
  · rfl

@[simp]
theorem endIfInflight_cellByCorrelation
    (endThrows : Bool) (state : State) (id : ExecutionId) (cell : JsString) :
    (state.endIfInflight endThrows id cell).1.cellByCorrelation =
      state.cellByCorrelation := by
  unfold endIfInflight endExecution
  dsimp only
  split
  · split <;> rfl
  · rfl

theorem endIfInflight_inflight
    {endThrows : Bool} {state : State} {id owner : ExecutionId}
    {cell tested : JsString}
    (entry : (state.endIfInflight endThrows id cell).1.inflight.get tested =
      some owner) :
    state.inflight.get tested = some owner := by
  unfold endIfInflight endExecution at entry
  dsimp only at entry
  split at entry
  · split at entry
    · exact entry
    · simp only [OrderedMap.get_delete] at entry
      split at entry
      · cases entry
      · exact entry
  · exact entry

@[simp]
theorem settle_pendingEnds
    (endThrows : Bool) (state : State) (id : ExecutionId) (cell : JsString)
    (rejected : Bool) :
    (state.settle endThrows id cell rejected).pendingEnds =
      state.pendingEnds := by
  unfold settle
  cases rejected with
  | true => simp
  | false =>
      simp only [Bool.false_eq_true, if_false]
      split <;> simp

@[simp]
theorem settle_cellByCorrelation
    (endThrows : Bool) (state : State) (id : ExecutionId) (cell : JsString)
    (rejected : Bool) :
    (state.settle endThrows id cell rejected).cellByCorrelation =
      state.cellByCorrelation := by
  unfold settle
  cases rejected with
  | true => simp
  | false =>
      simp only [Bool.false_eq_true, if_false]
      split <;> simp

theorem settle_inflight
    {endThrows : Bool} {state : State} {id owner : ExecutionId}
    {cell tested : JsString} {rejected : Bool}
    (entry : (state.settle endThrows id cell rejected).inflight.get tested =
      some owner) :
    state.inflight.get tested = some owner := by
  unfold settle at entry
  cases rejected with
  | true => exact endIfInflight_inflight entry
  | false =>
      simp only [Bool.false_eq_true, if_false] at entry
      split at entry
      · exact endIfInflight_inflight (endIfInflight_inflight entry)
      · exact endIfInflight_inflight entry

@[simp]
theorem commitEnd_inflight
    (endThrows : Bool) (state : State) (pending : PendingEnd) :
    (state.commitEnd endThrows pending).inflight = state.inflight := by
  unfold commitEnd endExecution
  dsimp only
  split
  · rfl
  · split <;> rfl

@[simp]
theorem commitEnd_pendingEnds
    (endThrows : Bool) (state : State) (pending : PendingEnd) :
    (state.commitEnd endThrows pending).pendingEnds = state.pendingEnds := by
  unfold commitEnd endExecution
  dsimp only
  split
  · rfl
  · split <;> rfl

theorem commitEnd_unbound
    (endThrows : Bool) (state : State) (pending : PendingEnd)
    (unbound : ∀ spanId, state.cellByCorrelation.get spanId = none)
    (spanId : JsString) :
    (state.commitEnd endThrows pending).cellByCorrelation.get spanId =
      none := by
  unfold commitEnd endExecution
  dsimp only
  split
  · exact unbound spanId
  · split
    · simp [OrderedMap.get_delete, call, unbound spanId]
    · exact unbound spanId

end State

/-- One event.  A cell is run again only when each of its executions has
ended, and an await is over only for an execution that is in it. -/
def step (endThrows : Bool) (state : State) : Event → Option State
  | .run cell =>
      if state.executions.all fun execution =>
          execution.cell ≠ cell ∨ execution.ended then
        some { state with
          executions := state.executions ++
            [{ cell := cell
               phase := .clearing
               operations := [.start, .clearOutput] }] }
      else
        none
  | .cleared id =>
      match state.executions[id]? with
      | none => none
      | some execution =>
          if execution.phase = .clearing then
            some { state.setPhase id .executing with
              inflight := state.inflight.set execution.cell id }
          else
            none
  | .bindCorrelation spanId cell =>
      some { state with
        cellByCorrelation := state.cellByCorrelation.set spanId cell }
  | .payload payload => some (state.routeRunMime payload)
  | .appendCommitted position =>
      match state.pendingEnds[position]? with
      | none => none
      | some pending =>
          some ({ state with
            pendingEnds := state.pendingEnds.eraseIdx position }.commitEnd
              endThrows pending)
  | .settled id rejected =>
      match state.executions[id]? with
      | none => none
      | some execution =>
          if execution.phase = .executing then
            some ((state.setPhase id .settled).settle endThrows id
              execution.cell rejected)
          else
            none

/-- What each event that can happen does. -/
inductive Stepped (endThrows : Bool) (state : State) : Event → State → Prop
    where
  | run {cell : JsString}
      (isOver : ∀ execution ∈ state.executions,
        execution.cell = cell → execution.ended = true) :
      Stepped endThrows state (.run cell)
        { state with
          executions := state.executions ++
            [{ cell := cell
               phase := .clearing
               operations := [.start, .clearOutput] }] }
  | cleared {id : ExecutionId} {execution : Execution}
      (found : state.executions[id]? = some execution)
      (clearing : execution.phase = .clearing) :
      Stepped endThrows state (.cleared id)
        { state.setPhase id .executing with
          inflight := state.inflight.set execution.cell id }
  | bindCorrelation (spanId cell : JsString) :
      Stepped endThrows state (.bindCorrelation spanId cell)
        { state with
          cellByCorrelation := state.cellByCorrelation.set spanId cell }
  | payload (payload : Json) :
      Stepped endThrows state (.payload payload) (state.routeRunMime payload)
  | appendCommitted {position : Nat} {pending : PendingEnd}
      (found : state.pendingEnds[position]? = some pending) :
      Stepped endThrows state (.appendCommitted position)
        ({ state with
          pendingEnds := state.pendingEnds.eraseIdx position }.commitEnd
            endThrows pending)
  | settled {id : ExecutionId} {execution : Execution} (rejected : Bool)
      (found : state.executions[id]? = some execution)
      (executing : execution.phase = .executing) :
      Stepped endThrows state (.settled id rejected)
        ((state.setPhase id .settled).settle endThrows id execution.cell
          rejected)

theorem stepped_of_step
    {endThrows : Bool} {state next : State} {event : Event}
    (stepped : step endThrows state event = some next) :
    Stepped endThrows state event next := by
  cases event with
  | run cell =>
      simp only [step, Option.ite_none_right_eq_some, Option.some.injEq]
        at stepped
      obtain ⟨isOver, rfl⟩ := stepped
      refine .run fun execution member sameCell => ?_
      simpa [sameCell] using List.all_eq_true.mp isOver execution member
  | cleared id =>
      simp only [step] at stepped
      split at stepped
      · cases stepped
      · rename_i execution found
        simp only [Option.ite_none_right_eq_some, Option.some.injEq]
          at stepped
        obtain ⟨clearing, rfl⟩ := stepped
        exact .cleared found clearing
  | bindCorrelation spanId cell =>
      cases stepped
      exact .bindCorrelation spanId cell
  | payload payload =>
      cases stepped
      exact .payload payload
  | appendCommitted position =>
      simp only [step] at stepped
      split at stepped
      · cases stepped
      · rename_i pending found
        cases stepped
        exact .appendCommitted found
  | settled id rejected =>
      simp only [step] at stepped
      split at stepped
      · cases stepped
      · rename_i execution found
        simp only [Option.ite_none_right_eq_some, Option.some.injEq]
          at stepped
        obtain ⟨executing, rfl⟩ := stepped
        exact .settled rejected found executing

/-- Any number of cell executions, interleaved with payloads and
settlements. -/
def system (endThrows : Bool) : System State Event where
  initial := State.initial
  step := step endThrows

end RtsNotebook.Notebook.Controller
