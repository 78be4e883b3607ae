import RtsNotebook.Notebook.Controller

/-!
# The lifecycle of a cell execution

An execution goes through four stages: it waits for its output to be cleared,
it is in flight, its end waits for the last output, and it has ended.  The
in-flight map is keyed by cell, so the invariant ties each stage to the entry
of the execution's own cell, and it says that a cell has at most one execution
that has not ended.

`runOne` ends whatever run it belongs to when its cell has an entry, without
asking whose entry that is.  A settlement that arrives while a later run of
the cell is in flight therefore ends the earlier execution a second time.
This is the only way in which the lifecycle fails.
-/

namespace RtsNotebook.Notebook.Controller

open RtsNotebook.Library RtsNotebook.Js RtsNotebook.Messaging

/-- The call that ends an execution is the last one made on it. -/
def EndsLast (operations : List Operation) : Prop :=
  ∀ before success after,
    operations = before ++ .endExecution success :: after → after = []

namespace State

/-- The executions whose end waits for an output. -/
def pendingIds (state : State) : List ExecutionId :=
  state.pendingEnds.map PendingEnd.execution

end State

/-- Every execution is ended at most once and gets nothing afterwards; one
whose `executeCell` has settled has ended, unless its end still waits for an
output; and one that is executing keeps its in-flight entry. -/
structure Lifecycle (state : State) : Prop where
  endsLast : ∀ (id : ExecutionId) (execution : Execution),
    state.executions[id]? = some execution →
    EndsLast execution.operations
  settledEnds : ∀ (id : ExecutionId) (execution : Execution),
    state.executions[id]? = some execution →
    execution.phase = .settled → id ∉ state.pendingIds →
    execution.ended = true
  entryKept : ∀ (id : ExecutionId) (execution : Execution),
    state.executions[id]? = some execution →
    execution.phase = .executing → execution.ended = false →
    id ∉ state.pendingIds →
    state.inflight.get execution.cell = some id

/-- A settlement finds the entry of its own run, or none, for its cell. -/
def SettlesOwnEntry (state : State) : Event → Prop
  | .settled id _ =>
      ∀ execution, state.executions[id]? = some execution →
        state.inflight.get execution.cell = none ∨
          state.inflight.get execution.cell = some id
  | _ => True

/-! ### The stages of an execution -/

inductive Stage where
  | clearing
  | inflight
  | closing
  | ended

/-- What the record, the in-flight map and the pending ends say of an
execution at each stage. -/
def AtStage (state : State) (id : ExecutionId) (execution : Execution) :
    Stage → Prop
  | .clearing =>
      execution.phase = .clearing ∧ execution.ended = false ∧
        id ∉ state.pendingIds ∧
        state.inflight.get execution.cell ≠ some id
  | .inflight =>
      execution.phase = .executing ∧ execution.ended = false ∧
        id ∉ state.pendingIds ∧
        state.inflight.get execution.cell = some id
  | .closing =>
      execution.phase ≠ .clearing ∧ execution.ended = false ∧
        id ∈ state.pendingIds ∧
        state.inflight.get execution.cell ≠ some id
  | .ended =>
      execution.phase ≠ .clearing ∧ execution.ended = true ∧
        id ∉ state.pendingIds ∧
        state.inflight.get execution.cell ≠ some id

structure Invariant (state : State) : Prop where
  endsLast : ∀ (id : ExecutionId) (execution : Execution),
    state.executions[id]? = some execution →
    EndsLast execution.operations
  staged : ∀ (id : ExecutionId) (execution : Execution),
    state.executions[id]? = some execution →
    ∃ stage, AtStage state id execution stage
  inflightKnown : ∀ cell id, state.inflight.get cell = some id →
    ∃ execution, state.executions[id]? = some execution ∧
      execution.cell = cell
  pendingKnown : ∀ id ∈ state.pendingIds,
    ∃ execution, state.executions[id]? = some execution
  pendingOnce : state.pendingIds.Nodup
  oneOpen : ∀ (first second : ExecutionId)
    (firstExecution secondExecution : Execution),
    state.executions[first]? = some firstExecution →
    state.executions[second]? = some secondExecution →
    firstExecution.cell = secondExecution.cell →
    firstExecution.ended = false → secondExecution.ended = false →
    first = second

namespace Invariant

variable {state : State}

theorem initial : Invariant State.initial where
  endsLast := by simp [State.initial]
  staged := by simp [State.initial]
  inflightKnown := by simp [State.initial]
  pendingKnown := by simp [State.initial, State.pendingIds]
  pendingOnce := by simp [State.initial, State.pendingIds]
  oneOpen := by simp [State.initial]

theorem lifecycle (invariant : Invariant state) : Lifecycle state where
  endsLast := invariant.endsLast
  settledEnds := by
    intro id execution found settled notPending
    obtain ⟨stage, atStage⟩ := invariant.staged id execution found
    cases stage <;> simp_all [AtStage]
  entryKept := by
    intro id execution found executing notEnded notPending
    obtain ⟨stage, atStage⟩ := invariant.staged id execution found
    cases stage <;> simp_all [AtStage]

/-- What the in-flight map points at is in flight. -/
theorem stage_of_entry
    (invariant : Invariant state) {cell : JsString} {id : ExecutionId}
    (entry : state.inflight.get cell = some id) :
    ∃ execution, state.executions[id]? = some execution ∧
      execution.cell = cell ∧ AtStage state id execution .inflight := by
  obtain ⟨execution, found, cellEq⟩ := invariant.inflightKnown cell id entry
  refine ⟨execution, found, cellEq, ?_⟩
  obtain ⟨stage, atStage⟩ := invariant.staged id execution found
  subst cellEq
  cases stage with
  | inflight => exact atStage
  | clearing => exact absurd entry atStage.2.2.2
  | closing => exact absurd entry atStage.2.2.2
  | ended => exact absurd entry atStage.2.2.2

theorem entry_cell
    (invariant : Invariant state) {cell : JsString} {id : ExecutionId}
    {execution : Execution}
    (found : state.executions[id]? = some execution)
    (entry : state.inflight.get cell = some id) :
    cell = execution.cell := by
  obtain ⟨known, knownFound, cellEq⟩ := invariant.inflightKnown cell id entry
  rw [found] at knownFound
  cases knownFound
  exact cellEq.symm

/-- An execution that has not ended owns the entry of its cell, if there is
one. -/
theorem entry_of_open
    (invariant : Invariant state) {id : ExecutionId} {execution : Execution}
    (found : state.executions[id]? = some execution)
    (notEnded : execution.ended = false) :
    state.inflight.get execution.cell = none ∨
      state.inflight.get execution.cell = some id := by
  cases entry : state.inflight.get execution.cell with
  | none =>
      exact Or.inl rfl
  | some owner =>
      obtain ⟨ownerExecution, ownerFound, sameCell, atStage⟩ :=
        invariant.stage_of_entry entry
      have same : owner = id :=
        invariant.oneOpen owner id ownerExecution execution ownerFound found
          sameCell atStage.2.1 notEnded
      exact Or.inr (by rw [same])

end Invariant

/-! ### Replacing one execution

Every event but a new run changes the record of at most one execution, and
the entries of that execution only.
-/

structure Replaces (state next : State) (id : ExecutionId)
    (before after : Execution) : Prop where
  found : state.executions[id]? = some before
  executions : ∀ tested, next.executions[tested]? =
    if tested = id then some after else state.executions[tested]?
  sameCell : after.cell = before.cell
  opens : after.ended = false → before.ended = false
  inflightOthers : ∀ cell other, other ≠ id →
    (next.inflight.get cell = some other ↔
      state.inflight.get cell = some other)
  inflightOwn : ∀ cell, next.inflight.get cell = some id →
    cell = before.cell
  pendingOthers : ∀ other, other ≠ id →
    (other ∈ next.pendingIds ↔ other ∈ state.pendingIds)
  pendingOnce : next.pendingIds.Nodup

theorem Replaces.invariant
    {state next : State} (id : ExecutionId) (before after : Execution)
    (stage : Stage)
    (replaces : Replaces state next id before after)
    (invariant : Invariant state)
    (endsLast : EndsLast after.operations)
    (atStage : AtStage next id after stage) :
    Invariant next where
  endsLast := by
    intro tested execution found
    rw [replaces.executions] at found
    split at found
    · cases found
      exact endsLast
    · exact invariant.endsLast tested execution found
  staged := by
    intro tested execution found
    rw [replaces.executions] at found
    split at found
    · rename_i same
      cases found
      exact ⟨stage, same ▸ atStage⟩
    · rename_i other
      obtain ⟨oldStage, atOldStage⟩ :=
        invariant.staged tested execution found
      refine ⟨oldStage, ?_⟩
      have entry :=
        replaces.inflightOthers execution.cell tested other
      have pending := replaces.pendingOthers tested other
      cases oldStage <;> simpa [AtStage, entry, pending] using atOldStage
  inflightKnown := by
    intro cell tested entry
    by_cases same : tested = id
    · refine ⟨after, by rw [replaces.executions, if_pos same], ?_⟩
      rw [replaces.sameCell]
      exact (replaces.inflightOwn cell (same ▸ entry)).symm
    · obtain ⟨execution, found, cellEq⟩ :=
        invariant.inflightKnown cell tested
          ((replaces.inflightOthers cell tested same).mp entry)
      exact ⟨execution,
        by rw [replaces.executions, if_neg same, found], cellEq⟩
  pendingKnown := by
    intro tested pending
    by_cases same : tested = id
    · exact ⟨after, by rw [replaces.executions, if_pos same]⟩
    · obtain ⟨execution, found⟩ :=
        invariant.pendingKnown tested
          ((replaces.pendingOthers tested same).mp pending)
      exact ⟨execution, by rw [replaces.executions, if_neg same, found]⟩
  pendingOnce := replaces.pendingOnce
  oneOpen := by
    -- An execution of `next` is open only where its record in `state` is.
    have older : ∀ (tested : ExecutionId) (execution : Execution),
        next.executions[tested]? = some execution →
        execution.ended = false →
        ∃ old : Execution, state.executions[tested]? = some old ∧
          old.cell = execution.cell ∧ old.ended = false := by
      intro tested execution found notEnded
      rw [replaces.executions] at found
      split at found
      · rename_i same
        cases found
        exact ⟨before, same ▸ replaces.found, replaces.sameCell.symm,
          replaces.opens notEnded⟩
      · exact ⟨execution, found, rfl, notEnded⟩
    intro first second firstExecution secondExecution firstFound secondFound
      sameCell firstOpen secondOpen
    obtain ⟨firstOld, firstOldFound, firstCell, firstOldOpen⟩ :=
      older first firstExecution firstFound firstOpen
    obtain ⟨secondOld, secondOldFound, secondCell, secondOldOpen⟩ :=
      older second secondExecution secondFound secondOpen
    exact invariant.oneOpen first second firstOld secondOld firstOldFound
      secondOldFound (by rw [firstCell, secondCell, sameCell])
      firstOldOpen secondOldOpen

/-! ### Calls on an execution -/

theorem endsLast_append
    {operations : List Operation} {operation : Operation}
    (notEnded : operations.any Operation.isEnd = false) :
    EndsLast (operations ++ [operation]) := by
  intro before success after split
  by_contra more
  obtain ⟨init, last, rfl⟩ := List.eq_nil_or_concat after |>.resolve_left more
  have prefixEq : operations = before ++ .endExecution success :: init := by
    rw [List.concat_eq_append, ← List.cons_append, ← List.append_assoc] at split
    exact (List.append_inj' split rfl).1
  rw [prefixEq, List.any_append, List.any_cons] at notEnded
  simp [Operation.isEnd] at notEnded

theorem not_endsLast_append
    {operations more : List Operation} {operation : Operation}
    (ended : operations.any Operation.isEnd = true) :
    ¬ EndsLast (operations ++ operation :: more) := by
  obtain ⟨ending, member, isEnd⟩ := List.any_eq_true.mp ended
  obtain ⟨before, after, split⟩ := List.append_of_mem member
  cases ending with
  | endExecution success =>
      intro endsLast
      have nothing := endsLast before success (after ++ operation :: more)
        (by rw [split]; simp)
      simp at nothing
  | start => cases isEnd
  | clearOutput => cases isEnd
  | appendOutput payload => cases isEnd

/-! ### The events -/

private theorem eraseIdx_split
    {Item : Type*} {items : List Item} {position : Nat} {item : Item}
    (found : items[position]? = some item) :
    ∃ before after, items = before ++ item :: after ∧
      items.eraseIdx position = before ++ after := by
  obtain ⟨small, atPosition⟩ := List.getElem?_eq_some_iff.mp found
  refine ⟨items.take position, items.drop (position + 1), ?_,
    List.eraseIdx_eq_take_drop_succ items position⟩
  rw [← atPosition, List.getElem_cons_drop, List.take_append_drop]

/-- An item of a list with an item added at its end is an old one or that
item. -/
theorem getElem?_concat_cases {Item : Type} {items : List Item}
    {last item : Item} {index : Nat}
    (found : (items ++ [last])[index]? = some item) :
    items[index]? = some item ∨ index = items.length ∧ item = last := by
  rcases Nat.lt_or_ge index items.length with small | large
  · rw [List.getElem?_append_left small] at found
    exact Or.inl found
  · rw [List.getElem?_append_right large, List.getElem?_singleton] at found
    split at found
    case isTrue zero =>
      cases found
      exact Or.inr
        ⟨Nat.le_antisymm (Nat.le_of_sub_eq_zero zero) large, rfl⟩
    case isFalse =>
      cases found

namespace Invariant

variable {state : State}

theorem run
    (invariant : Invariant state) {cell : JsString}
    (isOver : ∀ execution ∈ state.executions,
      execution.cell = cell → execution.ended = true) :
    Invariant { state with
      executions := state.executions ++
        [{ cell := cell
           phase := .clearing
           operations := [.start, .clearOutput] }] } := by
  set created : Execution :=
    { cell := cell, phase := .clearing, operations := [.start, .clearOutput] }
  have old : ∀ (id : ExecutionId) (execution : Execution),
      state.executions[id]? = some execution →
      (state.executions ++ [created])[id]? = some execution := by
    intro id execution found
    have small := (List.getElem?_eq_some_iff.mp found).1
    rw [List.getElem?_append_left small, found]
  have fresh : ∀ execution : Execution,
      state.executions[state.executions.length]? ≠ some execution := by
    simp
  refine
    { endsLast := ?_
      staged := ?_
      inflightKnown := ?_
      pendingKnown := ?_
      pendingOnce := invariant.pendingOnce
      oneOpen := ?_ }
  · intro id execution found
    rcases getElem?_concat_cases found with found | ⟨-, rfl⟩
    · exact invariant.endsLast id execution found
    · have started : [Operation.start].any Operation.isEnd = false := rfl
      exact endsLast_append started
  · intro id execution found
    rcases getElem?_concat_cases found with found | ⟨rfl, rfl⟩
    · exact invariant.staged id execution found
    · refine ⟨.clearing, rfl, rfl, ?_, ?_⟩
      · intro pending
        obtain ⟨execution, found⟩ := invariant.pendingKnown _ pending
        exact fresh execution found
      · intro entry
        obtain ⟨execution, found, _⟩ := invariant.inflightKnown _ _ entry
        exact fresh execution found
  · intro tested id entry
    obtain ⟨execution, found, cellEq⟩ :=
      invariant.inflightKnown tested id entry
    exact ⟨execution, old id execution found, cellEq⟩
  · intro id pending
    obtain ⟨execution, found⟩ := invariant.pendingKnown id pending
    exact ⟨execution, old id execution found⟩
  · intro first second firstExecution secondExecution firstFound secondFound
      sameCell firstOpen secondOpen
    rcases getElem?_concat_cases firstFound with
      firstFound | ⟨rfl, rfl⟩ <;>
    rcases getElem?_concat_cases secondFound with
      secondFound | ⟨rfl, rfl⟩
    · exact invariant.oneOpen first second firstExecution secondExecution
        firstFound secondFound sameCell firstOpen secondOpen
    · rw [isOver firstExecution (List.mem_of_getElem? firstFound) sameCell]
        at firstOpen
      cases firstOpen
    · rw [isOver secondExecution (List.mem_of_getElem? secondFound)
        sameCell.symm] at secondOpen
      cases secondOpen
    · rfl

theorem cleared
    (invariant : Invariant state) {id : ExecutionId} {execution : Execution}
    (found : state.executions[id]? = some execution)
    (clearing : execution.phase = .clearing) :
    Invariant { state.setPhase id .executing with
      inflight := state.inflight.set execution.cell id } := by
  obtain ⟨stage, atStage⟩ := invariant.staged id execution found
  have waiting : AtStage state id execution .clearing := by
    cases stage with
    | clearing => exact atStage
    | inflight => simp [AtStage, clearing] at atStage
    | closing => exact absurd clearing atStage.1
    | ended => exact absurd clearing atStage.1
  have free : state.inflight.get execution.cell = none :=
    (invariant.entry_of_open found waiting.2.1).resolve_right
      waiting.2.2.2
  refine Replaces.invariant id execution
    { execution with phase := .executing } .inflight
    { found := found
      executions := State.update_executions _ _ _ found
      sameCell := rfl
      opens := fun notEnded => notEnded
      inflightOthers := ?_
      inflightOwn := ?_
      pendingOthers := fun _ _ => Iff.rfl
      pendingOnce := invariant.pendingOnce }
    invariant (invariant.endsLast id execution found) ?_
  · intro cell other different
    simp only [OrderedMap.get_set]
    split
    · rename_i same
      simp [same, free, Ne.symm different]
    · exact Iff.rfl
  · intro cell entry
    simp only [OrderedMap.get_set] at entry
    split at entry
    · assumption
    · exact invariant.entry_cell found entry
  · refine ⟨rfl, waiting.2.1, waiting.2.2.1, ?_⟩
    simp

theorem append
    (invariant : Invariant state) {id : ExecutionId} {execution : Execution}
    (found : state.executions[id]? = some execution)
    (inflight : AtStage state id execution .inflight) (payload : Json) :
    Invariant (state.call id (.appendOutput payload)) := by
  have stillOpen :
      (execution.operations ++ [Operation.appendOutput payload]).any
        Operation.isEnd = false := by
    have notEnded : execution.operations.any Operation.isEnd = false :=
      inflight.2.1
    simp [List.any_append, notEnded, Operation.isEnd]
  refine Replaces.invariant id execution
    { execution with
      operations := execution.operations ++ [.appendOutput payload] }
    .inflight
    { found := found
      executions := State.update_executions _ _ _ found
      sameCell := rfl
      opens := fun _ => inflight.2.1
      inflightOthers := fun _ _ _ => Iff.rfl
      inflightOwn := fun cell => invariant.entry_cell found
      pendingOthers := fun _ _ => Iff.rfl
      pendingOnce := invariant.pendingOnce }
    invariant (endsLast_append inflight.2.1)
    ⟨inflight.1, stillOpen, inflight.2.2.1, inflight.2.2.2⟩

theorem complete
    (invariant : Invariant state) {id : ExecutionId} {execution : Execution}
    (found : state.executions[id]? = some execution)
    (inflight : AtStage state id execution .inflight)
    (payload : Json) (pending : PendingEnd) (own : pending.execution = id) :
    Invariant { state.call id (.appendOutput payload) with
      inflight := state.inflight.deleteValue id
      pendingEnds := state.pendingEnds ++ [pending] } := by
  have deleted :
      state.inflight.deleteValue id = state.inflight.delete execution.cell :=
    OrderedMap.deleteValue_eq_delete inflight.2.2.2
      fun other entry => invariant.entry_cell found entry
  have stillOpen :
      (execution.operations ++ [Operation.appendOutput payload]).any
        Operation.isEnd = false := by
    have notEnded : execution.operations.any Operation.isEnd = false :=
      inflight.2.1
    simp [List.any_append, notEnded, Operation.isEnd]
  have pendingIds :
      (state.pendingEnds ++ [pending]).map PendingEnd.execution =
        state.pendingIds ++ [id] := by
    simp [State.pendingIds, own]
  rw [deleted]
  refine Replaces.invariant id execution
    { execution with
      operations := execution.operations ++ [.appendOutput payload] }
    .closing
    { found := found
      executions := State.update_executions _ _ _ found
      sameCell := rfl
      opens := fun _ => inflight.2.1
      inflightOthers := ?_
      inflightOwn := ?_
      pendingOthers := ?_
      pendingOnce := ?_ }
    invariant (endsLast_append inflight.2.1)
    ⟨by simp [inflight.1], stillOpen, ?_, by simp⟩
  · intro cell other different
    simp only [OrderedMap.get_delete]
    split
    · rename_i same
      simp [same, inflight.2.2.2, Ne.symm different]
    · exact Iff.rfl
  · intro cell entry
    simp only [OrderedMap.get_delete] at entry
    split at entry
    · cases entry
    · exact invariant.entry_cell found entry
  · intro other different
    simp [State.pendingIds, own, different]
  · simp only [State.pendingIds, pendingIds]
    exact List.nodup_append.mpr
      ⟨invariant.pendingOnce, List.nodup_singleton id,
        fun tested member last lastEq same =>
          inflight.2.2.1 (List.mem_singleton.mp lastEq ▸ same ▸ member)⟩
  · simp [State.pendingIds, own]

/-- The tail of `onRunComplete` ends an execution that is still open. -/
theorem commit
    (invariant : Invariant state) {position : Nat} {pending : PendingEnd}
    (found : state.pendingEnds[position]? = some pending)
    (endThrows : Bool) :
    Invariant ({ state with
      pendingEnds := state.pendingEnds.eraseIdx position }.commitEnd
        endThrows pending) := by
  obtain ⟨before, after, whole, erased⟩ := eraseIdx_split found
  have pendingIds : state.pendingIds =
      before.map PendingEnd.execution ++
        pending.execution :: after.map PendingEnd.execution := by
    simp [State.pendingIds, whole]
  have once := invariant.pendingOnce
  rw [pendingIds, List.nodup_middle, List.nodup_cons] at once
  have isPending : pending.execution ∈ state.pendingIds := by
    simp [pendingIds]
  obtain ⟨execution, executionFound⟩ :=
    invariant.pendingKnown pending.execution isPending
  have closing : AtStage state pending.execution execution .closing := by
    obtain ⟨stage, atStage⟩ := invariant.staged _ execution executionFound
    cases stage with
    | closing => exact atStage
    | clearing => exact absurd isPending atStage.2.2.1
    | inflight => exact absurd isPending atStage.2.2.1
    | ended => exact absurd isPending atStage.2.2.1
  have notEnded : execution.operations.any Operation.isEnd = false :=
    closing.2.1
  set ended : Execution := { execution with
    operations := execution.operations ++
      [.endExecution pending.success] }
  -- The in-flight map is untouched, whatever becomes of the correlation.
  have unaffected : ∀ next : State,
      next.executions = (state.call pending.execution
        (.endExecution pending.success)).executions →
      next.inflight = state.inflight →
      next.pendingEnds = before ++ after →
      Invariant next := by
    intro next executions inflight pendingEnds
    have nextPending : next.pendingIds =
        before.map PendingEnd.execution ++
          after.map PendingEnd.execution := by
      simp [State.pendingIds, pendingEnds]
    refine Replaces.invariant pending.execution execution ended .ended
      { found := executionFound
        executions := ?_
        sameCell := rfl
        opens := fun _ => closing.2.1
        inflightOthers := by simp [inflight]
        inflightOwn := ?_
        pendingOthers := ?_
        pendingOnce := by rw [nextPending]; exact once.2 }
      invariant (endsLast_append notEnded)
      ⟨closing.1, ?_, by rw [nextPending]; exact once.1, ?_⟩
    · rw [executions]
      exact State.update_executions _ _ _ executionFound
    · intro cell entry
      rw [inflight] at entry
      exact invariant.entry_cell executionFound entry
    · intro other different
      simp [nextPending, pendingIds, different]
    · simp [ended, Execution.ended, Operation.isEnd]
    · rw [inflight]
      exact closing.2.2.2
  have notThrown :
      (endThrows && (state.executions[pending.execution]?).any
        Execution.ended) = false := by
    simp [executionFound, closing.2.1]
  simp only [State.commitEnd, State.endExecution, notThrown, erased]
  cases pending.spanId with
  | none => exact unaffected _ rfl rfl rfl
  | some spanId => exact unaffected _ rfl rfl rfl

theorem settle_without_entry
    (invariant : Invariant state) {id : ExecutionId} {execution : Execution}
    (found : state.executions[id]? = some execution)
    (executing : execution.phase = .executing)
    (noEntry : state.inflight.get execution.cell = none) :
    Invariant (state.setPhase id .settled) := by
  have later : ∃ stage,
      AtStage state id { execution with phase := .settled } stage := by
    obtain ⟨stage, atStage⟩ := invariant.staged id execution found
    cases stage with
    | clearing => simp [AtStage, executing] at atStage
    | inflight => simp [AtStage, noEntry] at atStage
    | closing =>
        refine ⟨.closing, ?_⟩
        simpa [AtStage, executing, Execution.ended] using atStage
    | ended =>
        refine ⟨.ended, ?_⟩
        simpa [AtStage, executing, Execution.ended] using atStage
  obtain ⟨stage, atStage⟩ := later
  exact Replaces.invariant id execution
    { execution with phase := .settled } stage
    { found := found
      executions := State.update_executions _ _ _ found
      sameCell := rfl
      opens := fun notEnded => notEnded
      inflightOthers := fun _ _ _ => Iff.rfl
      inflightOwn := fun _ => invariant.entry_cell found
      pendingOthers := fun _ _ => Iff.rfl
      pendingOnce := invariant.pendingOnce }
    invariant (invariant.endsLast id execution found) atStage

/-- A settlement that finds its own entry ends the execution and deletes the
entry. -/
theorem settle_own_entry
    (invariant : Invariant state) {id : ExecutionId} {execution : Execution}
    (found : state.executions[id]? = some execution)
    (entry : state.inflight.get execution.cell = some id) :
    Invariant
      { (state.setPhase id .settled).call id (.endExecution false) with
        inflight := state.inflight.delete execution.cell } := by
  obtain ⟨known, knownFound, _, inflight⟩ := invariant.stage_of_entry entry
  rw [found] at knownFound
  cases knownFound
  have settled : (state.setPhase id .settled).executions[id]? =
      some { execution with phase := .settled } := by
    rw [State.setPhase, State.update_executions _ _ _ found, if_pos rfl]
  refine Replaces.invariant id execution
    { execution with
      phase := .settled
      operations := execution.operations ++ [.endExecution false] }
    .ended
    { found := found
      executions := ?_
      sameCell := rfl
      opens := fun _ => inflight.2.1
      inflightOthers := ?_
      inflightOwn := ?_
      pendingOthers := fun _ _ => Iff.rfl
      pendingOnce := invariant.pendingOnce }
    invariant (endsLast_append inflight.2.1)
    ⟨by simp, by simp [Execution.ended, Operation.isEnd], inflight.2.2.1,
      by simp⟩
  · intro tested
    simp only [State.call]
    rw [State.update_executions _ _ _ settled]
    split
    · rfl
    · rename_i different
      rw [State.setPhase, State.update_executions _ _ _ found,
        if_neg different]
  · intro cell other different
    simp only [OrderedMap.get_delete]
    split
    · rename_i same
      simp [same, entry, Ne.symm different]
    · exact Iff.rfl
  · intro cell stillEntry
    simp only [OrderedMap.get_delete] at stillEntry
    split at stillEntry
    · cases stillEntry
    · exact invariant.entry_cell found stillEntry

/-- A settlement that finds the entry of its own run, or none. -/
theorem settle
    (invariant : Invariant state) {id : ExecutionId} {execution : Execution}
    (found : state.executions[id]? = some execution)
    (executing : execution.phase = .executing)
    (own : state.inflight.get execution.cell = none ∨
      state.inflight.get execution.cell = some id)
    (endThrows rejected : Bool) :
    Invariant ((state.setPhase id .settled).settle endThrows id
      execution.cell rejected) := by
  rcases own with noEntry | entry
  · have absent : (state.setPhase id .settled).inflight.has
        execution.cell = false :=
      (OrderedMap.has_eq_false _ _).mpr noEntry
    have unchanged : (state.setPhase id .settled).settle endThrows id
        execution.cell rejected = state.setPhase id .settled := by
      cases rejected <;> simp [State.settle, State.endIfInflight, absent]
    rw [unchanged]
    exact invariant.settle_without_entry found executing noEntry
  · obtain ⟨known, knownFound, _, inflight⟩ := invariant.stage_of_entry entry
    rw [found] at knownFound
    cases knownFound
    have stillOpen : ((state.setPhase id .settled).executions[id]?).any
        Execution.ended = false := by
      rw [State.setPhase, State.update_executions _ _ _ found, if_pos rfl]
      exact inflight.2.1
    have guarded := State.endIfInflight_of_open endThrows stillOpen
      ((OrderedMap.has_iff _ execution.cell).mpr ⟨id, entry⟩)
    have ended : (state.setPhase id .settled).settle endThrows id
        execution.cell rejected =
        { (state.setPhase id .settled).call id (.endExecution false) with
          inflight := state.inflight.delete execution.cell } := by
      cases rejected
      · simp only [State.settle, guarded, Bool.false_eq_true, if_false]
        rfl
      · simp only [State.settle, guarded, if_true]
        rfl
    rw [ended]
    exact invariant.settle_own_entry found entry

theorem payload
    (invariant : Invariant state) (payload : Json) :
    Invariant (state.routeRunMime payload) := by
  have updated : Invariant (state.onRunUpdate payload) := by
    unfold State.onRunUpdate
    split
    · exact invariant
    · rename_i id attributed
      obtain ⟨cell, entry⟩ := State.findExecForCorrelation_inflight attributed
      obtain ⟨execution, found, _, inflight⟩ := invariant.stage_of_entry entry
      exact invariant.append found inflight payload
  have completed : Invariant (state.onRunComplete payload) := by
    unfold State.onRunComplete
    split
    · exact invariant
    · rename_i id attributed
      obtain ⟨cell, entry⟩ := State.findExecForCorrelation_inflight attributed
      obtain ⟨execution, found, _, inflight⟩ := invariant.stage_of_entry entry
      exact invariant.complete found inflight payload _ rfl
  unfold State.routeRunMime
  split
  · exact invariant
  · exact invariant
  · exact updated
  · exact updated
  · exact completed

end Invariant

/-- An event whose settlement, if it is one, finds its own entry or none keeps
the invariant. -/
theorem step_invariant
    {endThrows : Bool} {state next : State} {event : Event}
    (invariant : Invariant state)
    (stepped : step endThrows state event = some next)
    (own : SettlesOwnEntry state event) :
    Invariant next := by
  cases stepped_of_step stepped with
  | run isOver => exact invariant.run isOver
  | cleared found clearing => exact invariant.cleared found clearing
  | bindCorrelation spanId cell =>
      exact ⟨invariant.endsLast, invariant.staged, invariant.inflightKnown,
        invariant.pendingKnown, invariant.pendingOnce, invariant.oneOpen⟩
  | payload payload => exact invariant.payload payload
  | appendCommitted found => exact invariant.commit found endThrows
  | settled rejected found executing =>
      exact invariant.settle found executing (own _ found) endThrows rejected

/-- A settlement that finds the entry of another run ends an execution that
had ended before. -/
theorem step_breaks
    {endThrows : Bool} {state next : State} {event : Event}
    (invariant : Invariant state)
    (stepped : step endThrows state event = some next)
    (foreign : ¬ SettlesOwnEntry state event) :
    ¬ Lifecycle next := by
  cases stepped_of_step stepped with
  | settled rejected found executing =>
      rename_i id execution
      simp only [SettlesOwnEntry, not_forall, not_or] at foreign
      obtain ⟨other, otherFound, notFree, notOwn⟩ := foreign
      cases found.symm.trans otherFound
      have ended : execution.ended = true := by
        by_contra stillOpen
        rcases invariant.entry_of_open found
          (by simpa using stillOpen) with free | own
        · exact notFree free
        · exact notOwn own
      intro lifecycle
      have settled : (state.setPhase id .settled).executions[id]? =
          some { execution with phase := .settled } := by
        rw [State.setPhase, State.update_executions _ _ _ found, if_pos rfl]
      obtain ⟨after, more, foundAfter, operations⟩ :=
        State.settle_of_ended endThrows rejected settled ended
          ((OrderedMap.has_iff _ _).mpr (Option.ne_none_iff_exists'.mp notFree))
      have endsLast := lifecycle.endsLast id after foundAfter
      rw [operations] at endsLast
      exact not_endsLast_append ended endsLast
  | run isOver => exact absurd trivial foreign
  | cleared found clearing => exact absurd trivial foreign
  | bindCorrelation spanId cell => exact absurd trivial foreign
  | payload payload => exact absurd trivial foreign
  | appendCommitted found => exact absurd trivial foreign

/-- The lifecycle holds on the whole run exactly when every settlement of an
`executeCell` finds its own in-flight entry, or none, for its cell. -/
theorem lifecycle_iff_settlesOwnEntry
    (endThrows : Bool) (events : List Event) :
    (system endThrows).Always Lifecycle State.initial events ↔
      (system endThrows).StepsMeet SettlesOwnEntry State.initial events :=
  System.always_iff_stepsMeet (I := Invariant)
    (fun _ _ _ invariant _ stepped own =>
      have kept := step_invariant invariant stepped own
      ⟨kept, kept.lifecycle⟩)
    (fun _ _ _ invariant _ stepped foreign =>
      step_breaks invariant stepped foreign)
    events Invariant.initial Invariant.initial.lifecycle

/-- A cell is run, its run ends by a terminal payload, the cell is run again,
and only then does the first `executeCell` settle. -/
def lateSettlement : List Event :=
  [.run (js "cell"), .cleared 0,
    .payload (.object
      [(js "spanId", .string (js "s1")),
        (js "endTimeUnixNano", .string (js "2"))]),
    .appendCommitted 0,
    .run (js "cell"), .cleared 1, .settled 0 false]

/-- The first execution is ended twice, whatever the editor does on the second
call. -/
theorem lateSettlement_breaks_lifecycle :
    ¬ (system false).Always Lifecycle State.initial lateSettlement ∧
      ¬ (system true).Always Lifecycle State.initial lateSettlement := by
  constructor <;> intro always
  · have lifecycle := always.last rfl
    have last := lifecycle.endsLast 0 _ rfl
      [.start, .clearOutput, .appendOutput _] false [.endExecution false] rfl
    cases last
  · have lifecycle := always.last rfl
    have last := lifecycle.endsLast 0 _ rfl
      [.start, .clearOutput, .appendOutput _] false
      [.endExecution false, .endExecution false] rfl
    cases last

end RtsNotebook.Notebook.Controller
