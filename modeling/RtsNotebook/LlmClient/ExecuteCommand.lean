import RtsNotebook.LlmClient.FailedEnvelopes
import RtsNotebook.LlmClient.RunNotebook

/-!
# What `llmnb execute` leaves behind

However the command ends, the connection that it has opened is closed once,
and the notebook is written exactly where the exit status says so: with 0 or
1, after the guard has let it pass.
-/

namespace RtsNotebook.LlmClient.Execute

open RtsNotebook.Python RtsNotebook.Library

/-- The connection is opened or closed. -/
def Effect.isConnection : Effect → Bool
  | .opened => true
  | .closed => true
  | _ => false

/-- The notebook is written. -/
def Effect.isWrite : Effect → Bool
  | .wrote _ _ => true
  | _ => false

/-- An executor runs, or it writes what it has recorded. -/
def Effect.isWork : Effect → Bool
  | .ran _ => true
  | .recorded _ _ => true
  | _ => false

theorem Effect.notConnection_of_work {effect : Effect}
    (isWork : effect.isWork = true) : effect.isConnection = false := by
  cases effect <;> first | rfl | cases isWork

theorem Effect.notWrite_of_work {effect : Effect}
    (isWork : effect.isWork = true) : effect.isWrite = false := by
  cases effect <;> first | rfl | cases isWork

/-- The computation runs executors and writes recordings only. -/
abbrev Works {Value : Type} (traced : Traced Effect Raised Value) : Prop :=
  traced.Leaves fun effect => effect.isWork = true

section

variable {World Value : Type} {host : Host World} {arguments : Arguments}
  {notebook : List (PyString × PyJson)}
  {connection : Option (Connection World × World)}

theorem connections_of_works {traced : Traced Effect Raised Value}
    (works : Works traced) :
    traced.effects.filter Effect.isConnection = [] :=
  Traced.Leaves.filter_eq_nil fun effect member =>
    Effect.notConnection_of_work (works effect member)

theorem writes_of_works {traced : Traced Effect Raised Value}
    (works : Works traced) : traced.effects.filter Effect.isWrite = [] :=
  Traced.Leaves.filter_eq_nil fun effect member =>
    Effect.notWrite_of_work (works effect member)

/-! ### The executors -/

theorem recordLines_works (host : Host World) (arguments : Arguments)
    (lines : Option (List PyJson)) :
    Works (recordLines host arguments lines) := by
  unfold recordLines
  split
  · exact Traced.Leaves.bind (Traced.leaves_lift _)
      fun _ => Traced.leaves_emit rfl
  · exact Traced.leaves_lift _

theorem runLive_works (host : Host World) (arguments : Arguments)
    (connection : Connection World × World)
    (notebook : List (PyString × PyJson)) :
    Works (runLive host arguments connection notebook) :=
  Traced.Leaves.bind (Traced.leaves_emit rfl) fun _ =>
    Traced.Leaves.bind (Traced.leaves_lift _) fun _ =>
      Traced.Leaves.bind (recordLines_works host arguments _) fun _ =>
        Traced.leaves_lift _

theorem finishLive_works (host : Host World) (arguments : Arguments)
    (connection : Connection World × World)
    (notebook : List (PyString × PyJson)) (ending : LiveEnd World) :
    Works (finishLive host arguments connection notebook ending) := by
  refine Traced.Leaves.bind (recordLines_works host arguments _) fun _ => ?_
  cases ending.result with
  | none => exact Traced.leaves_lift _
  | some result => exact Traced.leaves_lift _

theorem runStub_works (host : Host World) (arguments : Arguments)
    (notebook : List (PyString × PyJson)) :
    Works (runStub host arguments notebook) :=
  Traced.Leaves.bind (Traced.leaves_emit rfl) fun _ =>
    Traced.Leaves.bind (Traced.leaves_lift _) fun _ =>
      Traced.Leaves.bind (recordLines_works host arguments _) fun _ =>
        Traced.leaves_lift _

theorem runReplay_works (host : Host World) (arguments : Arguments)
    (notebook : List (PyString × PyJson)) :
    Works (runReplay host arguments notebook) := by
  rw [runReplay]
  cases arguments.replay with
  | none => exact Traced.leaves_lift _
  | some path =>
      exact Traced.Leaves.bind (Traced.leaves_emit rfl) fun _ =>
        Traced.Leaves.bind (Traced.leaves_lift _) fun _ =>
          Traced.Leaves.bind (Traced.leaves_lift _) fun _ =>
            Traced.leaves_lift _

/-- A connection that is handed over stays as it is. -/
theorem runLiveWith_works (host : Host World) (arguments : Arguments)
    (connection : Connection World × World)
    (notebook : List (PyString × PyJson)) :
    Works (runLiveWith host arguments (some connection) notebook) :=
  Traced.Leaves.bind (runLive_works host arguments connection notebook)
    fun ending => finishLive_works host arguments connection notebook ending

/-- One that is not is opened and closed. -/
theorem runLiveWith_none (host : Host World) (arguments : Arguments)
    (notebook : List (PyString × PyJson)) :
    (runLiveWith host arguments none notebook).effects = [] ∨
      ∃ earlier later, (runLiveWith host arguments none notebook).effects =
          .opened :: earlier ++ .closed :: later ∧
        ∀ effect ∈ earlier ++ later, effect.isWork = true := by
  rw [runLiveWith, Traced.lift_bind]
  cases host.bootKernel with
  | error fault => exact Or.inl rfl
  | ok connection =>
      refine Or.inr ?_
      have earlierWork := runLive_works host arguments connection notebook
      dsimp only
      rcases Traced.bind_cases
          ((runLive host arguments connection notebook).ensure [.closed])
          (finishLive host arguments connection notebook) with
        ⟨fault, _, bound⟩ | ⟨ending, _, bound⟩
      · refine ⟨(runLive host arguments connection notebook).effects, [],
          ?_, ?_⟩
        · rw [bound]
          rfl
        · rw [List.append_nil]
          exact earlierWork
      · have laterWork := finishLive_works host arguments connection notebook
          ending
        refine ⟨(runLive host arguments connection notebook).effects,
          (finishLive host arguments connection notebook ending).effects,
          ?_, ?_⟩
        · rw [bound]
          show [Effect.opened] ++ (((runLive host arguments connection
            notebook).effects ++ [Effect.closed]) ++ _) = _
          simp
        · intro effect member
          rcases List.mem_append.mp member with early | late
          · exact earlierWork effect early
          · exact laterWork effect late

/-- What a run of an executor leaves. -/
inductive ModeRun (connection : Option (Connection World × World))
    (effects : List Effect) : Prop where
  | works (works : ∀ effect ∈ effects, effect.isWork = true)
  | opens (noConnection : connection = none) {earlier later : List Effect}
      (effects_eq : effects = .opened :: earlier ++ .closed :: later)
      (works : ∀ effect ∈ earlier ++ later, effect.isWork = true)

theorem runMode_run (host : Host World) (arguments : Arguments)
    (connection : Option (Connection World × World))
    (notebook : List (PyString × PyJson)) :
    ModeRun connection
      (runMode host arguments connection notebook).effects := by
  rw [runMode]
  cases arguments.mode with
  | stub => exact .works (runStub_works host arguments notebook)
  | replay => exact .works (runReplay_works host arguments notebook)
  | live =>
      cases connection with
      | some connection =>
          exact .works (runLiveWith_works host arguments connection notebook)
      | none =>
          rcases runLiveWith_none host arguments notebook with
            none | ⟨earlier, later, effects_eq, works⟩
          · refine .works fun effect member => ?_
            rw [none] at member
            cases member
          · exact .opens rfl effects_eq works

theorem ModeRun.writes {effects : List Effect}
    (run : ModeRun connection effects) :
    effects.filter Effect.isWrite = [] := by
  refine List.filter_eq_nil_iff.mpr fun effect member isWrite => ?_
  have notWork (isWork : effect.isWork = true) : False := by
    rw [Effect.notWrite_of_work isWork] at isWrite
    cases isWrite
  cases run with
  | works works => exact notWork (works effect member)
  | opens _ effects_eq works =>
      rw [effects_eq] at member
      simp only [List.cons_append, List.mem_cons, List.mem_append] at member
      rcases member with rfl | early | rfl | late
      · cases isWrite
      · exact notWork (works effect (List.mem_append_left _ early))
      · cases isWrite
      · exact notWork (works effect (List.mem_append_right _ late))

theorem ModeRun.connections {effects : List Effect}
    (run : ModeRun connection effects) :
    effects.filter Effect.isConnection = [] ∨
      connection = none ∧
        effects.filter Effect.isConnection = [.opened, .closed] := by
  have silent {part : List Effect}
      (works : ∀ effect ∈ part, effect.isWork = true) :
      part.filter Effect.isConnection = [] :=
    List.filter_eq_nil_iff.mpr fun effect member => by
      rw [Effect.notConnection_of_work (works effect member)]
      exact Bool.false_ne_true
  cases run with
  | works works => exact Or.inl (silent works)
  | opens noConnection effects_eq works =>
      refine Or.inr ⟨noConnection, ?_⟩
      rw [effects_eq, List.cons_append, List.filter_cons_of_pos rfl,
        List.filter_append,
        silent fun effect member => works effect
          (List.mem_append_left _ member),
        List.filter_cons_of_pos rfl,
        silent fun effect member => works effect
          (List.mem_append_right _ member)]
      rfl

/-! ### What the executors return -/

/-- What `run_notebook` reads of the outcomes. -/
structure Outcomes.Readable (outcomes : Outcomes) : Prop where
  failed : ∀ envelope ∈ outcomes.failed, HasPayload envelope
  rts : ∃ rts, notebookRts outcomes.notebook = .ok rts

theorem returns_mapError {Fault : Type} {call : Except Fault Value}
    {raisedBy : Fault → Raised} {condition : Value → Prop}
    (returns : ∀ value, call = .ok value → condition value) :
    (Traced.lift (call.mapError raisedBy) :
      Traced Effect Raised Value).Returns condition := by
  intro value returned
  cases call with
  | error fault => cases returned
  | ok found =>
      cases returned
      exact returns value rfl

theorem returns_pure {condition : Value → Prop} {value : Value}
    (holds : condition value) :
    (pure value : Traced Effect Raised Value).Returns condition := by
  intro found returned
  cases returned
  exact holds

/-- The end of a live run has a readable result, if it has one. -/
def EndsReadable (ending : LiveEnd World) : Prop :=
  ∀ result, ending.result = some result → result.Readable

theorem runLive_returns (host : Host World) (arguments : Arguments)
    (connection : Connection World × World)
    (notebook : List (PyString × PyJson)) :
    (runLive host arguments connection notebook).Returns EndsReadable := by
  refine (Traced.returns_all _).bind fun _ _ => ?_
  refine (returns_mapError fun ending ended result isResult =>
    ?_ : Traced.Returns EndsReadable _).bind fun ending readable => ?_
  · exact runLiveMode_readable
      (runLiveMode_of_endLiveMode ended isResult).1
  · exact (Traced.returns_all _).bind fun _ _ => returns_pure readable

theorem finishLive_returns {ending : LiveEnd World}
    (readable : EndsReadable ending) (host : Host World)
    (arguments : Arguments) (connection : Connection World × World)
    (notebook : List (PyString × PyJson)) :
    (finishLive host arguments connection notebook ending).Returns
      Outcomes.Readable := by
  refine (Traced.returns_all _).bind fun _ _ => ?_
  cases isResult : ending.result with
  | none =>
      intro outcomes returned
      cases returned
  | some result =>
      have isReadable := readable result isResult
      refine returns_pure ⟨fun envelope listed => ?_, isReadable.rts⟩
      obtain ⟨entry, entryListed, rfl⟩ := List.mem_map.mp listed
      exact isReadable.failed entry entryListed

theorem runLiveWith_returns (host : Host World) (arguments : Arguments)
    (connection : Option (Connection World × World))
    (notebook : List (PyString × PyJson)) :
    (runLiveWith host arguments connection notebook).Returns
      Outcomes.Readable := by
  cases connection with
  | some connection =>
      exact (runLive_returns host arguments connection notebook).bind
        fun ending readable =>
          finishLive_returns readable host arguments connection notebook
  | none =>
      refine (Traced.returns_all _).bind fun connection _ => ?_
      refine (Traced.returns_all _).bind fun _ _ => ?_
      have ensured : ((runLive host arguments connection notebook).ensure
          [.closed]).Returns EndsReadable :=
        runLive_returns host arguments connection notebook
      exact ensured.bind fun ending readable =>
        finishLive_returns readable host arguments connection notebook

theorem runMode_returns (host : Host World) (arguments : Arguments)
    (connection : Option (Connection World × World))
    (notebook : List (PyString × PyJson)) :
    (runMode host arguments connection notebook).Returns
      Outcomes.Readable := by
  rw [runMode]
  cases arguments.mode with
  | stub =>
      refine (Traced.returns_all _).bind fun _ _ => ?_
      refine (returns_mapError fun result ran => runStubMode_readable ran).bind
        fun result readable => ?_
      exact (Traced.returns_all _).bind fun _ _ =>
        returns_pure ⟨readable.failed, readable.rts⟩
  | live => exact runLiveWith_returns host arguments connection notebook
  | replay =>
      dsimp only
      rw [runReplay]
      cases arguments.replay with
      | none =>
          intro outcomes returned
          cases returned
      | some path =>
          refine (Traced.returns_all _).bind fun _ _ => ?_
          refine (Traced.returns_all _).bind fun entries _ => ?_
          refine (returns_mapError fun result ran =>
            runReplayMode_readable ran).bind fun result readable => ?_
          exact returns_pure ⟨readable.failed, readable.rts⟩

/-! ### `run_notebook` -/

/-- The notebook is loaded, and the guard lets it pass. -/
def Allowed (host : Host World) (arguments : Arguments) : Prop :=
  ∃ notebook cells, host.loadNotebook arguments.path = .ok notebook ∧
    guardedCells notebook = .ok cells ∧
    (arguments.unattended = true ∨ hasEscalate host.lower cells = false)

/-- Where the notebook is written. -/
def Arguments.target (arguments : Arguments) : PyString :=
  arguments.output.getD arguments.path

/-- What `run_notebook` leaves, and how it ends. -/
inductive NotebookRun (host : Host World) (arguments : Arguments)
    (connection : Option (Connection World × World)) :
    Traced Effect Raised ExecutionResult → Prop where
  | refused (fault : Raised) :
      NotebookRun host arguments connection ⟨[], .error fault⟩
  | stopped {effects : List Effect} (allowed : Allowed host arguments)
      (run : ModeRun connection effects) (fault : Raised) :
      NotebookRun host arguments connection ⟨effects, .error fault⟩
  | written {effects : List Effect} {result : ExecutionResult}
      (allowed : Allowed host arguments) (run : ModeRun connection effects)
      (notebook : List (PyString × PyJson))
      (counted : result.errors.length = result.cellsFailed) :
      NotebookRun host arguments connection
        ⟨effects ++ [.wrote arguments.target notebook], .ok result⟩

theorem mapM_errorRow {failed : List PyJson}
    (readable : ∀ envelope ∈ failed, HasPayload envelope) :
    ∃ rows, failed.mapM errorRow = .ok rows ∧
      rows.length = failed.length := by
  induction failed with
  | nil => exact ⟨[], rfl, rfl⟩
  | cons envelope rest inductionHypothesis =>
      obtain ⟨rows, mapped, sameLength⟩ := inductionHypothesis
        fun other member => readable other (List.mem_cons_of_mem _ member)
      obtain ⟨items, payload, rfl, isPayload⟩ :=
        readable envelope List.mem_cons_self
      obtain ⟨row, isRow⟩ : ∃ row, errorRow (.dict items) = .ok row := by
        rw [errorRow]
        refine ⟨_, (bind_of_ok rfl _).trans (bind_of_ok isPayload _)⟩
      refine ⟨row :: rows, ?_, by simp [sameLength]⟩
      rw [List.mapM_cons, bind_of_ok isRow, bind_of_ok mapped]
      rfl

/-- Past the guard. -/
theorem runAllowed_run {cells : List (PyString × PyJson)}
    (allowed : Allowed host arguments) :
    NotebookRun host arguments connection (do
      let outcomes ← runMode host arguments connection notebook
      writeBack host arguments.target outcomes.notebook
      let finalState ← attributeError (notebookRts outcomes.notebook)
      let errors ← attributeError (outcomes.failed.mapM errorRow)
      pure
        { notebookPath := arguments.target
          cellsExecuted := cells.length
          cellsSucceeded := outcomes.succeeded.length
          cellsFailed := outcomes.failed.length
          finalState := finalState
          errors := errors }) := by
  have run := runMode_run host arguments connection notebook
  rcases Traced.bind_cases (runMode host arguments connection notebook) _ with
    ⟨fault, _, bound⟩ | ⟨outcomes, returned, bound⟩
  · rw [bound]
    exact .stopped allowed run fault
  · rw [bound]
    have readable :=
      runMode_returns host arguments connection notebook outcomes returned
    cases wrote : host.writeNotebook arguments.target outcomes.notebook with
    | error fault =>
        have stopped : writeBack host arguments.target outcomes.notebook =
            ⟨[], .error fault⟩ := by
          rw [writeBack, wrote]
          rfl
        rw [stopped]
        show NotebookRun host arguments connection ⟨_ ++ [], .error fault⟩
        rw [List.append_nil]
        exact .stopped allowed run fault
    | ok done =>
        have written : writeBack host arguments.target outcomes.notebook =
            ⟨[.wrote arguments.target outcomes.notebook], .ok ()⟩ := by
          rw [writeBack, wrote]
          rfl
        obtain ⟨rts, isRts⟩ := readable.rts
        obtain ⟨rows, areRows, sameLength⟩ := mapM_errorRow readable.failed
        rw [written, isRts, areRows]
        exact .written allowed run outcomes.notebook sameLength

theorem runNotebook_run (host : Host World) (arguments : Arguments)
    (connection : Option (Connection World × World)) :
    NotebookRun host arguments connection
      (runNotebook host arguments connection) := by
  rw [runNotebook, Traced.lift_bind]
  cases loaded : host.loadNotebook arguments.path with
  | error fault => exact .refused fault
  | ok notebook =>
      dsimp only
      rw [attributeError, Traced.lift_bind]
      cases guarded : guardedCells notebook with
      | error stop => exact .refused .other
      | ok cells =>
          dsimp only [Except.mapError]
          split
          · exact .refused .escalationRequiresOperator
          · rename_i passed
            refine runAllowed_run ⟨notebook, cells, loaded, guarded, ?_⟩
            cases attended : arguments.unattended with
            | true => exact Or.inl rfl
            | false =>
                refine Or.inr (Bool.eq_false_of_not_eq_true fun found => ?_)
                exact passed (by rw [attended, found]; rfl)

theorem NotebookRun.connections
    {traced : Traced Effect Raised ExecutionResult}
    (run : NotebookRun host arguments connection traced) :
    traced.effects.filter Effect.isConnection = [] ∨
      connection = none ∧
        traced.effects.filter Effect.isConnection = [.opened, .closed] := by
  cases run with
  | refused => exact Or.inl rfl
  | stopped _ run => exact run.connections
  | written _ run notebook =>
      have silent : [Effect.wrote arguments.target notebook].filter
          Effect.isConnection = [] := rfl
      rw [List.filter_append, silent, List.append_nil]
      exact run.connections

/-- The notebook is written where `run_notebook` returns. -/
theorem NotebookRun.writes
    {traced : Traced Effect Raised ExecutionResult}
    (run : NotebookRun host arguments connection traced) :
    (∃ fault, traced.outcome = .error fault ∧
      traced.effects.filter Effect.isWrite = []) ∨
    ∃ notebook result, traced.outcome = .ok result ∧
      result.errors.length = result.cellsFailed ∧
      traced.effects.filter Effect.isWrite =
        [.wrote arguments.target notebook] := by
  cases run with
  | refused fault => exact Or.inl ⟨fault, rfl, rfl⟩
  | stopped _ run fault => exact Or.inl ⟨fault, rfl, run.writes⟩
  | written _ run notebook counted =>
      refine Or.inr ⟨notebook, _, rfl, counted, ?_⟩
      rw [List.filter_append, run.writes]
      rfl

theorem NotebookRun.allowed
    {traced : Traced Effect Raised ExecutionResult}
    (run : NotebookRun host arguments connection traced)
    (touched : traced.effects ≠ []) : Allowed host arguments := by
  cases run with
  | refused => exact absurd rfl touched
  | stopped allowed => exact allowed
  | written allowed => exact allowed

/-! ### The command -/

theorem statusOf_ne_zero (fault : Raised) : statusOf fault ≠ .ok 0 := by
  cases fault <;> exact fun same => nomatch same

theorem statusOf_ne_one (fault : Raised) : statusOf fault ≠ .ok 1 := by
  cases fault <;> exact fun same => nomatch same

/-- A command that ends before the notebook is loaded, or after a run of it:
with a connection that it has opened, or without. -/
inductive CommandRun (host : Host World) (arguments : Arguments) :
    CommandEnd → Prop where
  | refused {status : Except Raised Nat} (notZero : status ≠ .ok 0)
      (notOne : status ≠ .ok 1) :
      CommandRun host arguments
        { effects := [], result := none, status := status }
  | alone {traced : Traced Effect Raised ExecutionResult}
      (run : NotebookRun host arguments none traced) :
      CommandRun host arguments (report traced)
  | connected {connection : Connection World × World}
      {traced : Traced Effect Raised ExecutionResult}
      (run : NotebookRun host arguments (some connection) traced) :
      CommandRun host arguments
        (report
          ⟨.opened :: (traced.effects ++ [.closed]), traced.outcome⟩)

theorem execute_run (host : Host World) (arguments : Arguments) :
    CommandRun host arguments (execute host arguments) := by
  rw [execute]
  split
  · exact .alone (runNotebook_run host arguments none)
  · split
    · exact .refused (fun same => nomatch same) fun same => nomatch same
    · split
      · exact .refused (fun same => nomatch same) fun same => nomatch same
      · exact .refused (fun same => nomatch same) fun same => nomatch same
      · rename_i connection _
        exact .connected (runNotebook_run host arguments (some connection))

@[simp]
theorem report_effects (traced : Traced Effect Raised ExecutionResult) :
    (report traced).effects = traced.effects := by
  rw [report]
  cases traced.outcome <;> rfl

theorem CommandRun.connections {command : CommandEnd}
    (run : CommandRun host arguments command) :
    command.effects.filter Effect.isConnection = [] ∨
      command.effects.filter Effect.isConnection = [.opened, .closed] := by
  cases run with
  | refused => exact Or.inl rfl
  | alone run =>
      rw [report_effects]
      exact run.connections.imp id And.right
  | connected run =>
      rcases run.connections with silent | ⟨noConnection, _⟩
      · refine Or.inr ?_
        rw [report_effects, List.filter_cons_of_pos rfl, List.filter_append,
          silent]
        rfl
      · cases noConnection

/-- The exit status of a run of the notebook. -/
theorem report_status {traced : Traced Effect Raised ExecutionResult}
    {result : ExecutionResult} (returned : traced.outcome = .ok result)
    (counted : result.errors.length = result.cellsFailed) :
    (report traced).result = some result ∧
      (report traced).status =
        .ok (if result.cellsFailed = 0 then 0 else 1) := by
  rw [report, returned]
  refine ⟨rfl, ?_⟩
  rw [← counted]
  dsimp only
  cases result.errors with
  | nil => rfl
  | cons row rest => rfl

theorem report_fault {traced : Traced Effect Raised ExecutionResult}
    {fault : Raised} (raised : traced.outcome = .error fault) :
    (report traced).status ≠ .ok 0 ∧ (report traced).status ≠ .ok 1 := by
  rw [report, raised]
  exact ⟨statusOf_ne_zero fault, statusOf_ne_one fault⟩

/-- The notebook is written once, and the exit status counts the failures; or
it is not written, and the exit status is another one. -/
def CommandEnd.WritesByStatus (command : CommandEnd) (target : PyString) :
    Prop :=
  (command.effects.filter Effect.isWrite = [] ∧
      command.status ≠ .ok 0 ∧ command.status ≠ .ok 1) ∨
    ∃ notebook result,
      command.effects.filter Effect.isWrite = [.wrote target notebook] ∧
      command.result = some result ∧
      command.status = .ok (if result.cellsFailed = 0 then 0 else 1)

theorem NotebookRun.reports
    {traced outer : Traced Effect Raised ExecutionResult}
    (run : NotebookRun host arguments connection traced)
    (sameOutcome : outer.outcome = traced.outcome)
    (sameWrites : outer.effects.filter Effect.isWrite =
      traced.effects.filter Effect.isWrite) :
    (report outer).WritesByStatus arguments.target := by
  rcases run.writes with ⟨fault, raised, silent⟩ |
      ⟨notebook, result, returned, counted, written⟩
  · refine Or.inl ⟨?_, report_fault (sameOutcome.trans raised)⟩
    rw [report_effects, sameWrites, silent]
  · refine Or.inr ⟨notebook, result, ?_,
      report_status (sameOutcome.trans returned) counted⟩
    rw [report_effects, sameWrites, written]

theorem CommandRun.writes {command : CommandEnd}
    (run : CommandRun host arguments command) :
    command.WritesByStatus arguments.target := by
  cases run with
  | refused notZero notOne => exact Or.inl ⟨rfl, notZero, notOne⟩
  | alone run => exact run.reports rfl rfl
  | connected run =>
      refine run.reports rfl ?_
      rw [List.filter_cons_of_neg Bool.false_ne_true, List.filter_append]
      exact List.append_nil _

theorem CommandRun.allowed {command : CommandEnd} {effect : Effect}
    (run : CommandRun host arguments command)
    (member : effect ∈ command.effects)
    (notConnection : effect.isConnection = false) :
    Allowed host arguments := by
  cases run with
  | refused => cases member
  | alone run =>
      rw [report_effects] at member
      exact run.allowed (List.ne_nil_of_mem member)
  | connected run =>
      rw [report_effects] at member
      rcases List.mem_cons.mp member with rfl | member
      · cases notConnection
      · rcases List.mem_append.mp member with inside | last
        · exact run.allowed (List.ne_nil_of_mem inside)
        · rw [List.mem_singleton.mp last] at notConnection
          cases notConnection

/-- However the command ends, the connection is not opened, or it is opened
once and closed once. -/
theorem connection_closed (host : Host World) (arguments : Arguments) :
    (execute host arguments).effects.filter Effect.isConnection = [] ∨
      (execute host arguments).effects.filter Effect.isConnection =
        [.opened, .closed] :=
  (execute_run host arguments).connections

end

end RtsNotebook.LlmClient.Execute
