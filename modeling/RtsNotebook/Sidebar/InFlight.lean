import RtsNotebook.Js.Members
import RtsNotebook.Messaging.RunMime

/-!
# Runs in flight

Three views decide from the run frames of a snapshot whether a run is in
flight: the agent tree, the decoration of an agent and the streaming badge of a
cell.  Each has its own list of statuses and its own loop.
-/

namespace RtsNotebook.Sidebar

open RtsNotebook.Js RtsNotebook.Messaging

/-- `Date.parse`; `none` stands for `NaN`. -/
abbrev DateParse := JsString → Option Int

/-- The members of `metadata.rts`. -/
abbrev RtsSnapshot := List (JsString × Json)

/-! ### The agent tree -/

def TERMINAL_STATUSES : List JsString :=
  [js "complete", js "completed", js "error", js "failed", js "cancelled"]

/-- `value !== null && value !== undefined` -/
def isPresent : Option Json → Bool
  | none => false
  | some .null => false
  | some _ => true

/-- `typeof status === 'string' && statuses.has(status)` -/
def hasStatusIn (statuses : List JsString) (frame : Json) : Bool :=
  match frame.member? (js "status") with
  | some (.string status) => status ∈ statuses
  | _ => false

/-- `isInFlight` -/
def isInFlight (frame : Json) : Bool :=
  if isPresent (frame.member? (js "ended_at")) then
    false
  else
    !hasStatusIn TERMINAL_STATUSES frame

/-- `startedAtMs` -/
def startedAtMs (dateParse : DateParse) (frame : Json) : Int :=
  match frame.member? (js "started_at") with
  | some (.string startedAt) => (dateParse startedAt).getD 0
  | _ => 0

/-- `frame.executor_id === agentId` -/
def isExecutedBy (agentId : JsString) (frame : Json) : Bool :=
  match frame.member? (js "executor_id") with
  | some (.string executorId) => executorId = agentId
  | _ => false

/-- `snapshot.zone?.run_frames` -/
def runFrames (snapshot : RtsSnapshot) : Option Json :=
  (snapshot.lookup (js "zone")).bind fun zone =>
    zone.member? (js "run_frames")

/-- The best frame so far, with its start. -/
structure Best where
  frame : Option Json
  startedAt : Int

/-- One frame in the loop of `getActiveRunFrame`. -/
def Best.consider (dateParse : DateParse) (agentId : JsString) (best : Best)
    (frame : Json) : Best :=
  if !isObject frame then
    best
  else if !isExecutedBy agentId frame then
    best
  else if !isInFlight frame then
    best
  else if best.startedAt < startedAtMs dateParse frame then
    ⟨some frame, startedAtMs dateParse frame⟩
  else
    best

/-- `getActiveRunFrame` -/
def getActiveRunFrame (dateParse : DateParse) (agentId : JsString)
    (snapshot : Option RtsSnapshot) : Option Json :=
  match (snapshot.bind runFrames).filter isObject with
  | none => none
  | some frames =>
      ((frames.ownMembers.map Prod.snd).foldl
        (Best.consider dateParse agentId) ⟨none, -1⟩).frame

/-- `hasInFlightRun` -/
def hasInFlightRun (dateParse : DateParse) (agentId : JsString)
    (snapshot : Option RtsSnapshot) : Bool :=
  (getActiveRunFrame dateParse agentId snapshot).isSome

/-! ### The decoration -/

def SETTLED_RUN_STATUSES : List JsString :=
  [js "complete", js "completed", js "error", js "failed", js "cancelled"]

/-- `hasInFlightRunFrame` -/
def hasInFlightRunFrame (agentId : JsString) (snapshot : RtsSnapshot) : Bool :=
  match (runFrames snapshot).filter isObject with
  | none => false
  | some frames =>
      (frames.ownMembers.map Prod.snd).any fun frame =>
        isObject frame && isExecutedBy agentId frame &&
          !isPresent (frame.member? (js "ended_at")) &&
          !(((frame.member? (js "status")).bind Json.asString?).getD [] ∈
            SETTLED_RUN_STATUSES)

/-! ### The streaming badge -/

/-- `findActiveRunFrame` -/
def findActiveRunFrame (candidateIds : List JsString)
    (runFrames : Option Json) : Option Json :=
  match runFrames.filter Json.truthy with
  | none => none
  | some frames =>
      (frames.ownMembers.map Prod.snd).find? fun frame =>
        isObject frame && hasStatusIn [js "running"] frame &&
          !((frame.member? (js "ended_at")).any Json.truthy) &&
          ((frame.member? (js "cell_id")).bind Json.asString?).any
            fun cellId => cellId ∈ candidateIds

/-! ### Declared statuses -/

/-- `RunFrameStatus` -/
inductive RunFrameStatus where
  | running
  | complete
  | failed
  | interrupted
  deriving DecidableEq

namespace RunFrameStatus

def text : RunFrameStatus → JsString
  | running => js "running"
  | complete => js "complete"
  | failed => js "failed"
  | interrupted => js "interrupted"

end RunFrameStatus

def RUN_FRAME_TERMINAL_STATUSES : List RunFrameStatus :=
  [.complete, .failed, .interrupted]

/-! ### The frames of an agent -/

/-- `Object.values(frames)`, where there are frames. -/
def frameValues (snapshot : RtsSnapshot) : List Json :=
  match (runFrames snapshot).filter isObject with
  | none => []
  | some frames => frames.ownMembers.map Prod.snd

/-- The map of the frames that an agent executes. -/
def framesOf (agentId : JsString) (snapshot : RtsSnapshot) : Option Json :=
  (runFrames snapshot).map fun frames =>
    .object (frames.ownMembers.filter fun (_, frame) =>
      isExecutedBy agentId frame)

/-- A frame of the agent that the tree takes for a run in flight. -/
def isLive (agentId : JsString) (frame : Json) : Bool :=
  isExecutedBy agentId frame && isInFlight frame

variable {dateParse : DateParse} {agentId : JsString} {snapshot : RtsSnapshot}
  {frame : Json} {frames : List Json} {best : Best}

/-- Only an object has an executor. -/
theorem isObject_of_isExecutedBy (executed : isExecutedBy agentId frame = true) :
    isObject frame = true := by
  cases frame with
  | object members => rfl
  | array items => rfl
  | null => cases executed
  | bool value => cases executed
  | number value => cases executed
  | string value => cases executed

theorem Best.consider_eq :
    best.consider dateParse agentId frame =
      if isLive agentId frame ∧
          best.startedAt < startedAtMs dateParse frame then
        ⟨some frame, startedAtMs dateParse frame⟩
      else
        best := by
  rw [Best.consider]
  by_cases executed : isExecutedBy agentId frame = true
  · rw [isObject_of_isExecutedBy executed, isLive, executed]
    by_cases live : isInFlight frame = true
    · simp [live]
    · simp [live]
  · simp [isLive, executed]

/-- One frame leaves a best one unless there was none and it is no later. -/
theorem Best.consider_isSome :
    (best.consider dateParse agentId frame).frame.isSome = true ↔
      best.frame.isSome = true ∨
        isLive agentId frame ∧
          best.startedAt < startedAtMs dateParse frame := by
  rw [Best.consider_eq]
  by_cases better : isLive agentId frame ∧
      best.startedAt < startedAtMs dateParse frame
  · rw [if_pos better]
    exact ⟨fun _ => Or.inr better, fun _ => rfl⟩
  · rw [if_neg better]
    exact ⟨Or.inl, fun either => either.resolve_right better⟩

theorem Best.foldl_consider_isSome :
    (frames.foldl (Best.consider dateParse agentId) best).frame.isSome =
        true ↔
      best.frame.isSome = true ∨
        ∃ frame ∈ frames, isLive agentId frame = true ∧
          best.startedAt < startedAtMs dateParse frame := by
  induction frames generalizing best with
  | nil => simp
  | cons frame rest inductionHypothesis =>
      rw [List.foldl_cons, inductionHypothesis, Best.consider_isSome]
      have sameStart
          (notBetter : ¬ (isLive agentId frame ∧
            best.startedAt < startedAtMs dateParse frame)) :
          (best.consider dateParse agentId frame).startedAt =
            best.startedAt := by
        rw [Best.consider_eq, if_neg notBetter]
      constructor
      · rintro ((some | better) | ⟨later, isLater, live, after⟩)
        · exact Or.inl some
        · exact Or.inr ⟨frame, List.mem_cons_self, better⟩
        · by_cases better : isLive agentId frame ∧
              best.startedAt < startedAtMs dateParse frame
          · exact Or.inr ⟨frame, List.mem_cons_self, better⟩
          · rw [sameStart better] at after
            exact Or.inr ⟨later, List.mem_cons_of_mem _ isLater, live, after⟩
      · rintro (some | ⟨later, isLater, live, after⟩)
        · exact Or.inl (Or.inl some)
        · rcases List.mem_cons.mp isLater with rfl | isLater
          · exact Or.inl (Or.inr ⟨live, after⟩)
          · by_cases better : isLive agentId frame ∧
                best.startedAt < startedAtMs dateParse frame
            · exact Or.inl (Or.inr better)
            · rw [← sameStart better] at after
              exact Or.inr ⟨later, isLater, live, after⟩

/-- The tree finds a run that did not start before 1970. -/
theorem hasInFlightRun_iff :
    hasInFlightRun dateParse agentId (some snapshot) = true ↔
      ∃ frame ∈ frameValues snapshot, isLive agentId frame = true ∧
        0 ≤ startedAtMs dateParse frame := by
  rw [hasInFlightRun, getActiveRunFrame, Option.bind_some, frameValues]
  cases (runFrames snapshot).filter isObject with
  | none => simp
  | some frames =>
      dsimp only
      rw [Best.foldl_consider_isSome]
      constructor
      · rintro (some | ⟨frame, isMember, live, after⟩)
        · cases some
        · exact ⟨frame, isMember, live, Int.add_one_le_of_lt after⟩
      · rintro ⟨frame, isMember, live, after⟩
        exact Or.inr ⟨frame, isMember, live, Int.lt_of_add_one_le after⟩

/-- The two lists of statuses are one, and no status is the empty text. -/
theorem settled_eq :
    decide (((frame.member? (js "status")).bind Json.asString?).getD [] ∈
      SETTLED_RUN_STATUSES) = hasStatusIn TERMINAL_STATUSES frame := by
  have emptyText : decide (([] : JsString) ∈ SETTLED_RUN_STATUSES) = false := by
    decide
  rw [hasStatusIn]
  cases frame.member? (js "status") with
  | none => exact emptyText
  | some status =>
      cases status with
      | string status => rfl
      | null => exact emptyText
      | bool value => exact emptyText
      | number value => exact emptyText
      | array items => exact emptyText
      | object members => exact emptyText

/-- The decoration finds any run in flight. -/
theorem hasInFlightRunFrame_iff :
    hasInFlightRunFrame agentId snapshot = true ↔
      ∃ frame ∈ frameValues snapshot, isLive agentId frame = true := by
  rw [hasInFlightRunFrame, frameValues]
  cases (runFrames snapshot).filter isObject with
  | none => simp
  | some frames =>
      dsimp only
      rw [List.any_eq_true]
      have same (frame : Json) :
          (isObject frame && isExecutedBy agentId frame &&
            !isPresent (frame.member? (js "ended_at")) &&
            !decide (((frame.member? (js "status")).bind
              Json.asString?).getD [] ∈ SETTLED_RUN_STATUSES)) = true ↔
            isLive agentId frame = true := by
        rw [settled_eq, isLive, isInFlight]
        by_cases executed : isExecutedBy agentId frame = true
        · simp [isObject_of_isExecutedBy executed, executed]
        · simp [executed]
      simp only [same]

/-! ### Declared frames -/

/-- A frame with a cell, a declared status and an end that is missing, `null`
or a text. -/
structure IsDeclared (frame : Json) : Prop where
  cell : ∃ cellId, frame.member? (js "cell_id") = some (.string cellId)
  status : ∃ status : RunFrameStatus,
    frame.member? (js "status") = some (.string status.text)
  ended : isPresent (frame.member? (js "ended_at")) = false ∨
    ∃ endedAt ≠ [], frame.member? (js "ended_at") = some (.string endedAt)

/-- A frame that has not ended and whose status is none of the terminal
ones. -/
def isOpen (frame : Json) : Bool :=
  !hasStatusIn (RUN_FRAME_TERMINAL_STATUSES.map RunFrameStatus.text) frame &&
    !isPresent (frame.member? (js "ended_at"))

/-- A frame that has not ended although it was interrupted. -/
def isStale (frame : Json) : Bool :=
  hasStatusIn [RunFrameStatus.interrupted.text] frame &&
    !isPresent (frame.member? (js "ended_at"))

def isRunning (frame : Json) : Bool :=
  hasStatusIn [RunFrameStatus.running.text] frame &&
    !isPresent (frame.member? (js "ended_at"))

/-- A declared frame in flight is open, or it was interrupted. -/
theorem isInFlight_declared (declared : IsDeclared frame) :
    isInFlight frame = (isOpen frame || isStale frame) := by
  obtain ⟨status, hasStatus⟩ := declared.status
  rw [isInFlight, isOpen, isStale, hasStatusIn, hasStatusIn, hasStatusIn,
    hasStatus]
  cases isPresent (frame.member? (js "ended_at")) with
  | true => simp
  | false =>
      cases status with
      | running => decide
      | complete => decide
      | failed => decide
      | interrupted => decide

theorem isOpen_declared (declared : IsDeclared frame) :
    isOpen frame = isRunning frame := by
  obtain ⟨status, hasStatus⟩ := declared.status
  rw [isOpen, isRunning, hasStatusIn, hasStatusIn, hasStatus]
  cases status with
  | running => rfl
  | complete => rfl
  | failed => rfl
  | interrupted => rfl

/-- An end that is missing or `null` is the one that counts as false. -/
theorem isPresent_declared (declared : IsDeclared frame) :
    isPresent (frame.member? (js "ended_at")) =
      (frame.member? (js "ended_at")).any Json.truthy := by
  rcases declared.ended with missing | ⟨endedAt, nonempty, hasEnd⟩
  · rw [missing]
    cases hasEnd : frame.member? (js "ended_at") with
    | none => rfl
    | some value =>
        rw [hasEnd] at missing
        cases value with
        | null => rfl
        | bool value => cases missing
        | number value => cases missing
        | string value => cases missing
        | array items => cases missing
        | object members => cases missing
  · rw [hasEnd]
    exact (decide_eq_true nonempty).symm

/-- The members of the map of an agent are the frames that it executes. -/
theorem mem_executed {frames : Json} :
    frame ∈ (frames.ownMembers.filter fun (_, frame) =>
        isExecutedBy agentId frame).map Prod.snd ↔
      frame ∈ frames.ownMembers.map Prod.snd ∧
        isExecutedBy agentId frame = true := by
  constructor
  · intro isValue
    obtain ⟨member, isMember, rfl⟩ := List.mem_map.mp isValue
    obtain ⟨isOwn, executed⟩ := List.mem_filter.mp isMember
    exact ⟨List.mem_map_of_mem isOwn, executed⟩
  · rintro ⟨isValue, executed⟩
    obtain ⟨member, isOwn, rfl⟩ := List.mem_map.mp isValue
    exact List.mem_map_of_mem (List.mem_filter.mpr ⟨isOwn, executed⟩)

/-- A text is iterated over, but no agent executes one of its characters. -/
theorem isObject_of_executed {frames : Json}
    (isMember : frame ∈ frames.ownMembers.map Prod.snd)
    (executed : isExecutedBy agentId frame = true) :
    isObject frames = true := by
  cases frames with
  | object members => rfl
  | array items => rfl
  | null => cases isMember
  | bool value => cases isMember
  | number value => cases isMember
  | string text =>
      obtain ⟨member, isOwn, rfl⟩ := List.mem_map.mp isMember
      obtain ⟨⟨item, index⟩, isItem, rfl⟩ := List.mem_map.mp isOwn
      have inItems := List.fst_mem_of_mem_zipIdx isItem
      obtain ⟨codeUnit, _, rfl⟩ := List.mem_map.mp inItems
      cases executed

/-- What the badge looks for in a declared frame. -/
theorem badge_declared (declared : IsDeclared frame) :
    (∃ candidateIds : List JsString,
      (isObject frame && hasStatusIn [js "running"] frame &&
        !((frame.member? (js "ended_at")).any Json.truthy) &&
        ((frame.member? (js "cell_id")).bind Json.asString?).any
          fun cellId => cellId ∈ candidateIds) = true) ↔
      isRunning frame = true := by
  obtain ⟨cellId, hasCell⟩ := declared.cell
  have objectFrame : isObject frame = true := by
    cases frame with
    | object members => rfl
    | array items => rfl
    | null => cases hasCell
    | bool value => cases hasCell
    | number value => cases hasCell
    | string value => cases hasCell
  rw [isRunning, isPresent_declared declared, hasCell, objectFrame,
    Bool.true_and]
  constructor
  · rintro ⟨candidateIds, found⟩
    exact (Bool.and_eq_true_iff.mp found).1
  · intro running
    refine ⟨[cellId], Bool.and_eq_true_iff.mpr ⟨running, ?_⟩⟩
    exact decide_eq_true List.mem_cons_self

/-- The badge of some cell shows a run of the agent exactly where the agent has
a frame that is running. -/
theorem findActiveRunFrame_iff
    (declared : ∀ frame ∈ frameValues snapshot, IsDeclared frame) :
    (∃ candidateIds,
        (findActiveRunFrame candidateIds
          (framesOf agentId snapshot)).isSome = true) ↔
      ∃ frame ∈ frameValues snapshot,
        isExecutedBy agentId frame = true ∧ isRunning frame = true := by
  cases hasFrames : runFrames snapshot with
  | none =>
      rw [framesOf, frameValues, hasFrames]
      simp [findActiveRunFrame]
  | some frames =>
      have found (candidateIds : List JsString) :
          (findActiveRunFrame candidateIds
            (framesOf agentId snapshot)).isSome = true ↔
          ∃ frame, (frame ∈ frames.ownMembers.map Prod.snd ∧
              isExecutedBy agentId frame = true) ∧
            (isObject frame && hasStatusIn [js "running"] frame &&
              !((frame.member? (js "ended_at")).any Json.truthy) &&
              ((frame.member? (js "cell_id")).bind Json.asString?).any
                fun cellId => cellId ∈ candidateIds) = true := by
        have own (members : List (JsString × Json)) :
            (Json.object members).ownMembers = members := rfl
        rw [findActiveRunFrame, framesOf, hasFrames]
        change (List.find? _ _).isSome = true ↔ _
        rw [List.find?_isSome, own]
        simp only [mem_executed]
      have values {frame : Json}
          (executed : isExecutedBy agentId frame = true) :
          frame ∈ frames.ownMembers.map Prod.snd ↔
            frame ∈ frameValues snapshot := by
        rw [frameValues, hasFrames]
        by_cases objectFrames : isObject frames = true
        · rw [Option.filter_some, if_pos objectFrames]
        · rw [Option.filter_some, if_neg objectFrames]
          constructor
          · intro isMember
            exact absurd (isObject_of_executed isMember executed) objectFrames
          · intro isMember
            cases isMember
      constructor
      · rintro ⟨candidateIds, isFound⟩
        obtain ⟨frame, ⟨isMember, executed⟩, matching⟩ :=
          (found candidateIds).mp isFound
        have isFrame := (values executed).mp isMember
        exact ⟨frame, isFrame, executed,
          (badge_declared (declared frame isFrame)).mp
            ⟨candidateIds, matching⟩⟩
      · rintro ⟨frame, isFrame, executed, running⟩
        obtain ⟨candidateIds, matching⟩ :=
          (badge_declared (declared frame isFrame)).mpr running
        exact ⟨candidateIds, (found candidateIds).mpr
          ⟨frame, ⟨(values executed).mpr isFrame, executed⟩, matching⟩⟩

/-- The three views of the runs of an agent. -/
structure ViewsAgree (dateParse : DateParse) (agentId : JsString)
    (snapshot : RtsSnapshot) : Prop where
  sameAnswer : hasInFlightRun dateParse agentId (some snapshot) =
    hasInFlightRunFrame agentId snapshot
  open_iff : (∀ frame ∈ frameValues snapshot, IsDeclared frame) →
    ((hasInFlightRun dateParse agentId (some snapshot) = true ∧
        hasInFlightRunFrame agentId snapshot = true) ↔
      ∃ frame ∈ frameValues snapshot,
        isExecutedBy agentId frame = true ∧ isOpen frame = true)
  badge_iff : (∀ frame ∈ frameValues snapshot, IsDeclared frame) →
    ((∃ frame ∈ frameValues snapshot,
        isExecutedBy agentId frame = true ∧ isOpen frame = true) ↔
      ∃ candidateIds,
        (findActiveRunFrame candidateIds
          (framesOf agentId snapshot)).isSome = true)

/-- Whether some run in flight started in 1970 or later, where there is one; a
start that is missing or cannot be parsed counts as 1970. -/
def StartIsSeen (dateParse : DateParse) (agentId : JsString)
    (snapshot : RtsSnapshot) : Prop :=
  (∃ frame ∈ frameValues snapshot, isLive agentId frame = true) →
    ∃ frame ∈ frameValues snapshot, isLive agentId frame = true ∧
      0 ≤ startedAtMs dateParse frame

/-- Whether a run is running, where one was interrupted and has not ended. -/
def StaleIsCovered (agentId : JsString) (snapshot : RtsSnapshot) : Prop :=
  (∃ frame ∈ frameValues snapshot,
      isExecutedBy agentId frame = true ∧ isStale frame = true) →
    ∃ frame ∈ frameValues snapshot,
      isExecutedBy agentId frame = true ∧ isRunning frame = true

/-- In declared frames, the runs in flight are the running ones and the stale
ones. -/
theorem live_declared
    (declared : ∀ frame ∈ frameValues snapshot, IsDeclared frame) :
    (∃ frame ∈ frameValues snapshot, isLive agentId frame = true) ↔
      (∃ frame ∈ frameValues snapshot,
        isExecutedBy agentId frame = true ∧ isRunning frame = true) ∨
      ∃ frame ∈ frameValues snapshot,
        isExecutedBy agentId frame = true ∧ isStale frame = true := by
  have each {frame : Json} (isFrame : frame ∈ frameValues snapshot) :
      isLive agentId frame = true ↔ isExecutedBy agentId frame = true ∧
        (isRunning frame = true ∨ isStale frame = true) := by
    have isDeclared := declared frame isFrame
    rw [isLive, isInFlight_declared isDeclared, isOpen_declared isDeclared,
      Bool.and_eq_true_iff, Bool.or_eq_true_iff]
  constructor
  · rintro ⟨frame, isFrame, live⟩
    obtain ⟨executed, running | stale⟩ := (each isFrame).mp live
    · exact Or.inl ⟨frame, isFrame, executed, running⟩
    · exact Or.inr ⟨frame, isFrame, executed, stale⟩
  · rintro (⟨frame, isFrame, executed, running⟩ |
      ⟨frame, isFrame, executed, stale⟩)
    · exact ⟨frame, isFrame, (each isFrame).mpr ⟨executed, Or.inl running⟩⟩
    · exact ⟨frame, isFrame, (each isFrame).mpr ⟨executed, Or.inr stale⟩⟩

theorem sameAnswer_iff :
    hasInFlightRun dateParse agentId (some snapshot) =
        hasInFlightRunFrame agentId snapshot ↔
      StartIsSeen dateParse agentId snapshot := by
  rw [Bool.eq_iff_iff, hasInFlightRun_iff, hasInFlightRunFrame_iff]
  constructor
  · exact fun same => same.mpr
  · intro seen
    refine ⟨?_, seen⟩
    rintro ⟨frame, isFrame, live, _⟩
    exact ⟨frame, isFrame, live⟩

theorem open_declared
    (declared : ∀ frame ∈ frameValues snapshot, IsDeclared frame) :
    (∃ frame ∈ frameValues snapshot,
        isExecutedBy agentId frame = true ∧ isOpen frame = true) ↔
      ∃ frame ∈ frameValues snapshot,
        isExecutedBy agentId frame = true ∧ isRunning frame = true := by
  constructor
  · rintro ⟨frame, isFrame, executed, isOpenFrame⟩
    rw [isOpen_declared (declared frame isFrame)] at isOpenFrame
    exact ⟨frame, isFrame, executed, isOpenFrame⟩
  · rintro ⟨frame, isFrame, executed, running⟩
    rw [← isOpen_declared (declared frame isFrame)] at running
    exact ⟨frame, isFrame, executed, running⟩

/-- The views agree if and only if a run in flight is hidden neither by a start
before 1970 nor taken for one that was interrupted. -/
theorem viewsAgree_iff (dateParse : DateParse) (agentId : JsString)
    (snapshot : RtsSnapshot) :
    ViewsAgree dateParse agentId snapshot ↔
      StartIsSeen dateParse agentId snapshot ∧
        ((∀ frame ∈ frameValues snapshot, IsDeclared frame) →
          StaleIsCovered agentId snapshot) := by
  constructor
  · intro agree
    refine ⟨sameAnswer_iff.mp agree.sameAnswer, fun declared stale => ?_⟩
    have live := (live_declared declared).mpr (Or.inr stale)
    have decorated := hasInFlightRunFrame_iff.mpr live
    have inTree := agree.sameAnswer.trans decorated
    exact (open_declared declared).mp
      ((agree.open_iff declared).mp ⟨inTree, decorated⟩)
  · rintro ⟨seen, covered⟩
    have same := sameAnswer_iff.mpr seen
    refine ⟨same, fun declared => ?_, fun declared => ?_⟩
    · rw [same, and_self, hasInFlightRunFrame_iff, live_declared declared,
        open_declared declared]
      constructor
      · rintro (running | stale)
        · exact running
        · exact covered declared stale
      · exact Or.inl
    · rw [open_declared declared, findActiveRunFrame_iff declared]

/-! ### Hidden runs -/

/-- `{ zone: { run_frames: { r1: frame } } }` -/
def oneFrame (frame : Json) : RtsSnapshot :=
  [(js "zone", .object [(js "run_frames", .object [(js "r1", frame)])])]

def beforeEpoch : JsString :=
  js "1969-12-31T23:59:59.000Z"

/-- A running frame that started in 1969. -/
def startedBeforeEpoch : Json :=
  .object [(js "cell_id", .string (js "c1")),
    (js "executor_id", .string (js "alpha")),
    (js "status", .string (js "running")),
    (js "started_at", .string beforeEpoch)]

/-- A frame that was interrupted and has no end. -/
def interruptedOpen : Json :=
  .object [(js "cell_id", .string (js "c1")),
    (js "executor_id", .string (js "alpha")),
    (js "status", .string (js "interrupted")),
    (js "ended_at", .null)]

/-- `Date.parse`, on the one text above. -/
def parseBeforeEpoch : DateParse
  | text => if text = beforeEpoch then some (-1000) else none

theorem interruptedOpen_declared :
    ∀ frame ∈ frameValues (oneFrame interruptedOpen), IsDeclared frame := by
  intro frame isFrame
  have isOnly : frame = interruptedOpen := List.mem_singleton.mp isFrame
  rw [isOnly]
  exact ⟨⟨js "c1", rfl⟩, ⟨.interrupted, rfl⟩, Or.inl rfl⟩

/-- The tree hides the one run, which the decoration shows; both show the
other, which is not open. -/
theorem views_disagree :
    ¬ ViewsAgree parseBeforeEpoch (js "alpha")
        (oneFrame startedBeforeEpoch) ∧
      ¬ ViewsAgree parseBeforeEpoch (js "alpha")
        (oneFrame interruptedOpen) := by
  constructor
  · intro agree
    have decorated : hasInFlightRunFrame (js "alpha")
        (oneFrame startedBeforeEpoch) = true := by decide
    have inTree := agree.sameAnswer.trans decorated
    rw [hasInFlightRun_iff] at inTree
    obtain ⟨frame, isFrame, _, start⟩ := inTree
    have isOnly : frame = startedBeforeEpoch := List.mem_singleton.mp isFrame
    rw [isOnly] at start
    exact absurd start (by decide)
  · intro agree
    have live : isLive (js "alpha") interruptedOpen = true := by decide
    have shown : hasInFlightRun parseBeforeEpoch (js "alpha")
          (some (oneFrame interruptedOpen)) = true ∧
        hasInFlightRunFrame (js "alpha") (oneFrame interruptedOpen) = true :=
      ⟨hasInFlightRun_iff.mpr
          ⟨interruptedOpen, List.mem_cons_self, live, Int.le_refl 0⟩,
        hasInFlightRunFrame_iff.mpr
          ⟨interruptedOpen, List.mem_cons_self, live⟩⟩
    obtain ⟨frame, isFrame, _, openFrame⟩ :=
      (agree.open_iff interruptedOpen_declared).mp shown
    have isOnly : frame = interruptedOpen := List.mem_singleton.mp isFrame
    rw [isOnly] at openFrame
    exact absurd openFrame (by decide)

end RtsNotebook.Sidebar
