import Mathlib.Data.List.Dedup
import Mathlib.Data.List.Induction
import RtsNotebook.Inspect.RunFrames

/-!
# The queries about the runs of a cell

Each query folds the records of the cell into one frame for each run, a terminal
one where there is one.  The queries agree with one another, and with themselves
on the same records in another order.
-/

namespace RtsNotebook.Inspect

open RtsNotebook.Js RtsNotebook.Library RtsNotebook.Messaging
open RtsNotebook.Sidebar (RunFrameStatus)

section

variable {metadata : Option Json} {cellId id : JsString}
  {records frames : List RunFrame} {f g : RunFrame}
  {byRun : OrderedMap JsString RunFrame}

/-- The records of a cell. -/
def cellFrames (metadata : Option Json) (cellId : JsString) : List RunFrame :=
  ((runFramesOf metadata).map Prod.snd).filter fun f => f.cellId = cellId

/-! ### The order of the frames -/

theorem compareStartedAtDesc_swap (a b : RunFrame) :
    compareStartedAtDesc b a = -compareStartedAtDesc a b := by
  unfold compareStartedAtDesc
  by_cases sameStart : a.startedAt = b.startedAt
  · rw [if_pos sameStart, if_pos sameStart.symm]
    by_cases before : a.runId < b.runId
    · simp [before, List.lt_asymm before]
    · by_cases behind : b.runId < a.runId
      · simp [before, behind]
      · simp [before, behind]
  · rw [if_neg sameStart, if_neg (Ne.symm sameStart)]
    by_cases earlier : a.startedAt < b.startedAt
    · rw [if_pos earlier, if_neg (List.lt_asymm earlier)]
    · have later : b.startedAt < a.startedAt := by
        by_contra notLater
        exact sameStart (List.le_antisymm (List.not_lt.mp notLater)
          (List.not_lt.mp earlier))
      rw [if_neg earlier, if_pos later]
      rfl

theorem compareStartedAtAsc_eq (a b : RunFrame) :
    compareStartedAtAsc a b = compareStartedAtDesc b a :=
  (compareStartedAtDesc_swap a b).symm

/-- Later starts come first, and equal ones by the run id. -/
theorem compareStartedAtDesc_nonpos {a b : RunFrame} :
    compareStartedAtDesc a b ≤ 0 ↔
      b.startedAt < a.startedAt ∨
        a.startedAt = b.startedAt ∧ a.runId ≤ b.runId := by
  unfold compareStartedAtDesc
  by_cases sameStart : a.startedAt = b.startedAt
  · rw [if_pos sameStart, sameStart]
    by_cases before : a.runId < b.runId
    · simp [before, List.le_of_lt before]
    · by_cases behind : b.runId < a.runId
      · simp [before, behind, List.lt_irrefl]
      · simp [before, behind, List.not_lt.mp behind]
  · rw [if_neg sameStart]
    by_cases earlier : a.startedAt < b.startedAt
    · simp [earlier, sameStart, List.lt_asymm earlier]
    · have later : b.startedAt < a.startedAt := by
        by_contra notLater
        exact sameStart (List.le_antisymm (List.not_lt.mp notLater)
          (List.not_lt.mp earlier))
      simp [earlier, later]

instance : Std.Total fun a b => compareStartedAtDesc a b ≤ 0 where
  total := by
    intro a b
    rw [compareStartedAtDesc_swap a b]
    omega

instance : IsTrans RunFrame fun a b => compareStartedAtDesc a b ≤ 0 where
  trans := by
    intro a b c first second
    rw [compareStartedAtDesc_nonpos] at *
    rcases first with first | ⟨sameFirst, first⟩
    · rcases second with second | ⟨sameSecond, _⟩
      · exact Or.inl (List.lt_trans second first)
      · exact Or.inl (sameSecond ▸ first)
    · rcases second with second | ⟨sameSecond, second⟩
      · exact Or.inl (sameFirst ▸ second)
      · exact Or.inr ⟨sameFirst.trans sameSecond, List.le_trans first second⟩

instance : Std.Total fun a b => compareStartedAtAsc a b ≤ 0 where
  total := by
    intro a b
    rw [compareStartedAtAsc_eq, compareStartedAtAsc_eq,
      compareStartedAtDesc_swap a b]
    omega

instance : IsTrans RunFrame fun a b => compareStartedAtAsc a b ≤ 0 where
  trans := by
    intro a b c first second
    rw [compareStartedAtAsc_eq] at *
    exact IsTrans.trans (r := fun a b => compareStartedAtDesc a b ≤ 0)
      c b a second first

/-- Frames that compare equal belong to one run. -/
theorem runId_eq_of_compare {a b : RunFrame}
    (before : compareStartedAtDesc a b ≤ 0)
    (behind : compareStartedAtDesc b a ≤ 0) : a.runId = b.runId := by
  rw [compareStartedAtDesc_nonpos] at before behind
  rcases before with before | ⟨sameStart, before⟩
  · rcases behind with behind | ⟨sameStart, _⟩
    · exact absurd before (List.lt_asymm behind)
    · rw [sameStart] at before
      exact absurd before (List.lt_irrefl _)
  · rcases behind with behind | ⟨_, behind⟩
    · rw [sameStart] at behind
      exact absurd behind (List.lt_irrefl _)
    · exact List.le_antisymm before behind

/-! ### The frame of a run -/

/-- A record that stands for its run: a terminal one, or one of a run without
terminal records. -/
structure IsRunFrame (records : List RunFrame) (f : RunFrame) : Prop where
  member : f ∈ records
  best : isTerminal f.status = true ∨
    ∀ g ∈ records, g.runId = f.runId → isTerminal g.status = false

/-- The map has a frame for each run of the records, and under its id. -/
structure Represents (records : List RunFrame)
    (byRun : OrderedMap JsString RunFrame) : Prop where
  runId : ∀ id f, byRun.get id = some f → f.runId = id
  frame : ∀ id f, byRun.get id = some f → IsRunFrame records f
  complete : ∀ f ∈ records, ∃ g, byRun.get f.runId = some g

theorem IsRunFrame.append (isFrame : IsRunFrame records f)
    (harmless : g.runId = f.runId → isTerminal f.status = false →
      isTerminal g.status = false) :
    IsRunFrame (records ++ [g]) f where
  member := List.mem_append_left _ isFrame.member
  best := by
    cases terminal : isTerminal f.status with
    | true => exact Or.inl rfl
    | false =>
        right
        intro other isOther sameRun
        rcases List.mem_append.mp isOther with inRecords | isLast
        · rcases isFrame.best with isBest | noneTerminal
          · rw [terminal] at isBest
            cases isBest
          · exact noneTerminal other inRecords sameRun
        · rw [List.mem_singleton.mp isLast] at sameRun ⊢
          exact harmless sameRun terminal

/-- The record that stands for a run changes only to a terminal one. -/
theorem Represents.set (represents : Represents records byRun)
    (stands : IsRunFrame (records ++ [f]) f) :
    Represents (records ++ [f]) (byRun.set f.runId f) where
  runId := by
    intro id g found
    rw [OrderedMap.get_set] at found
    split at found
    · rename_i sameRun
      rw [← Option.some.inj found, sameRun]
    · exact represents.runId id g found
  frame := by
    intro id g found
    rw [OrderedMap.get_set] at found
    split at found
    · rw [← Option.some.inj found]
      exact stands
    · rename_i otherRun
      refine (represents.frame id g found).append fun sameRun => ?_
      rw [represents.runId id g found] at sameRun
      exact absurd sameRun.symm otherRun
  complete := by
    intro g isRecord
    rw [OrderedMap.get_set]
    split
    · exact ⟨f, rfl⟩
    · rename_i otherRun
      rcases List.mem_append.mp isRecord with inRecords | isLast
      · exact represents.complete g inRecords
      · rw [List.mem_singleton.mp isLast] at otherRun
        exact absurd rfl otherRun

/-- One record of the cell. -/
theorem Represents.consider (represents : Represents records byRun)
    (ofCell : f.cellId = cellId) :
    Represents (records ++ [f]) (considerFrame cellId byRun f) := by
  rw [considerFrame, if_neg (not_not_intro ofCell)]
  have isLast : f ∈ records ++ [f] := by simp
  cases found : byRun.get f.runId with
  | none =>
      refine represents.set ⟨isLast, ?_⟩
      cases terminal : isTerminal f.status with
      | true => exact Or.inl rfl
      | false =>
          right
          intro g isRecord sameRun
          rcases List.mem_append.mp isRecord with inRecords | isF
          · obtain ⟨other, hasRun⟩ := represents.complete g inRecords
            rw [sameRun, found] at hasRun
            cases hasRun
          · rw [List.mem_singleton.mp isF, terminal]
  | some prev =>
      dsimp only
      split
      · rename_i replaces
        rw [Bool.and_eq_true] at replaces
        exact represents.set ⟨isLast, Or.inl replaces.1⟩
      · rename_i keeps
        have harmless : isTerminal prev.status = false →
            isTerminal f.status = false := by
          intro running
          simpa [running] using keeps
        refine ⟨represents.runId, fun id g hasRun => ?_, fun g isRecord => ?_⟩
        · refine (represents.frame id g hasRun).append fun sameRun => ?_
          rw [represents.runId id g hasRun] at sameRun
          rw [← sameRun, found] at hasRun
          rw [← Option.some.inj hasRun]
          exact harmless
        · rcases List.mem_append.mp isRecord with inRecords | isF
          · exact represents.complete g inRecords
          · rw [List.mem_singleton.mp isF]
            exact ⟨prev, found⟩

theorem represents_foldl (cellId : JsString) (frames : List RunFrame) :
    Represents (frames.filter fun f => f.cellId = cellId)
      (frames.foldl (considerFrame cellId) .empty) := by
  induction frames using List.reverseRecOn with
  | nil =>
      exact ⟨fun _ _ found => (nomatch found), fun _ _ found => (nomatch found),
        fun _ member => (nomatch member)⟩
  | append_singleton frames f inductionHypothesis =>
      rw [List.foldl_concat, List.filter_append]
      by_cases ofCell : f.cellId = cellId
      · rw [List.filter_cons_of_pos (by simpa using ofCell), List.filter_nil]
        exact inductionHypothesis.consider ofCell
      · rw [List.filter_cons_of_neg (by simpa using ofCell), List.filter_nil,
          List.append_nil, considerFrame, if_pos ofCell]
        exact inductionHypothesis

/-- The map of a cell represents the records of the cell. -/
theorem represents_byRunId (metadata : Option Json) (cellId : JsString) :
    Represents (cellFrames metadata cellId) (byRunId metadata cellId) :=
  represents_foldl cellId _

namespace Represents

theorem mem_values_iff (represents : Represents records byRun) :
    f ∈ byRun.values ↔ byRun.get f.runId = some f := by
  rw [OrderedMap.values, List.mem_map, ← OrderedMap.mem_entries_iff]
  constructor
  · rintro ⟨⟨id, frame⟩, isEntry, rfl⟩
    have sameRun := represents.runId id frame
      ((OrderedMap.mem_entries_iff _ _ _).mp isEntry)
    rw [sameRun]
    exact isEntry
  · exact fun isEntry => ⟨_, isEntry, rfl⟩

theorem map_runId (represents : Represents records byRun) :
    byRun.values.map RunFrame.runId = byRun.entries.map Prod.fst := by
  rw [OrderedMap.values, List.map_map]
  refine List.map_congr_left fun entry isEntry => ?_
  exact represents.runId entry.1 entry.2
    ((OrderedMap.mem_entries_iff _ _ _).mp isEntry)

theorem nodup (represents : Represents records byRun) :
    (byRun.values.map RunFrame.runId).Nodup := by
  rw [represents.map_runId]
  exact byRun.distinct

/-- The frames of a map belong to different runs. -/
theorem eq_of_runId (represents : Represents records byRun)
    (isFirst : f ∈ byRun.values) (isSecond : g ∈ byRun.values)
    (sameRun : f.runId = g.runId) : f = g := by
  rw [represents.mem_values_iff] at isFirst isSecond
  rw [sameRun, isSecond] at isFirst
  exact (Option.some.inj isFirst).symm

end Represents

/-! ### One query -/

theorem isTerminal_eq_false_iff {status : RunFrameStatus} :
    isTerminal status = false ↔ status = .running := by
  cases status with
  | running => decide
  | complete => decide
  | failed => decide
  | interrupted => decide

/-- What the history of a cell lists. -/
theorem mem_history_iff (nonempty : cellId ≠ []) :
    f ∈ runFrameHistoryForCell metadata cellId ↔
      f ∈ (byRunId metadata cellId).values ∧ isTerminal f.status = true := by
  rw [runFrameHistoryForCell, if_neg nonempty, List.mem_insertionSort,
    List.mem_filter]

/-- The history lists different runs. -/
theorem history_nodup (metadata : Option Json) (cellId : JsString) :
    ((runFrameHistoryForCell metadata cellId).map RunFrame.runId).Nodup := by
  rw [runFrameHistoryForCell]
  split
  · exact List.nodup_nil
  · have sorted := (List.perm_insertionSort
      (fun a b => compareStartedAtAsc a b ≤ 0)
      ((byRunId metadata cellId).values.filter
        fun f => isTerminal f.status)).map RunFrame.runId
    rw [sorted.nodup_iff]
    exact (represents_byRunId metadata cellId).nodup.sublist
      (List.filter_sublist.map RunFrame.runId)

theorem history_sorted (metadata : Option Json) (cellId : JsString) :
    (runFrameHistoryForCell metadata cellId).Pairwise
      fun a b => compareStartedAtAsc a b ≤ 0 := by
  rw [runFrameHistoryForCell]
  split
  · exact List.Pairwise.nil
  · exact List.pairwise_insertionSort _ _

theorem startedAt_le_of_compare {a b : RunFrame}
    (before : compareStartedAtAsc a b ≤ 0) : a.startedAt ≤ b.startedAt := by
  rw [compareStartedAtAsc_eq, compareStartedAtDesc_nonpos] at before
  rcases before with earlier | ⟨sameStart, _⟩
  · exact List.le_of_lt earlier
  · rw [sameStart]
    exact List.le_refl _

/-- The latest frame comes before every other one. -/
theorem latest_iff (nonempty : cellId ≠ []) :
    latestRunFrameForCell metadata cellId = some f ↔
      f ∈ (byRunId metadata cellId).values ∧
        ∀ g ∈ (byRunId metadata cellId).values,
          compareStartedAtDesc f g ≤ 0 := by
  have represents := represents_byRunId metadata cellId
  have ordered := List.pairwise_insertionSort
    (fun a b => compareStartedAtDesc a b ≤ 0) (byRunId metadata cellId).values
  rw [latestRunFrameForCell, if_neg nonempty]
  have isMember (g : RunFrame) := List.mem_insertionSort
    (fun a b => compareStartedAtDesc a b ≤ 0)
    (l := (byRunId metadata cellId).values) (x := g)
  cases sorted : (byRunId metadata cellId).values.insertionSort
      fun a b => compareStartedAtDesc a b ≤ 0 with
  | nil =>
      rw [sorted] at isMember
      constructor
      · exact nofun
      · exact fun ⟨inValues, _⟩ => nomatch (isMember f).mpr inValues
  | cons first others =>
      rw [sorted] at ordered isMember
      have isFirst := (isMember first).mp List.mem_cons_self
      have firstBefore : ∀ g ∈ (byRunId metadata cellId).values,
          compareStartedAtDesc first g ≤ 0 := by
        intro g inValues
        rcases List.mem_cons.mp ((isMember g).mpr inValues) with rfl | inRest
        · have either := compareStartedAtDesc_swap g g
          omega
        · exact List.rel_of_pairwise_cons ordered inRest
      rw [List.head?_cons, Option.some.injEq]
      constructor
      · rintro rfl
        exact ⟨isFirst, firstBefore⟩
      · rintro ⟨inValues, before⟩
        exact represents.eq_of_runId isFirst inValues (runId_eq_of_compare
          (firstBefore f inValues) (before first isFirst))

/-- A terminal latest frame ends the history. -/
theorem history_getLast? (isLatest : latestRunFrameForCell metadata cellId = some f)
    (terminal : isTerminal f.status = true) :
    (runFrameHistoryForCell metadata cellId).getLast? = some f := by
  have nonempty : cellId ≠ [] := by
    rintro rfl
    cases isLatest
  obtain ⟨inValues, before⟩ := (latest_iff nonempty).mp isLatest
  have inHistory := (mem_history_iff nonempty).mpr ⟨inValues, terminal⟩
  obtain ⟨others, last, historyEq⟩ :
      ∃ others last, runFrameHistoryForCell metadata cellId =
        others ++ [last] := by
    rcases List.eq_nil_or_concat (runFrameHistoryForCell metadata cellId)
      with empty | ⟨others, last, found⟩
    · rw [empty] at inHistory
      cases inHistory
    · exact ⟨others, last, found.trans List.concat_eq_append⟩
  have ordered := history_sorted metadata cellId
  have isLast : last ∈ runFrameHistoryForCell metadata cellId := by
    rw [historyEq]
    exact List.mem_append_right _ List.mem_cons_self
  have lastInValues := ((mem_history_iff nonempty).mp isLast).1
  rw [historyEq] at ordered inHistory ⊢
  rw [List.getLast?_concat]
  rcases List.mem_append.mp inHistory with inOthers | isF
  · have behind := (List.pairwise_append.mp ordered).2.2 f inOthers last
      List.mem_cons_self
    rw [compareStartedAtAsc_eq] at behind
    exact congrArg some ((represents_byRunId metadata cellId).eq_of_runId
      lastInValues inValues (runId_eq_of_compare behind
        (before last lastInValues)))
  · rw [List.mem_singleton.mp isF]

/-! ### Counting -/

/-- The run ids of a cell that have running records only. -/
def onlyRunningIds (metadata : Option Json) (cellId : JsString) :
    List JsString :=
  ((cellFrames metadata cellId).map RunFrame.runId).dedup.filter fun id =>
    (cellFrames metadata cellId).all fun f =>
      f.runId ≠ id || f.status = .running

theorem parseRunFrame_cellId {runIdKey : JsString} {raw : Json}
    (parsed : parseRunFrame runIdKey raw = some f) : f.cellId ≠ [] := by
  unfold parseRunFrame at parsed
  simp only [Option.bind_eq_bind, Option.bind_eq_some_iff] at parsed
  obtain ⟨_, _, _, _, cellId, isCell, _, _, _, _, _, _, result⟩ := parsed
  rw [← Option.some.inj result]
  simpa using (Option.filter_eq_some_iff.mp isCell).2

/-- Every frame that is filed was parsed. -/
theorem cellId_ne_nil_of_mem {members : List (JsString × Json)}
    {own : List (JsString × RunFrame)}
    (parsed : ∀ entry ∈ own, entry.2.cellId ≠ [])
    {entry : JsString × RunFrame} (isEntry : entry ∈ members.foldl readFrame own) :
    entry.2.cellId ≠ [] := by
  induction members generalizing own with
  | nil => exact parsed entry isEntry
  | cons member members inductionHypothesis =>
      refine inductionHypothesis (fun other isOther => ?_) isEntry
      rw [readFrame] at isOther
      split at isOther
      · rename_i frame isFrame
        rw [fileFrame] at isOther
        split at isOther
        · exact parsed other isOther
        · rcases mem_assignMember isOther with rfl | inOwn
          · exact parseRunFrame_cellId isFrame
          · exact parsed other inOwn
      · exact parsed other isOther

theorem cellFrames_nil (metadata : Option Json) : cellFrames metadata [] = [] := by
  rw [cellFrames, List.filter_eq_nil_iff]
  intro f isValue
  obtain ⟨entry, isEntry, rfl⟩ := List.mem_map.mp isValue
  rw [decide_eq_true_eq]
  rw [runFramesOf] at isEntry
  split at isEntry
  · cases isEntry
  · exact cellId_ne_nil_of_mem (List.forall_mem_nil _) isEntry

/-- The frames of the map are as many as the run ids of the records. -/
theorem Represents.runIds_perm (represents : Represents records byRun) :
    (records.map RunFrame.runId).dedup.Perm
      (byRun.values.map RunFrame.runId) := by
  rw [List.perm_ext_iff_of_nodup (List.nodup_dedup _) represents.nodup]
  intro id
  rw [List.mem_dedup, List.mem_map, List.mem_map]
  constructor
  · rintro ⟨f, isRecord, rfl⟩
    obtain ⟨g, found⟩ := represents.complete f isRecord
    have sameRun := represents.runId _ g found
    exact ⟨g, represents.mem_values_iff.mpr (sameRun ▸ found), sameRun⟩
  · rintro ⟨g, isValue, rfl⟩
    have found := represents.mem_values_iff.mp isValue
    exact ⟨g, (represents.frame _ g found).member, rfl⟩

/-- A run has running records only exactly where its frame is not terminal. -/
theorem Represents.onlyRunning_iff (represents : Represents records byRun)
    (isValue : f ∈ byRun.values) :
    isTerminal f.status = false ↔
      records.all (fun g => g.runId ≠ f.runId || g.status = .running) =
        true := by
  have stands := represents.frame _ f (represents.mem_values_iff.mp isValue)
  simp only [List.all_eq_true, Bool.or_eq_true, decide_eq_true_eq,
    ← isTerminal_eq_false_iff]
  constructor
  · intro running g isRecord
    by_cases sameRun : g.runId = f.runId
    · rcases stands.best with terminal | noneTerminal
      · rw [running] at terminal
        cases terminal
      · exact Or.inr (noneTerminal g isRecord sameRun)
    · exact Or.inl sameRun
  · intro allRunning
    exact (allRunning f stands.member).resolve_left (not_not_intro rfl)

theorem runCount_eq (metadata : Option Json) (cellId : JsString) :
    runCountForCell metadata cellId =
      (runFrameHistoryForCell metadata cellId).length +
        (onlyRunningIds metadata cellId).length := by
  by_cases empty : cellId = []
  · rw [empty, runCountForCell, runFrameHistoryForCell, onlyRunningIds,
      cellFrames_nil]
    rfl
  · have represents := represents_byRunId metadata cellId
    have counted : runCountForCell metadata cellId =
        (byRunId metadata cellId).values.length := by
      rw [runCountForCell, if_neg empty, ← cellFrames,
        represents.runIds_perm.length_eq, List.length_map]
    have history : (runFrameHistoryForCell metadata cellId).length =
        (byRunId metadata cellId).values.countP
          fun f => isTerminal f.status := by
      rw [runFrameHistoryForCell, if_neg empty, List.length_insertionSort,
        List.countP_eq_length_filter]
    have running : (onlyRunningIds metadata cellId).length =
        (byRunId metadata cellId).values.countP
          fun f => !isTerminal f.status := by
      rw [onlyRunningIds, (represents.runIds_perm.filter _).length_eq,
        ← List.countP_eq_length_filter, List.countP_map]
      refine List.countP_congr fun f isValue => ?_
      rw [Bool.not_eq_true', represents.onlyRunning_iff isValue]
      rfl
    have split := List.length_eq_countP_add_countP
      (fun f : RunFrame => isTerminal f.status)
      (l := (byRunId metadata cellId).values)
    simp only [Bool.not_eq_true, Bool.decide_eq_false] at split
    rw [counted, history, running, split]

/-! ### Reordering the records -/

/-- The same run frames, with their entries in another order. -/
def Reordered (metadata metadata' : Option Json) : Prop :=
  ∃ members members', rawRunFrames metadata = some (.object members) ∧
    rawRunFrames metadata' = some (.object members') ∧
    (members.map Prod.fst).Nodup ∧ members.Perm members'

/-- Each run has at most one running and at most one terminal record. -/
def OneOfEach (records : List RunFrame) : Prop :=
  records.Pairwise fun f g =>
    f.runId = g.runId → isTerminal f.status ≠ isTerminal g.status

/-- The frame that an entry of the map is read as. -/
def filed? (entry : JsString × Json) : Option (JsString × RunFrame) :=
  if entry.1 = js "__proto__" then none
  else (parseRunFrame entry.1 entry.2).map fun frame => (entry.1, frame)

theorem filed?_key {entry : JsString × Json} {filed : JsString × RunFrame}
    (isFiled : filed? entry = some filed) : filed.1 = entry.1 := by
  rw [filed?, Option.ite_none_left_eq_some] at isFiled
  obtain ⟨_, _, rfl⟩ := Option.map_eq_some_iff.mp isFiled.2
  rfl

theorem readFrame_perm {own : List (JsString × RunFrame)}
    {entry : JsString × Json} (absent : entry.1 ∉ own.map Prod.fst) :
    (readFrame own entry).Perm ((filed? entry).toList ++ own) := by
  rw [readFrame, filed?]
  cases parseRunFrame entry.1 entry.2 with
  | none => simp
  | some frame =>
      dsimp only [fileFrame]
      split
      · exact List.Perm.refl _
      · exact assignMember_perm absent

/-- The frames of a map with different keys, in any order. -/
theorem foldl_readFrame_perm {members : List (JsString × Json)}
    {own : List (JsString × RunFrame)}
    (distinct : (members.map Prod.fst).Nodup)
    (apart : ∀ entry ∈ members, entry.1 ∉ own.map Prod.fst) :
    (members.foldl readFrame own).Perm (own ++ members.filterMap filed?) := by
  induction members generalizing own with
  | nil => rw [List.filterMap_nil, List.append_nil]; exact List.Perm.refl _
  | cons entry members inductionHypothesis =>
      rw [List.map_cons, List.nodup_cons] at distinct
      have step := readFrame_perm (apart entry List.mem_cons_self)
      have later : ∀ other ∈ members,
          other.1 ∉ (readFrame own entry).map Prod.fst := by
        intro other isOther isKey
        rw [(step.map Prod.fst).mem_iff, List.map_append,
          List.mem_append] at isKey
        rcases isKey with isNew | isOld
        · obtain ⟨filed, isFiled, sameKey⟩ := List.mem_map.mp isNew
          rw [Option.mem_toList] at isFiled
          rw [filed?_key isFiled] at sameKey
          exact distinct.1 (sameKey ▸ List.mem_map_of_mem isOther)
        · exact apart other (List.mem_cons_of_mem _ isOther) isOld
      rw [List.foldl_cons]
      refine (inductionHypothesis distinct.2 later).trans ?_
      have front : (readFrame own entry ++ members.filterMap filed?).Perm
          ((filed? entry).toList ++ own ++ members.filterMap filed?) :=
        step.append_right _
      refine front.trans ?_
      have consEq : (entry :: members).filterMap filed? =
          (filed? entry).toList ++ members.filterMap filed? := by
        rw [List.filterMap_cons]
        cases filed? entry <;> rfl
      rw [consEq, ← List.append_assoc]
      exact List.perm_append_comm.append_right _

theorem cellFrames_perm {metadata' : Option Json}
    (reordered : Reordered metadata metadata') (cellId : JsString) :
    (cellFrames metadata cellId).Perm (cellFrames metadata' cellId) := by
  obtain ⟨members, members', raw, raw', distinct, same⟩ := reordered
  have distinct' : (members'.map Prod.fst).Nodup :=
    (same.map Prod.fst).nodup_iff.mp distinct
  have framesOf (metadata : Option Json) (members : List (JsString × Json))
      (raw : rawRunFrames metadata = some (.object members))
      (distinct : (members.map Prod.fst).Nodup) :
      (runFramesOf metadata).Perm (members.filterMap filed?) := by
    rw [runFramesOf, raw]
    exact foldl_readFrame_perm distinct fun _ _ => List.not_mem_nil
  exact (((framesOf _ _ raw distinct).trans ((same.filterMap filed?).trans
    (framesOf _ _ raw' distinct').symm)).map Prod.snd).filter _

/-- With at most one record of each kind, the frame of a run is determined by
the records. -/
theorem Represents.mem_values_iff_isRunFrame
    (represents : Represents records byRun) (oneOfEach : OneOfEach records) :
    f ∈ byRun.values ↔ IsRunFrame records f := by
  constructor
  · exact fun isValue =>
      represents.frame _ f (represents.mem_values_iff.mp isValue)
  · intro stands
    obtain ⟨g, found⟩ := represents.complete f stands.member
    have sameRun := represents.runId _ g found
    have other := represents.frame _ g found
    have differ : f ≠ g → f.runId = g.runId →
        isTerminal f.status ≠ isTerminal g.status := by
      have forward : records.Pairwise fun f g : RunFrame => f ≠ g →
          f.runId = g.runId → isTerminal f.status ≠ isTerminal g.status := by
        refine oneOfEach.imp ?_
        exact fun {f g} apart (_ : f ≠ g) => apart
      have backward : records.Pairwise fun g f : RunFrame => f ≠ g →
          f.runId = g.runId → isTerminal f.status ≠ isTerminal g.status := by
        refine oneOfEach.imp ?_
        exact fun {g f} apart (_ : f ≠ g) sameRun => (apart sameRun.symm).symm
      exact List.Pairwise.forall_of_forall_of_flip
        (fun _ _ different => absurd rfl different) forward backward
        stands.member other.member
    have same : f = g := by
      by_contra different
      have differs := differ different sameRun.symm
      rcases stands.best with terminal | noneTerminal
      · rcases other.best with otherTerminal | noneTerminal
        · exact differs (terminal.trans otherTerminal.symm)
        · rw [noneTerminal f stands.member sameRun.symm] at terminal
          cases terminal
      · rcases other.best with otherTerminal | otherNone
        · rw [noneTerminal g other.member sameRun] at otherTerminal
          cases otherTerminal
        · rw [noneTerminal f stands.member rfl,
            otherNone g other.member rfl] at differs
          exact differs rfl
    rw [represents.mem_values_iff, same, sameRun]
    exact found

theorem OneOfEach.perm {records' : List RunFrame} (oneOfEach : OneOfEach records)
    (same : records.Perm records') : OneOfEach records' :=
  same.pairwise oneOfEach fun apart sameRun => (apart sameRun.symm).symm

theorem IsRunFrame.perm {records' : List RunFrame}
    (stands : IsRunFrame records f) (same : records.Perm records') :
    IsRunFrame records' f where
  member := same.mem_iff.mp stands.member
  best := stands.best.imp_right fun noneTerminal g isRecord =>
    noneTerminal g (same.mem_iff.mpr isRecord)

theorem values_perm {metadata' : Option Json}
    (reordered : Reordered metadata metadata')
    (oneOfEach : OneOfEach (cellFrames metadata cellId)) :
    (byRunId metadata cellId).values.Perm
      (byRunId metadata' cellId).values := by
  have same := cellFrames_perm reordered cellId
  have represents := represents_byRunId metadata cellId
  have represents' := represents_byRunId metadata' cellId
  rw [List.perm_ext_iff_of_nodup represents.nodup.of_map
    represents'.nodup.of_map]
  intro f
  rw [represents.mem_values_iff_isRunFrame oneOfEach,
    represents'.mem_values_iff_isRunFrame (oneOfEach.perm same)]
  exact ⟨fun stands => stands.perm same, fun stands => stands.perm same.symm⟩

/-- The queries on the same records in another order. -/
theorem queries_reordered {metadata' : Option Json}
    (reordered : Reordered metadata metadata')
    (oneOfEach : OneOfEach (cellFrames metadata cellId)) :
    latestRunFrameForCell metadata' cellId =
        latestRunFrameForCell metadata cellId ∧
      runFrameHistoryForCell metadata' cellId =
        runFrameHistoryForCell metadata cellId ∧
      runCountForCell metadata' cellId = runCountForCell metadata cellId := by
  have same := values_perm reordered oneOfEach
  have represents := represents_byRunId metadata cellId
  have apartDesc : ∀ f ∈ (byRunId metadata cellId).values,
      ∀ g ∈ (byRunId metadata cellId).values, compareStartedAtDesc f g ≤ 0 →
        compareStartedAtDesc g f ≤ 0 → f = g := by
    intro f isFirst g isSecond before behind
    exact represents.eq_of_runId isFirst isSecond
      (runId_eq_of_compare before behind)
  have apartAsc : ∀ f ∈ (byRunId metadata cellId).values.filter
      (fun f => isTerminal f.status), ∀ g ∈ (byRunId metadata cellId).values.filter
      (fun f => isTerminal f.status), compareStartedAtAsc f g ≤ 0 →
        compareStartedAtAsc g f ≤ 0 → f = g := by
    intro f isFirst g isSecond before behind
    rw [compareStartedAtAsc_eq] at before behind
    exact apartDesc f (List.mem_filter.mp isFirst).1 g
      (List.mem_filter.mp isSecond).1 behind before
  have sortedDesc := insertionSort_eq_of_perm apartDesc same
  have sortedAsc := insertionSort_eq_of_perm apartAsc
    (same.filter fun f => isTerminal f.status)
  refine ⟨?_, ?_, ?_⟩
  · rw [latestRunFrameForCell, latestRunFrameForCell, sortedDesc]
  · rw [runFrameHistoryForCell, runFrameHistoryForCell, sortedAsc]
  · have counted := (((cellFrames_perm reordered cellId).map
      RunFrame.runId).dedup).length_eq
    rw [runCountForCell, runCountForCell, ← cellFrames, ← cellFrames, counted]

/-- For any run frames and any cell the history lists different runs in the
order of their starts and ends with the latest frame where that is terminal, the
count adds to it the runs that have running records only, and with at most one
record of each kind for a run no query depends on the order of the map. -/
theorem runQueries_consistent (metadata : Option Json) (cellId : JsString) :
    ((runFrameHistoryForCell metadata cellId).map RunFrame.runId).Nodup ∧
      (runFrameHistoryForCell metadata cellId).Pairwise
        (fun a b => a.startedAt ≤ b.startedAt) ∧
      (∀ latest, latestRunFrameForCell metadata cellId = some latest →
        isTerminal latest.status = true →
          (runFrameHistoryForCell metadata cellId).getLast? = some latest) ∧
      runCountForCell metadata cellId =
        (runFrameHistoryForCell metadata cellId).length +
          (onlyRunningIds metadata cellId).length ∧
      ∀ metadata', Reordered metadata metadata' →
        OneOfEach (cellFrames metadata cellId) →
          latestRunFrameForCell metadata' cellId =
              latestRunFrameForCell metadata cellId ∧
            runFrameHistoryForCell metadata' cellId =
              runFrameHistoryForCell metadata cellId ∧
            runCountForCell metadata' cellId =
              runCountForCell metadata cellId :=
  ⟨history_nodup metadata cellId,
    (history_sorted metadata cellId).imp startedAt_le_of_compare,
    fun _ => history_getLast?, runCount_eq metadata cellId,
    fun _ => queries_reordered⟩

/-- A record of the cell `c`. -/
def sampleRecord (runId status startedAt : JsString) : Json :=
  .object
    [(js "run_id", .string runId), (js "cell_id", .string (js "c")),
      (js "status", .string status), (js "started_at", .string startedAt)]

/-- The metadata with some run frames. -/
def withRunFrames (members : List (JsString × Json)) : Option Json :=
  some (.object [(js "rts", .object [(js "zone", .object
    [(js "run_frames", .object members)])])])

/-- A run with a record of each kind, under two keys. -/
def sampleMembers : List (JsString × Json) :=
  [(js "k1", sampleRecord (js "r") (js "running") (js "1")),
    (js "k2", sampleRecord (js "r") (js "complete") (js "2"))]

/-- The two records in either order give the same latest frame. -/
theorem sample_reordered :
    latestRunFrameForCell (withRunFrames sampleMembers.reverse) (js "c") =
      latestRunFrameForCell (withRunFrames sampleMembers) (js "c") :=
  ((runQueries_consistent (withRunFrames sampleMembers)
    (js "c")).2.2.2.2 (withRunFrames sampleMembers.reverse)
      ⟨sampleMembers, sampleMembers.reverse, rfl, rfl, by decide,
        (List.reverse_perm _).symm⟩
      (by unfold OneOfEach; decide +kernel)).1

end

end RtsNotebook.Inspect
