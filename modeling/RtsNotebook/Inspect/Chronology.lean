import RtsNotebook.Inspect.RunQueries
import RtsNotebook.Js.UtcStamp

/-!
# Runs in the order of time

The queries compare the starts of the runs as strings.  With stamps of different
precision the order of the strings is not that of the instants.
-/

namespace RtsNotebook.Inspect

open RtsNotebook.Js RtsNotebook.Library

/-- The frame of each run of a cell. -/
def runsOf (metadata : Option Json) (cellId : JsString) : List RunFrame :=
  (byRunId metadata cellId).values

/-- The start of the first frame is not later than that of the second one. -/
def NotLater (f g : RunFrame) : Prop :=
  ∃ stamp other : UtcStamp, f.startedAt = stamp.text ∧
    g.startedAt = other.text ∧ stamp.instant ≤ other.instant

/-- The latest frame of a cell with runs starts last, and its history is in the
order of the starts. -/
structure Chronological (metadata : Option Json) (cellId : JsString) :
    Prop where
  latest : ∀ run ∈ runsOf metadata cellId, ∃ latest,
    latestRunFrameForCell metadata cellId = some latest ∧ NotLater run latest
  history : (runFrameHistoryForCell metadata cellId).Pairwise NotLater

/-- The stamp of the second frame adds digits to that of the first one. -/
def IsRefinedBy (f g : RunFrame) : Prop :=
  ∃ finer coarser : UtcStamp, f.startedAt = coarser.text ∧
    g.startedAt = finer.text ∧ finer.Refines coarser

/-- Every start in the map is a timestamp in UTC. -/
def IsStamped (metadata : Option Json) : Prop :=
  ∀ entry ∈ runFramesOf metadata, ∃ stamp : UtcStamp,
    entry.2.startedAt = stamp.text

section

variable {metadata : Option Json} {cellId : JsString} {f g : RunFrame}

theorem cellId_ne_nil_of_run (isRun : f ∈ runsOf metadata cellId) :
    cellId ≠ [] := by
  rintro rfl
  have represents := represents_byRunId metadata []
  have stands := represents.frame _ f (represents.mem_values_iff.mp isRun)
  have isRecord := stands.member
  rw [cellFrames_nil] at isRecord
  cases isRecord

theorem exists_stamp (stamped : IsStamped metadata)
    (isRun : f ∈ runsOf metadata cellId) :
    ∃ stamp : UtcStamp, f.startedAt = stamp.text := by
  have represents := represents_byRunId metadata cellId
  have stands := represents.frame _ f (represents.mem_values_iff.mp isRun)
  have isValue := (List.mem_filter.mp stands.member).1
  obtain ⟨entry, isEntry, rfl⟩ := List.mem_map.mp isValue
  exact stamped entry isEntry

theorem exists_latest (isRun : f ∈ runsOf metadata cellId) :
    ∃ latest, latestRunFrameForCell metadata cellId = some latest := by
  rw [latestRunFrameForCell, if_neg (cellId_ne_nil_of_run isRun)]
  cases sorted : (byRunId metadata cellId).values.insertionSort
      fun a b => compareStartedAtDesc a b ≤ 0 with
  | nil =>
      have isMember := (List.mem_insertionSort
        fun a b => compareStartedAtDesc a b ≤ 0).mpr isRun
      rw [runsOf, sorted] at isMember
      cases isMember
  | cons latest others => exact ⟨latest, rfl⟩

/-- No start is a greater string than that of the latest frame. -/
theorem not_lt_latest {latest : RunFrame}
    (isLatest : latestRunFrameForCell metadata cellId = some latest)
    (isRun : f ∈ runsOf metadata cellId) :
    latest ∈ runsOf metadata cellId ∧ ¬ latest.startedAt < f.startedAt := by
  obtain ⟨inRuns, before⟩ :=
    (latest_iff (cellId_ne_nil_of_run isRun)).mp isLatest
  refine ⟨inRuns, ?_⟩
  rcases compareStartedAtDesc_nonpos.mp (before f isRun) with
    less | ⟨sameStart, _⟩
  · exact List.lt_asymm less
  · rw [sameStart]
    exact List.lt_irrefl _

/-- A start that is not greater as a string is not later, unless its stamp adds
digits. -/
theorem isRefinedBy_or_notLater (stamped : IsStamped metadata)
    (isF : f ∈ runsOf metadata cellId) (isG : g ∈ runsOf metadata cellId)
    (notGreater : ¬ g.startedAt < f.startedAt) :
    IsRefinedBy g f ∨ NotLater f g := by
  obtain ⟨stamp, isStamp⟩ := exists_stamp stamped isF
  obtain ⟨other, isOther⟩ := exists_stamp stamped isG
  rw [isStamp, isOther] at notGreater
  rcases UtcStamp.refines_or_instant_le notGreater with refines | notLater
  · exact Or.inl ⟨stamp, other, isOther, isStamp, refines⟩
  · exact Or.inr ⟨stamp, other, isStamp, isOther, notLater⟩

/-- A frame with the same start as one that is refined is the greater string and
the earlier start. -/
theorem IsRefinedBy.not_notLater (refined : IsRefinedBy f g) :
    g.startedAt < f.startedAt ∧
      ∀ h : RunFrame, h.startedAt = f.startedAt → ¬ NotLater g h := by
  obtain ⟨finer, coarser, isCoarser, isFiner, refines⟩ := refined
  refine ⟨by rw [isFiner, isCoarser]; exact refines.text_lt, ?_⟩
  rintro h sameStart ⟨stamp, other, isStamp, isOther, notLater⟩
  have sameFiner := UtcStamp.instant_eq_of_text_eq (isFiner.symm.trans isStamp)
  have sameCoarser := UtcStamp.instant_eq_of_text_eq
    (isCoarser.symm.trans (sameStart.symm.trans isOther))
  rw [← sameFiner, ← sameCoarser] at notLater
  exact absurd refines.instant_lt (not_lt_of_ge notLater)

/-- A history in the order of the instants holds no two runs of which one refines
the other. -/
theorem Chronological.running (chronological : Chronological metadata cellId)
    (isF : f ∈ runsOf metadata cellId) (isG : g ∈ runsOf metadata cellId)
    (refined : IsRefinedBy f g) :
    isTerminal f.status = false ∨ isTerminal g.status = false := by
  obtain ⟨less, later⟩ := refined.not_notLater
  have nonempty := cellId_ne_nil_of_run isF
  by_contra terminal
  rw [not_or, Bool.not_eq_false, Bool.not_eq_false] at terminal
  have inHistory := (mem_history_iff nonempty).mpr ⟨isF, terminal.1⟩
  have alsoInHistory := (mem_history_iff nonempty).mpr ⟨isG, terminal.2⟩
  have ordered := (history_sorted metadata cellId).imp startedAt_le_of_compare
  have different : g ≠ f := by
    rintro rfl
    exact List.lt_irrefl _ less
  rcases related_of_pairwise (ordered.and chronological.history)
      alsoInHistory inHistory different with
    ⟨_, notLater⟩ | ⟨notGreater, _⟩
  · exact later f rfl notLater
  · exact notGreater less

/-- A run that another one refines does not count as the latest. -/
theorem Chronological.exists_greater
    (chronological : Chronological metadata cellId)
    (isF : f ∈ runsOf metadata cellId) (isG : g ∈ runsOf metadata cellId)
    (refined : IsRefinedBy f g) :
    ∃ h ∈ runsOf metadata cellId, f.startedAt < h.startedAt := by
  obtain ⟨_, later⟩ := refined.not_notLater
  by_contra greatest
  push Not at greatest
  obtain ⟨latest, isLatest, notLater⟩ := chronological.latest g isG
  obtain ⟨inRuns, notLess⟩ := not_lt_latest isLatest isF
  have sameStart : latest.startedAt = f.startedAt :=
    List.le_antisymm (greatest latest inRuns) notLess
  exact later latest sameStart notLater

/-- For run frames whose starts are timestamps in UTC, the queries follow the
order of the instants if and only if of two runs of the cell, the stamp of one of
which adds digits to the stamp of the other that are not all zero, one is still
running, and the one with fewer digits is not the run with the greatest
string. -/
theorem chronological_iff (stamped : IsStamped metadata) :
    Chronological metadata cellId ↔
      ∀ f ∈ runsOf metadata cellId, ∀ g ∈ runsOf metadata cellId,
        IsRefinedBy f g →
          (isTerminal f.status = false ∨ isTerminal g.status = false) ∧
            ∃ h ∈ runsOf metadata cellId, f.startedAt < h.startedAt := by
  constructor
  · intro chronological f isF g isG refined
    exact ⟨chronological.running isF isG refined,
      chronological.exists_greater isF isG refined⟩
  · intro condition
    constructor
    · intro run isRun
      obtain ⟨latest, isLatest⟩ := exists_latest isRun
      obtain ⟨inRuns, notLess⟩ := not_lt_latest isLatest isRun
      refine ⟨latest, isLatest, ?_⟩
      rcases isRefinedBy_or_notLater stamped isRun inRuns notLess with
        refined | notLater
      · obtain ⟨_, h, isH, greater⟩ :=
          condition latest inRuns run isRun refined
        exact absurd greater (not_lt_latest isLatest isH).2
      · exact notLater
    · refine List.Pairwise.imp_of_mem ?_ (history_sorted metadata cellId)
      intro a b isA isB before
      have nonempty : cellId ≠ [] := by
        rintro rfl
        cases isA
      obtain ⟨inRuns, terminal⟩ := (mem_history_iff nonempty).mp isA
      obtain ⟨alsoInRuns, alsoTerminal⟩ := (mem_history_iff nonempty).mp isB
      rcases isRefinedBy_or_notLater stamped inRuns alsoInRuns
          (startedAt_le_of_compare before) with refined | notLater
      · rcases (condition b alsoInRuns a inRuns refined).1 with
          running | running
        · rw [alsoTerminal] at running
          cases running
        · rw [terminal] at running
          cases running
      · exact notLater

end

/-- A stamp of ten o'clock, with some digits. -/
def atTen (fraction : List (Fin 10)) : UtcStamp where
  year := 2026
  month := 5
  day := 19
  hour := 10
  minute := 0
  second := 0
  fraction := fraction
  year_lt := by decide
  month_pos := by decide
  month_le := by decide
  day_pos := by decide
  day_le := by decide
  hour_le := by decide
  minute_lt := by decide
  second_le := by decide
  midnight := fun isMidnight => absurd isMidnight (by decide)

/-- Two complete runs that start within one second. -/
def withinSecond (first second : List (Fin 10)) : Option Json :=
  withRunFrames
    [(js "k1", sampleRecord (js "r1") (js "complete") (atTen first).text),
      (js "k2", sampleRecord (js "r2") (js "complete") (atTen second).text)]

theorem isStamped_withinSecond (first second : List (Fin 10))
    (starts : (runFramesOf (withinSecond first second)).map
      (fun entry => entry.2.startedAt) =
        [(atTen first).text, (atTen second).text]) :
    IsStamped (withinSecond first second) := by
  intro entry isEntry
  have isStart := List.mem_map_of_mem
    (f := fun entry : JsString × RunFrame => entry.2.startedAt) isEntry
  rw [starts] at isStart
  simp only [List.mem_cons, List.not_mem_nil, or_false] at isStart
  rcases isStart with isStart | isStart
  · exact ⟨_, isStart⟩
  · exact ⟨_, isStart⟩

/-- Two stamps of different precision, neither of which adds digits to the
other. -/
theorem quarter_chronological :
    Chronological (withinSecond [2, 5] [5]) (js "c") := by
  have starts : (runsOf (withinSecond [2, 5] [5]) (js "c")).map
      RunFrame.startedAt = [(atTen [2, 5]).text, (atTen [5]).text] := by
    decide +kernel
  have isStart : ∀ f ∈ runsOf (withinSecond [2, 5] [5]) (js "c"),
      f.startedAt = (atTen [2, 5]).text ∨ f.startedAt = (atTen [5]).text := by
    intro f isRun
    have isStart := List.mem_map_of_mem (f := RunFrame.startedAt) isRun
    rw [starts] at isStart
    simpa using isStart
  have stamped := isStamped_withinSecond [2, 5] [5] (by decide +kernel)
  refine (chronological_iff stamped).mpr ?_
  intro f isF g isG refined
  obtain ⟨less, later⟩ := refined.not_notLater
  have notLater : ∀ first second : List (Fin 10),
      (atTen first).instant ≤ (atTen second).instant →
        g.startedAt = (atTen first).text →
          f.startedAt ≠ (atTen second).text :=
    fun _ _ before startsG startsF =>
      later f rfl ⟨_, _, startsG, startsF, before⟩
  have quarterFirst : (atTen [2, 5]).instant ≤ (atTen [5]).instant :=
    UtcStamp.instant_le_of_whole_eq rfl
      (by norm_num [atTen, fractionValue])
  rcases isStart f isF with startsF | startsF
  · rcases isStart g isG with startsG | startsG
    · exact absurd startsF (notLater _ _ le_rfl startsG)
    · rw [startsF, startsG] at less
      exact absurd less (by decide)
  · rcases isStart g isG with startsG | startsG
    · exact absurd startsF (notLater _ _ quarterFirst startsG)
    · exact absurd startsF (notLater _ _ le_rfl startsG)

/-- Of a run on the second and one half a second later, the earlier one counts as
the latest. -/
theorem halfSecond_not_chronological :
    ¬ ∀ (metadata : Option Json) (cellId : JsString),
      IsStamped metadata → Chronological metadata cellId := by
  intro always
  have stamped := isStamped_withinSecond [] [5] (by decide +kernel)
  have chronological := always (withinSecond [] [5]) (js "c") stamped
  obtain ⟨later, isLater, startsLater⟩ :
      ∃ run ∈ runsOf (withinSecond [] [5]) (js "c"),
        run.startedAt = (atTen [5]).text := by
    have starts : (atTen [5]).text ∈
        (runsOf (withinSecond [] [5]) (js "c")).map RunFrame.startedAt := by
      decide +kernel
    exact List.mem_map.mp starts
  obtain ⟨latest, isLatest, notLater⟩ := chronological.latest later isLater
  have startsFirst : (latestRunFrameForCell (withinSecond [] [5])
      (js "c")).map RunFrame.startedAt = some (atTen []).text := by
    decide +kernel
  rw [isLatest, Option.map_some, Option.some.injEq] at startsFirst
  have refines : (atTen [5]).Refines (atTen []) :=
    ⟨rfl, [5], rfl, 5, List.mem_singleton_self _, by decide⟩
  have refined : IsRefinedBy latest later :=
    ⟨_, _, startsFirst, startsLater, refines⟩
  exact refined.not_notLater.2 latest rfl notLater

end RtsNotebook.Inspect
