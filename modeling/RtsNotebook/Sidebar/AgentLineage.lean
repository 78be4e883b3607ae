import Mathlib.Algebra.Order.Field.Rat
import RtsNotebook.Library.OrderedMap
import RtsNotebook.Library.StableSort
import RtsNotebook.Sidebar.InFlight

/-!
# The lineage of agents

The forks in the event log of a snapshot, as a map from each branch to its fork
and a map from each source to its branches.
-/

namespace RtsNotebook.Sidebar

open RtsNotebook.Js RtsNotebook.Library RtsNotebook.Messaging

/-! ### The records of the log -/

/-- The label of a fork: at the head or at an ancestor. -/
inductive ForkCase where
  | A
  | B
  deriving DecidableEq

/-- `ForkRecord`; the time is `0` where it is unknown. -/
structure ForkRecord where
  branchAgentId : JsString
  sourceAgentId : JsString
  atTurnId : Option JsString
  caseLabel : Option ForkCase
  timestampMs : ℚ
  deriving DecidableEq

/-- The value of a finite number. -/
def decimalValue (decimal : Decimal) : ℚ :=
  let magnitude := (decimal.digits : ℚ) * (10 : ℚ) ^ decimal.exponent
  if decimal.negative then -magnitude else magnitude

/-- `readTimestampMs`.  A date that cannot be read gives `0` as well. -/
def readTimestampMs (dateParse : DateParse) (env : Json) : ℚ :=
  match env.member? (js "created_at") with
  | some (.string createdAt) => ((dateParse createdAt).getD 0 : Int)
  | _ =>
      match env.member? (js "ts") with
      | some (.number (.finite decimal)) => decimalValue decimal
      | some (.string ts) => ((dateParse ts).getD 0 : Int)
      | _ => 0

/-- `value.key === text` -/
def hasText (value : Json) (key text : JsString) : Bool :=
  (value.member? key).bind Json.asString? = some text

/-- A string that is not empty. -/
def nonEmptyText? (value : Json) (key : JsString) : Option JsString :=
  ((value.member? key).bind Json.asString?).filter fun text => text ≠ []

/-- `rawCase === 'A' || rawCase === 'B' ? rawCase : undefined` -/
def forkCase? (params : Json) : Option ForkCase :=
  if hasText params (js "case") (js "A") then
    some .A
  else if hasText params (js "case") (js "B") then
    some .B
  else
    none

/-- `extractForkRecord` -/
def extractForkRecord (dateParse : DateParse) (entry : Json) :
    Option ForkRecord := do
  guard (isObject entry)
  guard (!hasText entry (js "kind") (js "agent_ref_move"))
  guard (hasText entry (js "message_type") (js "operator.action"))
  let payload ← (entry.member? (js "payload")).filter isObject
  guard (hasText payload (js "action_type") (js "zone_mutate"))
  let params ← (payload.member? (js "parameters")).filter isObject
  guard (hasText params (js "intent_kind") (js "fork_agent"))
  let sourceAgentId ← nonEmptyText? params (js "source_agent_id")
  let branchAgentId ← nonEmptyText? params (js "new_agent_id")
  pure
    { branchAgentId := branchAgentId
      sourceAgentId := sourceAgentId
      atTurnId := nonEmptyText? params (js "at_turn_id")
      caseLabel := forkCase? params
      timestampMs := readTimestampMs dateParse entry }

/-- `snapshot?.zone?.event_log ?? []`, as far as it can be iterated; `none`
stands for the `TypeError`.  The characters of a string are no records. -/
def eventLog? (snapshot : Option RtsSnapshot) : Option (List Json) :=
  match (snapshot.bind fun rts => rts.lookup (js "zone")).bind
      fun zone => zone.member? (js "event_log") with
  | none => some []
  | some .null => some []
  | some (.array log) => some log
  | some (.string _) => some []
  | some _ => none

/-! ### The maps -/

/-- `AgentLineage` -/
structure AgentLineage where
  parents : OrderedMap JsString ForkRecord
  children : OrderedMap JsString (List ForkRecord)

namespace AgentLineage

def empty : AgentLineage where
  parents := .empty
  children := .empty

/-- The forward map keeps the first record of a branch. -/
def fileParent (parents : OrderedMap JsString ForkRecord) (rec : ForkRecord) :
    OrderedMap JsString ForkRecord :=
  if parents.has rec.branchAgentId then
    parents
  else
    parents.set rec.branchAgentId rec

/-- The bucket of a source takes every record. -/
def fileChild (children : OrderedMap JsString (List ForkRecord))
    (rec : ForkRecord) : OrderedMap JsString (List ForkRecord) :=
  match children.get rec.sourceAgentId with
  | some bucket => children.set rec.sourceAgentId (bucket ++ [rec])
  | none => children.set rec.sourceAgentId [rec]

/-- One round of the loop over the log. -/
def fileEntry (dateParse : DateParse) (lineage : AgentLineage) (entry : Json) :
    AgentLineage :=
  match extractForkRecord dateParse entry with
  | none => lineage
  | some rec =>
      { parents := fileParent lineage.parents rec
        children := fileChild lineage.children rec }

end AgentLineage

/-- `Number.MAX_SAFE_INTEGER` -/
def MAX_SAFE_INTEGER : ℚ :=
  9007199254740991

/-- `timestampMs || Number.MAX_SAFE_INTEGER` -/
def sortTime (rec : ForkRecord) : ℚ :=
  if rec.timestampMs = 0 then MAX_SAFE_INTEGER else rec.timestampMs

/-- The comparison of two records.  Rounding keeps the sign of a difference. -/
def compareForks (a b : ForkRecord) : ℚ :=
  sortTime a - sortTime b

/-- `bucket.sort(...)` -/
def sortBucket (bucket : List ForkRecord) : List ForkRecord :=
  bucket.insertionSort fun a b => compareForks a b ≤ 0

/-- `buildAgentLineage`; `none` stands for a log that cannot be iterated. -/
def buildAgentLineage (dateParse : DateParse)
    (snapshot : Option RtsSnapshot) : Option AgentLineage := do
  let log ← eventLog? snapshot
  let filed := log.foldl (AgentLineage.fileEntry dateParse) .empty
  pure { filed with children := filed.children.mapValues sortBucket }

/-! ### What the maps hold -/

section

variable {dateParse : DateParse} {snapshot : Option RtsSnapshot}
  {lineage : AgentLineage} {records bucket : List ForkRecord}
  {rec first second : ForkRecord} {source branch : JsString}

/-- The fork records of a log. -/
def forkRecords (dateParse : DateParse) (snapshot : Option RtsSnapshot) :
    List ForkRecord :=
  ((eventLog? snapshot).getD []).filterMap (extractForkRecord dateParse)

/-- The branches of a source. -/
def AgentLineage.childrenOf (lineage : AgentLineage) (source : JsString) :
    List ForkRecord :=
  (lineage.children.get source).getD []

/-- The loop files the records one by one. -/
theorem AgentLineage.foldl_fileEntry (log : List Json) :
    log.foldl (fileEntry dateParse) lineage =
      { parents := (log.filterMap (extractForkRecord dateParse)).foldl
          fileParent lineage.parents
        children := (log.filterMap (extractForkRecord dateParse)).foldl
          fileChild lineage.children } := by
  induction log generalizing lineage with
  | nil => rfl
  | cons entry rest inductionHypothesis =>
      rw [List.foldl_cons, inductionHypothesis, fileEntry]
      cases extracted : extractForkRecord dateParse entry with
      | none => rw [List.filterMap_cons_none extracted]
      | some rec => rw [List.filterMap_cons_some extracted]; rfl

/-- The forward map holds the first record of each branch. -/
theorem get_foldl_fileParent
    (parents : OrderedMap JsString ForkRecord) :
    (records.foldl AgentLineage.fileParent parents).get branch =
      (parents.get branch).or
        (records.find? fun rec => rec.branchAgentId = branch) := by
  induction records generalizing parents with
  | nil => simp
  | cons rec rest inductionHypothesis =>
      rw [List.foldl_cons, inductionHypothesis, AgentLineage.fileParent]
      by_cases same : rec.branchAgentId = branch
      · subst same
        cases present : parents.get rec.branchAgentId with
        | some held => simp [OrderedMap.has, present]
        | none => simp [OrderedMap.has, present]
      · rw [List.find?_cons_of_neg (by simpa using same)]
        by_cases held : parents.has rec.branchAgentId = true
        · rw [if_pos held]
        · rw [if_neg held, OrderedMap.get_set_of_ne _ _ (Ne.symm same)]

/-- The bucket of a source holds its records, as the log has them. -/
theorem get_foldl_fileChild
    (children : OrderedMap JsString (List ForkRecord)) :
    ((records.foldl AgentLineage.fileChild children).get source).getD [] =
      (children.get source).getD [] ++
        records.filter fun rec => rec.sourceAgentId = source := by
  induction records generalizing children with
  | nil => simp
  | cons rec rest inductionHypothesis =>
      rw [List.foldl_cons, inductionHypothesis, AgentLineage.fileChild]
      by_cases same : rec.sourceAgentId = source
      · subst same
        cases present : children.get rec.sourceAgentId with
        | some held => simp
        | none => simp
      · rw [List.filter_cons_of_neg (by simpa using same)]
        cases present : children.get rec.sourceAgentId with
        | some held =>
            simp only [OrderedMap.get_set_of_ne _ _ (Ne.symm same)]
        | none =>
            simp only [OrderedMap.get_set_of_ne _ _ (Ne.symm same)]

/-- The parent of a branch is its first record in the log. -/
theorem parents_eq (built : buildAgentLineage dateParse snapshot = some lineage) :
    lineage.parents.get branch =
      (forkRecords dateParse snapshot).find?
        fun rec => rec.branchAgentId = branch := by
  unfold buildAgentLineage at built
  unfold forkRecords
  cases isLog : eventLog? snapshot with
  | none =>
      rw [isLog] at built
      cases built
  | some log =>
      rw [isLog] at built
      cases built
      rw [AgentLineage.foldl_fileEntry, get_foldl_fileParent]
      rfl

/-- The children of a source are all its records, sorted. -/
theorem childrenOf_eq
    (built : buildAgentLineage dateParse snapshot = some lineage) :
    lineage.childrenOf source =
      sortBucket ((forkRecords dateParse snapshot).filter
        fun rec => rec.sourceAgentId = source) := by
  unfold buildAgentLineage at built
  unfold forkRecords
  cases isLog : eventLog? snapshot with
  | none =>
      rw [isLog] at built
      cases built
  | some log =>
      rw [isLog] at built
      cases built
      have filed := @get_foldl_fileChild
        (log.filterMap (extractForkRecord dateParse)) source .empty
      rw [AgentLineage.foldl_fileEntry, AgentLineage.childrenOf,
        OrderedMap.get_mapValues]
      rw [OrderedMap.get_empty, Option.getD_none, List.nil_append] at filed
      rw [Option.getD_some, ← filed]
      exact Option.getD_map sortBucket [] _

/-! ### Branches and their sources -/

/-- No two records of the log fork one branch. -/
def SingleForks (records : List ForkRecord) : Prop :=
  (records.map ForkRecord.branchAgentId).Nodup

/-- A branch stands once among the children of its source and not among those
of another agent. -/
def AgentLineage.IsInverse (lineage : AgentLineage) : Prop :=
  ∀ source branch : JsString,
    ((lineage.childrenOf source).map ForkRecord.branchAgentId).count branch =
      if (lineage.parents.get branch).any
          fun rec => rec.sourceAgentId = source then 1 else 0

/-- How often a branch stands among the children of a source. -/
theorem count_childrenOf
    (built : buildAgentLineage dateParse snapshot = some lineage) :
    ((lineage.childrenOf source).map ForkRecord.branchAgentId).count branch =
      (forkRecords dateParse snapshot).countP fun rec =>
        rec.branchAgentId = branch ∧ rec.sourceAgentId = source := by
  rw [childrenOf_eq built, sortBucket]
  rw [((List.perm_insertionSort _ _).map ForkRecord.branchAgentId).count_eq]
  rw [List.count_eq_countP, List.countP_map, List.countP_filter]
  refine List.countP_congr fun rec _ => ?_
  simp

/-- With one fork for each branch, the first record of a branch is its only
one. -/
theorem countP_of_singleForks (single : SingleForks records) :
    records.countP (fun rec =>
        rec.branchAgentId = branch ∧ rec.sourceAgentId = source) =
      if (records.find? fun rec => rec.branchAgentId = branch).any
          fun rec => rec.sourceAgentId = source then 1 else 0 := by
  have same : ∀ rec ∈ records, ∀ other ∈ records,
      rec.branchAgentId = other.branchAgentId → rec = other :=
    fun rec isRec other isOther => List.inj_on_of_nodup_map single isRec isOther
  cases found : records.find? fun rec => rec.branchAgentId = branch with
  | none =>
      have absent := List.find?_eq_none.mp found
      rw [Option.any_none, if_neg Bool.false_ne_true, List.countP_eq_zero]
      intro rec isRec both
      exact absent rec isRec (by simpa using (of_decide_eq_true both).1)
  | some first =>
      have isFirst := List.mem_of_find?_eq_some found
      have isFound := List.find?_some found
      have isBranch : first.branchAgentId = branch :=
        of_decide_eq_true isFound
      by_cases isSource : first.sourceAgentId = source
      · rw [if_pos (by simpa using isSource)]
        have atMost : records.countP (fun rec =>
            rec.branchAgentId = branch ∧ rec.sourceAgentId = source) ≤
              (records.map ForkRecord.branchAgentId).count branch := by
          rw [List.count_eq_countP, List.countP_map]
          refine List.countP_mono_left fun rec _ both => ?_
          simpa using (of_decide_eq_true both).1
        have once := List.nodup_iff_count_le_one.mp single branch
        have atLeast : 0 < records.countP (fun rec =>
            rec.branchAgentId = branch ∧ rec.sourceAgentId = source) :=
          List.countP_pos_iff.mpr
            ⟨first, isFirst, decide_eq_true ⟨isBranch, isSource⟩⟩
        omega
      · rw [if_neg (by simpa using isSource), List.countP_eq_zero]
        intro rec isRec both
        obtain ⟨sameBranch, sameSource⟩ := of_decide_eq_true both
        rw [same rec isRec first isFirst (sameBranch.trans isBranch.symm)]
          at sameSource
        exact isSource sameSource

theorem isInverse_iff
    (built : buildAgentLineage dateParse snapshot = some lineage) :
    lineage.IsInverse ↔ SingleForks (forkRecords dateParse snapshot) := by
  unfold AgentLineage.IsInverse
  simp only [count_childrenOf built, parents_eq built]
  refine ⟨fun inverse => ?_, fun single source branch =>
    countP_of_singleForks single⟩
  refine List.nodup_iff_count_le_one.mpr fun branch => ?_
  rw [List.count_eq_countP, List.countP_map]
  cases found : (forkRecords dateParse snapshot).find?
      fun rec => rec.branchAgentId = branch with
  | none =>
      refine le_of_eq_of_le (List.countP_eq_zero.mpr ?_) (Nat.zero_le 1)
      intro rec isRec isBranch
      exact List.find?_eq_none.mp found rec isRec (by simpa using isBranch)
  | some first =>
      -- Every record of the branch has the source of the first one.
      have oneSource : ∀ rec ∈ forkRecords dateParse snapshot,
          rec.branchAgentId = branch →
            first.sourceAgentId = rec.sourceAgentId := by
        intro rec isRec isBranch
        by_contra different
        have counted := inverse rec.sourceAgentId branch
        rw [found, if_neg (by simpa using different)] at counted
        exact List.countP_eq_zero.mp counted rec isRec
          (decide_eq_true ⟨isBranch, rfl⟩)
      have counted := inverse first.sourceAgentId branch
      rw [found, if_pos (by simp)] at counted
      refine le_of_eq (Eq.trans (List.countP_congr fun rec isRec => ?_) counted)
      have sameSource := oneSource rec isRec
      simp only [Function.comp_apply, beq_iff_eq, decide_eq_true_eq]
      constructor
      · exact fun isBranch => ⟨isBranch, (sameSource isBranch).symm⟩
      · exact And.left

/-! ### The order of the branches -/

/-- The first record may stand before the second one: their times are in order,
and an unknown time stands behind the known ones. -/
def NotAfter (first second : ForkRecord) : Prop :=
  second.timestampMs = 0 ∨
    first.timestampMs ≠ 0 ∧ first.timestampMs ≤ second.timestampMs

/-- The children of each agent are in the order of their times, and records of
one time in the order of the log. -/
structure AgentLineage.IsChronological (lineage : AgentLineage)
    (records : List ForkRecord) : Prop where
  times : ∀ source, (lineage.childrenOf source).Pairwise NotAfter
  log : ∀ source time,
    (lineage.childrenOf source).filter (fun rec => rec.timestampMs = time) =
      records.filter fun rec =>
        rec.sourceAgentId = source ∧ rec.timestampMs = time

/-- Of two records in the order of the log, a known time is below the number that
stands for an unknown one, or not above it where the known one comes first. -/
structure KeepsUnknownLast (earlier later : ForkRecord) : Prop where
  unknownFirst : earlier.timestampMs = 0 → later.timestampMs ≠ 0 →
    later.timestampMs < MAX_SAFE_INTEGER
  knownFirst : earlier.timestampMs ≠ 0 → later.timestampMs = 0 →
    earlier.timestampMs ≤ MAX_SAFE_INTEGER

theorem compareForks_nonpos :
    compareForks first second ≤ 0 ↔ sortTime first ≤ sortTime second :=
  sub_nonpos

instance : Std.Total fun a b => compareForks a b ≤ 0 where
  total a b := by
    rw [compareForks_nonpos, compareForks_nonpos]
    exact le_total _ _

instance : IsTrans ForkRecord fun a b => compareForks a b ≤ 0 where
  trans a b c := by
    rw [compareForks_nonpos, compareForks_nonpos, compareForks_nonpos]
    exact le_trans

theorem sortTime_of_unknown (unknown : rec.timestampMs = 0) :
    sortTime rec = MAX_SAFE_INTEGER :=
  if_pos unknown

theorem sortTime_of_known (known : rec.timestampMs ≠ 0) :
    sortTime rec = rec.timestampMs :=
  if_neg known

/-- In which order two records of a source may be sorted. -/
theorem notAfter_of_sorted
    (sorted : sortTime first ≤ sortTime second)
    (atMost : first.timestampMs = 0 → second.timestampMs ≠ 0 →
      second.timestampMs ≤ MAX_SAFE_INTEGER)
    (notEqual : sortTime second ≤ sortTime first →
      first.timestampMs = 0 → second.timestampMs ≠ 0 →
        second.timestampMs < MAX_SAFE_INTEGER) :
    NotAfter first second := by
  by_cases secondUnknown : second.timestampMs = 0
  · exact Or.inl secondUnknown
  · refine Or.inr ?_
    rw [sortTime_of_known secondUnknown] at sorted notEqual
    by_cases firstUnknown : first.timestampMs = 0
    · rw [sortTime_of_unknown firstUnknown] at sorted notEqual
      have bound := atMost firstUnknown secondUnknown
      exact absurd (notEqual bound firstUnknown secondUnknown)
        (not_lt_of_ge sorted)
    · rw [sortTime_of_known firstUnknown] at sorted
      exact ⟨firstUnknown, sorted⟩

theorem pairwise_notAfter_sortBucket (keeps : bucket.Pairwise KeepsUnknownLast) :
    (sortBucket bucket).Pairwise NotAfter := by
  have atMost : ∀ first ∈ bucket, ∀ second ∈ bucket,
      (first.timestampMs = 0 → second.timestampMs ≠ 0 →
        second.timestampMs ≤ MAX_SAFE_INTEGER) ∧
      (second.timestampMs = 0 → first.timestampMs ≠ 0 →
        first.timestampMs ≤ MAX_SAFE_INTEGER) := by
    intro first isFirst second isSecond
    by_cases same : first = second
    · rw [same]
      exact ⟨fun unknown known => absurd unknown known,
        fun unknown known => absurd unknown known⟩
    · rcases related_of_pairwise keeps isFirst isSecond same with
        related | related
      · exact ⟨fun unknown known => (related.unknownFirst unknown known).le,
          fun unknown known => related.knownFirst known unknown⟩
      · exact ⟨fun unknown known => related.knownFirst known unknown,
          fun unknown known => (related.unknownFirst unknown known).le⟩
  refine List.Pairwise.imp_of_mem ?_ (pairwise_insertionSort_and keeps)
  intro first second isFirst isSecond both
  rw [compareForks_nonpos, compareForks_nonpos] at both
  have inBucket := (List.mem_insertionSort _).mp isFirst
  have alsoInBucket := (List.mem_insertionSort _).mp isSecond
  exact notAfter_of_sorted both.1
    (atMost first inBucket second alsoInBucket).1
    fun goesBack => (both.2 goesBack).unknownFirst

theorem keepsUnknownLast_of_pairwise
    (sorted : (sortBucket bucket).Pairwise NotAfter) :
    bucket.Pairwise KeepsUnknownLast := by
  refine List.pairwise_iff_forall_sublist.mpr fun {earlier later} inOrder => ?_
  constructor
  · intro unknown known
    by_contra notBelow
    have ordered : [earlier, later].Pairwise
        fun a b => compareForks a b ≤ 0 := by
      rw [List.pairwise_pair, compareForks_nonpos, sortTime_of_unknown unknown,
        sortTime_of_known known]
      exact not_lt.mp notBelow
    have stays := List.sublist_insertionSort ordered inOrder
    rcases List.pairwise_iff_forall_sublist.mp sorted stays with
      alsoUnknown | ⟨alsoKnown, _⟩
    · exact known alsoUnknown
    · exact alsoKnown unknown
  · intro known unknown
    by_contra notAtMost
    have different : earlier ≠ later := by
      rintro rfl
      exact known unknown
    have byTime := List.pairwise_insertionSort
      (fun a b => compareForks a b ≤ 0) bucket
    have isEarlier := inOrder.mem (List.mem_cons_self)
    have isLater := inOrder.mem (List.mem_cons_of_mem _ List.mem_cons_self)
    rcases related_of_pairwise (byTime.and sorted)
        ((List.mem_insertionSort _).mpr isEarlier)
        ((List.mem_insertionSort _).mpr isLater) different with
      ⟨before, _⟩ | ⟨_, notAfter⟩
    · rw [compareForks_nonpos, sortTime_of_known known,
        sortTime_of_unknown unknown] at before
      exact notAtMost before
    · rcases notAfter with alsoUnknown | ⟨alsoKnown, _⟩
      · exact known alsoUnknown
      · exact alsoKnown unknown

/-- The children are in the order of time if and only if the records of each
source keep the unknown times last. -/
theorem isChronological_iff
    (built : buildAgentLineage dateParse snapshot = some lineage) :
    lineage.IsChronological (forkRecords dateParse snapshot) ↔
      (forkRecords dateParse snapshot).Pairwise fun earlier later =>
        earlier.sourceAgentId = later.sourceAgentId →
          KeepsUnknownLast earlier later := by
  rw [pairwise_classes_iff]
  constructor
  · intro chronological source
    have sorted := chronological.times source
    rw [childrenOf_eq built] at sorted
    exact keepsUnknownLast_of_pairwise sorted
  · intro keeps
    constructor
    · intro source
      rw [childrenOf_eq built]
      exact pairwise_notAfter_sortBucket (keeps source)
    · intro source time
      rw [childrenOf_eq built, sortBucket, filter_insertionSort,
        List.filter_filter]
      · refine List.filter_congr fun rec _ => ?_
        rw [Bool.and_comm, Bool.decide_and]
      · intro first second isFirst isSecond
        have sameTime : first.timestampMs = second.timestampMs := by
          simp only [decide_eq_true_eq] at isFirst isSecond
          rw [isFirst, isSecond]
        rw [compareForks_nonpos, sortTime, sortTime, sameTime]

/-- The two maps are inverse to each other and the children in order if and only
if no two records of the log fork one branch, and of two records of one source
with a known and an unknown time the known one is not too large. -/
theorem lineage_isInverse_iff
    (built : buildAgentLineage dateParse snapshot = some lineage) :
    (lineage.IsInverse ∧
        lineage.IsChronological (forkRecords dateParse snapshot)) ↔
      (forkRecords dateParse snapshot).Pairwise fun earlier later =>
        earlier.branchAgentId ≠ later.branchAgentId ∧
          (earlier.sourceAgentId = later.sourceAgentId →
            KeepsUnknownLast earlier later) := by
  rw [isInverse_iff built, isChronological_iff built, SingleForks,
    List.Nodup, List.pairwise_map]
  exact List.pairwise_and_iff.symm

/-! ### Logs of forks -/

/-- The envelope of a fork. -/
def forkEnvelope (source branch : JsString) (createdAt : Option JsString) :
    Json :=
  .object
    ([(js "message_type", .string (js "operator.action")),
      (js "payload", .object
        [(js "action_type", .string (js "zone_mutate")),
          (js "parameters", .object
            [(js "intent_kind", .string (js "fork_agent")),
              (js "source_agent_id", .string source),
              (js "new_agent_id", .string branch)])])] ++
      (createdAt.map fun text => (js "created_at", Json.string text)).toList)

def withEventLog (log : List Json) : Option RtsSnapshot :=
  some [(js "zone", .object [(js "event_log", .array log)])]

/-- `Date.parse` of ten and of eleven o'clock. -/
def parseHour : DateParse := fun text =>
  if text = js "2026-05-19T10:00:00Z" then
    some 1779184800000
  else if text = js "2026-05-19T11:00:00Z" then
    some 1779188400000
  else
    none

/-- Three branches of one agent, the first without a time. -/
def threeForks : List Json :=
  [forkEnvelope (js "alpha") (js "no-ts") none,
    forkEnvelope (js "alpha") (js "late") (some (js "2026-05-19T11:00:00Z")),
    forkEnvelope (js "alpha") (js "early") (some (js "2026-05-19T10:00:00Z"))]

instance {earlier later : ForkRecord} :
    Decidable (KeepsUnknownLast earlier later) :=
  decidable_of_iff
    ((earlier.timestampMs = 0 → later.timestampMs ≠ 0 →
      later.timestampMs < MAX_SAFE_INTEGER) ∧
    (earlier.timestampMs ≠ 0 → later.timestampMs = 0 →
      earlier.timestampMs ≤ MAX_SAFE_INTEGER))
    ⟨fun both => ⟨both.1, both.2⟩, fun keeps => ⟨keeps.1, keeps.2⟩⟩

theorem threeForks_isInverse :
    ∃ lineage, buildAgentLineage parseHour (withEventLog threeForks) =
        some lineage ∧
      (lineage.IsInverse ∧ lineage.IsChronological
        (forkRecords parseHour (withEventLog threeForks))) :=
  ⟨_, rfl, (lineage_isInverse_iff rfl).mpr (by decide +kernel)⟩

/-- An envelope that forks a branch again makes it a child twice. -/
theorem forkedTwice_not_isInverse :
    ¬ ∀ (dateParse : DateParse) (snapshot : Option RtsSnapshot)
        (lineage : AgentLineage),
      buildAgentLineage dateParse snapshot = some lineage →
        lineage.IsInverse ∧
          lineage.IsChronological (forkRecords dateParse snapshot) := by
  intro always
  have inverse := (always parseHour
    (withEventLog
      [forkEnvelope (js "alpha") (js "alpha-b")
          (some (js "2026-05-19T10:00:00Z")),
        forkEnvelope (js "alpha") (js "alpha-b")
          (some (js "2026-05-19T11:00:00Z"))]) _ rfl).1
  exact absurd (inverse (js "alpha") (js "alpha-b")) (by decide +kernel)

end

end RtsNotebook.Sidebar
