import Mathlib.Data.Nat.Basic
import Mathlib.Order.Lattice
import RtsNotebook.Library.Runs
import RtsNotebook.Messaging.Metadata

/-!
# Applying metadata snapshots

`NotebookMetadataApplier` as a transition system: `onNotebookMetadata` runs to
the await of `workspace.applyEdit`, and the completion of the edit is an event
of its own.  The version of a snapshot is any number or missing, so the model
is over any linear order.

The version gate is passed on arrival and the version is committed on
completion, without a second look.  An edit in flight therefore carries the
history variable `acceptedMeanwhile`, the versions accepted since it started.
-/

namespace RtsNotebook.Notebook.MetadataApplier

open RtsNotebook.Library RtsNotebook.Js RtsNotebook.Messaging

/-- The fields of a `notebook.metadata` payload that the applier reads. -/
structure NotebookMetadataPayload (Version : Type*) where
  mode : Option Json
  snapshotVersion : Option Version
  snapshot : Option Json

inductive FailureReason where
  | schemaVersionMajorMismatch
  | nonMonotonicSnapshot
  | unsupportedMode
  | noActiveNotebook
  | applyFailed
  deriving DecidableEq, Repr

/-- `MetadataApplierFailure`, without its free-form detail. -/
structure Failure (Version : Type*) where
  reason : FailureReason
  snapshotVersion : Option Version
  expectedSchemaMajor : Option JsString := none
  observedSchemaMajor : Option JsString := none
  lastAcceptedVersion : Option Version := none

/-- An edit that `apply` has started. -/
structure Edit (Version : Type*) where
  version : Option Version
  snapshot : Json
  acceptedMeanwhile : List Version

/-- The applier, the `rts` slot of the document's metadata, and what has been
announced, reported and applied so far. -/
structure State (Version : Type*) where
  lastAcceptedVersion : Option Version
  edits : List (Edit Version)
  announced : List (Option Version)
  failures : List (Failure Version)
  rts : Option Json
  succeeded : List (Edit Version)

/-- How the awaited `applyEdit` completes. -/
inductive Completion where
  | applied
  | refused
  | threw
  deriving DecidableEq, Repr

inductive Event (Version : Type*) where
  | payload (payload : NotebookMetadataPayload Version)
      (hasNotebook : Bool)
  | complete (position : Nat) (completion : Completion)

section

variable {Version : Type*} [LinearOrder Version]

/-- `received < last` between two numbers that may be `undefined`. -/
def isBelow (received last : Option Version) : Bool :=
  match received, last with
  | some receivedVersion, some lastVersion => receivedVersion < lastVersion
  | _, _ => false

namespace State

def initial : State Version where
  lastAcceptedVersion := none
  edits := []
  announced := []
  failures := []
  rts := none
  succeeded := []

def fail (state : State Version) (failure : Failure Version) :
    State Version :=
  { state with failures := state.failures ++ [failure] }

/-- `apply`, up to the await of `applyEdit`. -/
def apply (state : State Version) (snapshot : Json)
    (snapshotVersion : Option Version) (hasNotebook : Bool) :
    State Version :=
  if !hasNotebook then
    state.fail
      { reason := .noActiveNotebook, snapshotVersion := snapshotVersion }
  else
    { state with
      edits := state.edits ++
        [{ version := snapshotVersion
           snapshot := snapshot
           acceptedMeanwhile := [] }] }

/-- `onNotebookMetadata` -/
def onNotebookMetadata (state : State Version)
    (payload : NotebookMetadataPayload Version) (hasNotebook : Bool) :
    State Version :=
  if payload.mode.bind Json.asString? ≠ some (js "snapshot") then
    state.fail
      { reason := .unsupportedMode
        snapshotVersion := payload.snapshotVersion }
  else
    match payload.snapshot with
    | none =>
        state.fail
          { reason := .applyFailed
            snapshotVersion := payload.snapshotVersion }
    | some snapshot =>
        if !isObject snapshot then
          state.fail
            { reason := .applyFailed
              snapshotVersion := payload.snapshotVersion }
        else
          match schemaMajor? snapshot with
          -- `String(...)` throws, out of the observer.
          | none => state
          | some observedMajor =>
              if observedMajor ≠ RFC005_SCHEMA_MAJOR then
                state.fail
                  { reason := .schemaVersionMajorMismatch
                    snapshotVersion := payload.snapshotVersion
                    expectedSchemaMajor := some RFC005_SCHEMA_MAJOR
                    observedSchemaMajor := some observedMajor }
              else if isBelow payload.snapshotVersion
                  state.lastAcceptedVersion then
                state.fail
                  { reason := .nonMonotonicSnapshot
                    snapshotVersion := payload.snapshotVersion
                    lastAcceptedVersion := state.lastAcceptedVersion }
              else
                state.apply snapshot payload.snapshotVersion hasNotebook

/-- The rest of `apply` once the edit has completed. -/
def complete (state : State Version) (edit : Edit Version) :
    Completion → State Version
  | .applied =>
      { state with
        lastAcceptedVersion := edit.version
        edits := state.edits.map fun other =>
          { other with
            acceptedMeanwhile :=
              other.acceptedMeanwhile ++ edit.version.toList }
        announced := state.announced ++ [edit.version]
        rts := some edit.snapshot
        succeeded := state.succeeded ++ [edit] }
  | .refused =>
      state.fail { reason := .applyFailed, snapshotVersion := edit.version }
  | .threw =>
      state.fail { reason := .applyFailed, snapshotVersion := edit.version }

end State

def step (state : State Version) : Event Version → Option (State Version)
  | .payload payload hasNotebook =>
      some (state.onNotebookMetadata payload hasNotebook)
  | .complete position completion =>
      match state.edits[position]? with
      | none => none
      | some edit =>
          some ({ state with
            edits := state.edits.eraseIdx position }.complete edit
              completion)

/-- Arrivals and completions, interleaved. -/
def system (Version : Type*) [LinearOrder Version] :
    System (State Version) (Event Version) where
  initial := State.initial
  step := step

/-- `later` is a number at or above `earlier`, if that is a number. -/
def NotBelow (earlier later : Option Version) : Prop :=
  ∀ version, earlier = some version →
    ∃ next, later = some next ∧ version ≤ next

/-- No version is announced after a higher one, the last accepted version is
never below one that was announced, and a document without edits in flight
holds the snapshot of the highest version that succeeded. -/
structure VersionsMonotone (state : State Version) : Prop where
  announced : state.announced.Pairwise NotBelow
  lastAccepted : ∀ version ∈ state.announced,
    NotBelow version state.lastAcceptedVersion
  document : state.edits = [] → state.succeeded ≠ [] →
    ∃ edit ∈ state.succeeded, state.rts = some edit.snapshot ∧
      ∀ other ∈ state.succeeded, NotBelow other.version edit.version

/-- An edit that succeeds was not overtaken by a higher version while it was
in flight; an edit without a version succeeds only before any version is
accepted. -/
def NotOvertaken (state : State Version) : Event Version → Prop
  | .complete position .applied =>
      ∀ edit, state.edits[position]? = some edit →
        (edit.version = none → state.lastAcceptedVersion = none) ∧
          ∀ version, edit.version = some version →
            ∀ accepted ∈ edit.acceptedMeanwhile, accepted ≤ version
  | _ => True

/-! ### What every step keeps -/

structure Invariant (state : State Version) : Prop where
  lastAnnounced : ∀ version, state.lastAcceptedVersion = some version →
    some version ∈ state.announced
  meanwhileAnnounced : ∀ edit ∈ state.edits,
    ∀ accepted ∈ edit.acceptedMeanwhile, some accepted ∈ state.announced
  gated : ∀ edit ∈ state.edits, ∀ version, edit.version = some version →
    ∀ last, state.lastAcceptedVersion = some last →
      last ≤ version ∨ last ∈ edit.acceptedMeanwhile
  announcedSucceeded :
    state.announced = state.succeeded.map Edit.version
  document : state.succeeded ≠ [] → ∃ edit ∈ state.succeeded,
    state.rts = some edit.snapshot ∧
      edit.version = state.lastAcceptedVersion

theorem Invariant.initial : Invariant (State.initial : State Version) where
  lastAnnounced := by simp [State.initial]
  meanwhileAnnounced := by simp [State.initial]
  gated := by simp [State.initial]
  announcedSucceeded := rfl
  document := by simp [State.initial]

theorem Invariant.fail
    {state : State Version} (invariant : Invariant state)
    (failure : Failure Version) :
    Invariant (state.fail failure) :=
  ⟨invariant.lastAnnounced, invariant.meanwhileAnnounced, invariant.gated,
    invariant.announcedSucceeded, invariant.document⟩

theorem Invariant.apply
    {state : State Version} (invariant : Invariant state) (snapshot : Json)
    {snapshotVersion : Option Version}
    (gate : isBelow snapshotVersion state.lastAcceptedVersion = false)
    (hasNotebook : Bool) :
    Invariant (state.apply snapshot snapshotVersion hasNotebook) := by
  unfold State.apply
  split
  · exact invariant.fail _
  · refine
      { lastAnnounced := invariant.lastAnnounced
        meanwhileAnnounced := ?_
        gated := ?_
        announcedSucceeded := invariant.announcedSucceeded
        document := invariant.document }
    · intro edit member accepted isAccepted
      rcases List.mem_append.mp member with old | new
      · exact invariant.meanwhileAnnounced edit old accepted isAccepted
      · rw [List.mem_singleton.mp new] at isAccepted
        cases isAccepted
    · intro edit member version versionEq last lastEq
      rcases List.mem_append.mp member with old | new
      · exact invariant.gated edit old version versionEq last lastEq
      · rw [List.mem_singleton.mp new] at versionEq
        have isVersion : snapshotVersion = some version := versionEq
        have passed : ¬ version < last := by
          rw [isVersion, lastEq] at gate
          simpa [isBelow] using gate
        exact Or.inl (le_of_not_gt passed)

theorem Invariant.onNotebookMetadata
    {state : State Version} (invariant : Invariant state)
    (payload : NotebookMetadataPayload Version) (hasNotebook : Bool) :
    Invariant (state.onNotebookMetadata payload hasNotebook) := by
  unfold State.onNotebookMetadata
  split
  · exact invariant.fail _
  · split
    · exact invariant.fail _
    · split
      · exact invariant.fail _
      · split
        · exact invariant
        · split
          · exact invariant.fail _
          · split
            · exact invariant.fail _
            · rename_i gate
              exact invariant.apply _ (by simpa using gate) hasNotebook

theorem Invariant.erase
    {state : State Version} (invariant : Invariant state) (position : Nat) :
    Invariant { state with edits := state.edits.eraseIdx position } where
  lastAnnounced := invariant.lastAnnounced
  meanwhileAnnounced := fun edit member =>
    invariant.meanwhileAnnounced edit (List.mem_of_mem_eraseIdx member)
  gated := fun edit member =>
    invariant.gated edit (List.mem_of_mem_eraseIdx member)
  announcedSucceeded := invariant.announcedSucceeded
  document := invariant.document

theorem Invariant.complete
    {state : State Version} (invariant : Invariant state)
    (edit : Edit Version) (completion : Completion) :
    Invariant (state.complete edit completion) := by
  cases completion with
  | refused => exact invariant.fail _
  | threw => exact invariant.fail _
  | applied =>
      refine
        { lastAnnounced := ?_
          meanwhileAnnounced := ?_
          gated := ?_
          announcedSucceeded := ?_
          document := ?_ }
      · intro version versionEq
        exact List.mem_append_right _ (List.mem_singleton.mpr versionEq.symm)
      · intro other member accepted isAccepted
        obtain ⟨old, oldMember, rfl⟩ := List.mem_map.mp member
        rcases List.mem_append.mp isAccepted with earlier | now
        · exact List.mem_append_left _
            (invariant.meanwhileAnnounced old oldMember accepted earlier)
        · have same : edit.version = some accepted := by
            simpa using now
          exact List.mem_append_right _
            (List.mem_singleton.mpr same.symm)
      · intro other member version _ last lastEq
        obtain ⟨old, _, rfl⟩ := List.mem_map.mp member
        have isLast : edit.version = some last := lastEq
        have now : last ∈ edit.version.toList := by
          simp [isLast]
        exact Or.inr (List.mem_append_right _ now)
      · simp [State.complete, invariant.announcedSucceeded]
      · intro _
        exact ⟨edit, List.mem_append_right _ (List.mem_singleton_self edit),
          rfl, rfl⟩

theorem step_invariant
    {state next : State Version} {event : Event Version}
    (invariant : Invariant state) (stepped : step state event = some next) :
    Invariant next := by
  cases event with
  | payload payload hasNotebook =>
      cases stepped
      exact invariant.onNotebookMetadata payload hasNotebook
  | complete position completion =>
      simp only [step] at stepped
      split at stepped
      · cases stepped
      · rename_i edit _
        cases stepped
        exact (invariant.erase position).complete edit completion

/-! ### What a successful edit does to the order -/

/-- The document part of the property follows from the last accepted
version. -/
theorem VersionsMonotone.of_lastAccepted
    {state : State Version} (invariant : Invariant state)
    (announced : state.announced.Pairwise NotBelow)
    (lastAccepted : ∀ version ∈ state.announced,
      NotBelow version state.lastAcceptedVersion) :
    VersionsMonotone state where
  announced := announced
  lastAccepted := lastAccepted
  document := by
    intro _ some_succeeded
    obtain ⟨edit, member, rts, versionEq⟩ :=
      invariant.document some_succeeded
    refine ⟨edit, member, rts, fun other otherMember => ?_⟩
    rw [versionEq]
    apply lastAccepted
    rw [invariant.announcedSucceeded]
    exact List.mem_map.mpr ⟨other, otherMember, rfl⟩

/-- A completion announces its version in order exactly where it was not
overtaken. -/
theorem notBelow_iff_notOvertaken
    {state : State Version} (invariant : Invariant state)
    (monotone : VersionsMonotone state) {position : Nat}
    {edit : Edit Version} (found : state.edits[position]? = some edit) :
    (∀ earlier ∈ state.announced, NotBelow earlier edit.version) ↔
      NotOvertaken state (.complete position .applied) := by
  have member : edit ∈ state.edits := List.mem_of_getElem? found
  constructor
  · intro ordered tested testedFound
    rw [found] at testedFound
    cases testedFound
    constructor
    · intro noVersion
      cases last : state.lastAcceptedVersion with
      | none => rfl
      | some version =>
          obtain ⟨next, impossible, _⟩ :=
            ordered (some version) (invariant.lastAnnounced version last)
              version rfl
          rw [noVersion] at impossible
          cases impossible
    · intro version versionEq accepted isAccepted
      obtain ⟨next, nextEq, atMost⟩ :=
        ordered (some accepted)
          (invariant.meanwhileAnnounced edit member accepted isAccepted)
          accepted rfl
      rw [versionEq] at nextEq
      cases nextEq
      exact atMost
  · intro notOvertaken earlier isEarlier version earlierEq
    obtain ⟨last, lastEq, belowLast⟩ :=
      monotone.lastAccepted earlier isEarlier version earlierEq
    obtain ⟨whenMissing, whenPresent⟩ := notOvertaken edit found
    cases editVersion : edit.version with
    | none =>
        rw [whenMissing editVersion] at lastEq
        cases lastEq
    | some committed =>
        refine ⟨committed, rfl, le_trans belowLast ?_⟩
        rcases invariant.gated edit member committed editVersion last lastEq
          with gate | overtook
        · exact gate
        · exact whenPresent committed editVersion last overtook

/-- One event keeps the order exactly where no overtaken edit succeeds. -/
theorem versionsMonotone_step_iff
    {state next : State Version} {event : Event Version}
    (invariant : Invariant state) (monotone : VersionsMonotone state)
    (stepped : step state event = some next) :
    VersionsMonotone next ↔ NotOvertaken state event := by
  have nextInvariant := step_invariant invariant stepped
  have unchanged : next.announced = state.announced →
      next.lastAcceptedVersion = state.lastAcceptedVersion →
      VersionsMonotone next := by
    intro announced last
    apply VersionsMonotone.of_lastAccepted nextInvariant
    · rw [announced]
      exact monotone.announced
    · rw [announced, last]
      exact monotone.lastAccepted
  cases event with
  | payload payload hasNotebook =>
      cases stepped
      refine iff_of_true (unchanged ?_ ?_) trivial <;>
        unfold State.onNotebookMetadata State.apply State.fail <;>
        grind
  | complete position completion =>
      simp only [step] at stepped
      split at stepped
      · cases stepped
      · rename_i edit found
        cases stepped
        cases completion with
        | refused => exact iff_of_true (unchanged rfl rfl) trivial
        | threw => exact iff_of_true (unchanged rfl rfl) trivial
        | applied =>
            rw [← notBelow_iff_notOvertaken invariant monotone found]
            constructor
            · intro after earlier isEarlier
              exact (List.pairwise_append.mp after.announced).2.2 earlier
                isEarlier edit.version (List.mem_singleton_self _)
            · intro ordered
              apply VersionsMonotone.of_lastAccepted nextInvariant
              · refine List.pairwise_append.mpr
                  ⟨monotone.announced, List.pairwise_singleton _ _, ?_⟩
                intro earlier isEarlier now isNow
                rw [List.mem_singleton.mp isNow]
                exact ordered earlier isEarlier
              · intro version isAnnounced
                rcases List.mem_append.mp isAnnounced with earlier | now
                · exact ordered version earlier
                · rw [List.mem_singleton.mp now]
                  exact fun present presentEq =>
                    ⟨present, presentEq, le_refl present⟩

theorem VersionsMonotone.initial :
    VersionsMonotone (State.initial : State Version) where
  announced := List.Pairwise.nil
  lastAccepted := by simp [State.initial]
  document := by simp [State.initial]

end

/-- The versions are monotone on the whole run exactly when no edit succeeds
that a higher version has overtaken in flight, and none without a version once
a version has been accepted. -/
theorem versionsMonotone_iff_notOvertaken
    (Version : Type*) [LinearOrder Version]
    (events : List (Event Version)) :
    (system Version).Always VersionsMonotone State.initial events ↔
      (system Version).StepsMeet NotOvertaken State.initial events :=
  System.always_iff_stepsMeet (I := Invariant)
    (fun _ _ _ invariant monotone stepped inOrder =>
      ⟨step_invariant invariant stepped,
        (versionsMonotone_step_iff invariant monotone stepped).mpr inOrder⟩)
    (fun _ _ _ invariant monotone stepped overtaken kept =>
      overtaken
        ((versionsMonotone_step_iff invariant monotone stepped).mp kept))
    events Invariant.initial VersionsMonotone.initial

/-- A snapshot payload of a version. -/
def snapshotPayload (version : Nat) : NotebookMetadataPayload Nat where
  mode := some (.string (js "snapshot"))
  snapshotVersion := some version
  snapshot := some (.object
    [(js "schema_version", .string (js "1.0.0"))])

/-- Two snapshots pass the gate before either edit completes, and the edit of
the lower version completes last. -/
def lowerCompletesLast : List (Event Nat) :=
  [.payload (snapshotPayload 5) true, .payload (snapshotPayload 7) true,
    .complete 1 .applied, .complete 0 .applied]

/-- Version 5 is announced after version 7, and the document holds it. -/
theorem lowerCompletesLast_breaks_order :
    ¬ (system Nat).Always VersionsMonotone State.initial
      lowerCompletesLast := by
  intro always
  have last := always.last rfl
  obtain ⟨version, versionEq, atLeast⟩ :=
    last.lastAccepted (some 7) (by decide) 7 rfl
  cases versionEq
  exact absurd atLeast (by decide)

end RtsNotebook.Notebook.MetadataApplier
