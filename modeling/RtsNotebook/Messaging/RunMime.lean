import RtsNotebook.Js.Json

/-!
# Run-MIME payloads

The classification of a run-MIME payload by the message router, and the
terminal test of the PTY kernel client.  Both read a parsed JSON value, so the
fields may be absent or of any type.
-/

namespace RtsNotebook.Messaging

open RtsNotebook.Js

/-- The hooks of `RunLifecycleObserver`. -/
inductive RunCallback where
  | onRunStart
  | onRunEvent
  | onRunComplete
  deriving DecidableEq, Repr

/-- What `routeRunMime` does with a payload. -/
inductive Routed where
  | dropped
  | threw
  | deliver (callback : RunCallback)
  deriving DecidableEq, Repr

/-- `payload.spanId` where it is a string. -/
def spanId? (payload : Json) : Option JsString :=
  (payload.member? (js "spanId")).bind Json.asString?

/-- `payload.status?.code` -/
def statusCode? (payload : Json) : Option Json :=
  (payload.member? (js "status")).bind fun status =>
    status.member? (js "code")

/-- `typeof payload === 'object'` of a value that is not `null`. -/
def isObject : Json → Bool
  | .array _ => true
  | .object _ => true
  | _ => false

/-- `MessageRouter.routeRunMime` -/
def routeRunMime (payload : Json) : Routed :=
  if !isObject payload then
    .dropped
  else if (payload.member? (js "event")).any Json.truthy then
    .deliver .onRunEvent
  else
    match spanId? payload with
    | none => .dropped
    | some [] => .dropped
    | some (_ :: _) =>
        match payload.member? (js "endTimeUnixNano") with
        | none => .deliver .onRunStart
        | some endTime =>
            if !endTime.truthy then
              .deliver .onRunStart
            else
              match endTime.lengthIsPositive? with
              | none => .threw
              | some true => .deliver .onRunComplete
              | some false => .deliver .onRunStart

/-- The test of `executeCell`'s sink for a terminal frame. -/
def isTerminalFrame (payload : Json) : Bool :=
  ((payload.member? (js "endTimeUnixNano")).bind Json.asString?).isSome &&
    decide ((statusCode? payload).bind Json.asString? ≠
      some (js "STATUS_CODE_UNSET"))

/-- `span.status?.code === 'STATUS_CODE_OK'` -/
def isStatusOk (payload : Json) : Bool :=
  decide ((statusCode? payload).bind Json.asString? =
    some (js "STATUS_CODE_OK"))

/-! ### Where the two tests agree -/

/-- `payload.status?.code === 'STATUS_CODE_UNSET'` -/
def isStatusUnset (payload : Json) : Bool :=
  decide ((statusCode? payload).bind Json.asString? =
    some (js "STATUS_CODE_UNSET"))

/-- `'event' in payload && payload.event` -/
def carriesEvent (payload : Json) : Bool :=
  (payload.member? (js "event")).any Json.truthy

/-- The fields for which the two tests agree.  A string that is not empty ends
the run for both unless the status is unset, which the router does not read,
or an event comes along, which the client does not read.  The empty string is
an end time for the client alone, and a value with a positive length that is
no string for the router alone. -/
def EndFieldsAgree (payload : Json) : Prop :=
  match payload.member? (js "endTimeUnixNano") with
  | none => True
  | some (.string []) => isStatusUnset payload = true
  | some (.string (_ :: _)) =>
      isStatusUnset payload = carriesEvent payload
  | some endTime =>
      carriesEvent payload = true ∨ endTime.lengthIsPositive? ≠ some true

theorem isTerminalFrame_iff (payload : Json) :
    isTerminalFrame payload = true ↔
      (∃ endTime,
        payload.member? (js "endTimeUnixNano") = some (.string endTime)) ∧
        isStatusUnset payload = false := by
  cases ended : payload.member? (js "endTimeUnixNano") with
  | none =>
      simp [isTerminalFrame, ended]
  | some endTime =>
      cases endTime <;>
        simp [isTerminalFrame, isStatusUnset, ended, Json.asString?]

/-- What has a positive length is truthy. -/
theorem truthy_of_lengthIsPositive {value : Json}
    (positive : value.lengthIsPositive? = some true) :
    value.truthy = true := by
  cases value with
  | string text =>
      simpa [Json.lengthIsPositive?, Json.truthy] using positive
  | array items => rfl
  | object members => rfl
  | null => cases positive
  | bool value => cases positive
  | number value => cases positive

/-- The router completes a run on the end time alone, where no event comes
along. -/
theorem routeRunMime_eq_onRunComplete_iff {payload : Json}
    {first : UInt16} {rest : JsString}
    (hasSpan : spanId? payload = some (first :: rest)) :
    routeRunMime payload = .deliver .onRunComplete ↔
      carriesEvent payload = false ∧
        ∃ endTime, payload.member? (js "endTimeUnixNano") = some endTime ∧
          endTime.lengthIsPositive? = some true := by
  have anObject : isObject payload = true := by
    cases payload with
    | object members => rfl
    | _ => cases hasSpan
  unfold routeRunMime
  rw [anObject, hasSpan]
  cases event : carriesEvent payload with
  | true =>
      have noted : (payload.member? (js "event")).any Json.truthy = true :=
        event
      simp [noted]
  | false =>
      have quiet : (payload.member? (js "event")).any Json.truthy = false :=
        event
      cases payload.member? (js "endTimeUnixNano") with
      | none =>
          simp [quiet]
      | some endTime =>
          cases length : endTime.lengthIsPositive? with
          | none =>
              cases isTruthy : endTime.truthy <;>
                simp [quiet, isTruthy, length]
          | some positive =>
              cases positive with
              | true =>
                  have isTruthy := truthy_of_lengthIsPositive length
                  simp [quiet, isTruthy, length]
              | false =>
                  cases isTruthy : endTime.truthy <;>
                    simp [quiet, isTruthy, length]

/-- The terminal test of the client and the router's classification agree
exactly on the payloads whose end fields agree. -/
theorem isTerminalFrame_iff_onRunComplete_iff {payload : Json}
    {first : UInt16} {rest : JsString}
    (hasSpan : spanId? payload = some (first :: rest)) :
    (isTerminalFrame payload = true ↔
        routeRunMime payload = .deliver .onRunComplete) ↔
      EndFieldsAgree payload := by
  rw [isTerminalFrame_iff, routeRunMime_eq_onRunComplete_iff hasSpan]
  unfold EndFieldsAgree
  cases payload.member? (js "endTimeUnixNano") with
  | none =>
      simp
  | some endTime =>
      cases endTime with
      | string text =>
          cases isStatusUnset payload <;> cases carriesEvent payload <;>
            cases text <;> simp [Json.lengthIsPositive?]
      | null | bool _ | number _ | array _ | object _ =>
          simp only [Option.some.injEq, reduceCtorEq, exists_false,
            false_and, false_iff, not_and, not_exists, forall_eq',
            ← Bool.not_eq_true (carriesEvent payload)]
          tauto

/-- A span frame with an end time and the status that the span is still
open. -/
def endedUnset : Json :=
  .object
    [(js "spanId", .string (js "s1")),
      (js "endTimeUnixNano", .string (js "1")),
      (js "status", .object
        [(js "code", .string (js "STATUS_CODE_UNSET"))])]

/-- The router completes the run, and the client keeps waiting. -/
theorem endedUnset_disagrees :
    ¬ (isTerminalFrame endedUnset = true ↔
      routeRunMime endedUnset = .deliver .onRunComplete) := by
  decide

/-- The same frame with the status of a run that succeeded. -/
def endedOk : Json :=
  .object
    [(js "spanId", .string (js "s1")),
      (js "endTimeUnixNano", .string (js "1")),
      (js "status", .object
        [(js "code", .string (js "STATUS_CODE_OK"))])]

theorem isTerminalFrame_iff_onRunComplete_iff_endedOk :
    spanId? endedOk = some (js "s1") ∧
      ((isTerminalFrame endedOk = true ↔
          routeRunMime endedOk = .deliver .onRunComplete) ↔
        EndFieldsAgree endedOk) :=
  ⟨by decide, isTerminalFrame_iff_onRunComplete_iff
    (show spanId? endedOk = some (unit 's' :: js "1") by decide)⟩

end RtsNotebook.Messaging
