import RtsNotebook.LlmClient.Live

/-!
# Shipping one envelope

`ship_envelope`, over any connection and any clock.
-/

namespace RtsNotebook.LlmClient

open RtsNotebook.Python

/-- How `ship_envelope` ends. -/
inductive ShipOutcome where
  | returned (reply : PyJson)
  | timeoutError
  | raised
  | outOfFuel

/-- `==`, where the right side is neither a string nor `None`. -/
structure ValueEquality where
  equals : PyJson → PyJson → Bool
  none_left : ∀ other, other ≠ .none → equals .none other = false

/-- `items.get(first) or items.get(second) or …`, where the last two look into
the payload, in the order they are given. -/
def identifier (first second payloadFirst payloadSecond : PyString)
    (items : List (PyString × PyJson)) : Except Stop PyJson :=
  if (get items first).truthy then
    .ok (get items first)
  else if (get items second).truthy then
    .ok (get items second)
  else do
    let payload ← (getD items (py "payload") (.dict [])).items?
    pure ((get payload payloadFirst).orElse (get payload payloadSecond))

/-- `request_id` -/
def shippedId (envelope : List (PyString × PyJson)) : Except Stop PyJson :=
  identifier (py "request_id") (py "correlation_id") (py "request_id")
    (py "correlation_id") envelope

/-- `reply_corr` -/
def replyId (reply : List (PyString × PyJson)) : Except Stop PyJson :=
  identifier (py "correlation_id") (py "request_id") (py "correlation_id")
    (py "request_id") reply

/-- `request_id is None or reply_corr == request_id` -/
def answers (equality : ValueEquality) (requestId replyCorr : PyJson) : Bool :=
  match requestId with
  | .none => true
  | .str text => replyCorr.isStr text
  | other => equality.equals replyCorr other

/-- What the wait loop makes of a receive, `none` where it goes on. -/
def takeShipped (equality : ValueEquality) (requestId : PyJson) :
    RecvOutcome → Option ShipOutcome
  | .value reply =>
      if reply.truthy then
        match reply with
        | .dict items =>
            match replyId items with
            | .ok replyCorr =>
                if answers equality requestId replyCorr then
                  some (.returned reply)
                else
                  none
            | .error _ => some .raised
        | _ => some .raised
      else
        some (.returned (.dict []))
  | _ => some .raised

section

variable {World : Type}

/-- The wait loop of `ship_envelope`. -/
def shipLoop (connection : Connection World) (equality : ValueEquality)
    (requestId : PyJson) (deadline : Time) : Nat → World → ShipOutcome
  | 0, _ => .outOfFuel
  | fuel + 1, world =>
      let (now, world) := connection.monotonic world
      if now < deadline then
        let (now, world) := connection.monotonic world
        let (outcome, world) :=
          connection.recv (min (1 / 10) (deadline - now)) world
        match takeShipped equality requestId outcome with
        | some ended => ended
        | none =>
            shipLoop connection equality requestId deadline fuel world
      else
        .timeoutError

/-- `ship_envelope` -/
def shipEnvelope (connection : Connection World) (equality : ValueEquality)
    (envelope : List (PyString × PyJson)) (timeout : Time) (fuel : Nat)
    (world : World) : ShipOutcome :=
  match shippedId envelope with
  | .error _ => .raised
  | .ok requestId =>
      match connection.send (.dict envelope) world with
      | (.sent, world) =>
          let (now, world) := connection.monotonic world
          shipLoop connection equality requestId (now + timeout) fuel world
      | _ => .raised

end

end RtsNotebook.LlmClient
