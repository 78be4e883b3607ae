import RtsNotebook.LlmClient.Tcp

/-!
# Connecting over TCP

`connect` with its handshake.  The reader of the handshake response keeps a
buffer of its own, and the connection that is returned starts with an empty
one.
-/

namespace RtsNotebook.LlmClient

open RtsNotebook.Python RtsNotebook.Library

/-- What `connect` uses of the standard library and of `llm_kernel.wire`. -/
structure Handshake where
  /-- `(json.dumps(request) + "\n").encode("utf-8")` -/
  dumps : PyJson → Bytes
  /-- `json.loads(line.decode("utf-8"))` -/
  loads : Bytes → Loaded
  /-- `str(value)` -/
  strOf : PyJson → PyString
  /-- `int(text)`, `none` where it raises. -/
  intOf? : PyString → Option Int
  /-- `str(uuid4())` -/
  uuid4 : PyString
  WIRE_MAJOR : Int
  WIRE_VERSION : PyString

/-- A socket and a clock; `none` where the operation raises. -/
structure Endpoint (Net : Type) where
  monotonic : Net → Time × Net
  connect : PyString → Int → Net → Option Net
  sendall : Bytes → Net → Option Net
  read : Time → Net → ReadEvent × Net

/-- The classes of handshake errors. -/
inductive HandshakeErrorClass where
  | handshake
  | authFailed
  | versionMismatch
  | kernelBusy
  deriving DecidableEq, Repr

/-- How `connect` ends without a connection. -/
inductive ConnectStop where
  | handshakeError (errorClass : HandshakeErrorClass) (reason : PyJson)
  | raised
  | outOfFuel
  deriving Repr

/-- The arguments of `connect`. -/
structure ConnectArguments where
  bind : PyString
  token : PyString
  wireVersionRequest : PyString
  clientName : PyString
  clientVersion : PyString
  capabilities : Option (List PyString)
  timeout : Time

/-- `_parse_bind` -/
def parseBind (handshake : Handshake) (bind : PyString) :
    Option (PyString × Int) :=
  let raw :=
    if (py "tcp://").isPrefixOf bind then bind.drop (py "tcp://").length
    else bind
  -- The last colon is the first of the reversed text.
  match cutAt 0x3A raw.reverse with
  | none => none
  | some (portReversed, hostReversed) =>
      (handshake.intOf? portReversed.reverse).map fun port =>
        (hostReversed.reverse, port)

def defaultCapabilities : List PyString :=
  [py "family_a", py "family_b", py "family_c", py "family_f",
    py "family_g"]

/-- The request that opens the handshake. -/
def handshakeRequest (arguments : ConnectArguments)
    (capabilities : List PyString) : PyJson :=
  .dict
    [(py "type", .str (py "kernel.handshake")),
      (py "payload", .dict
        [(py "client_name", .str arguments.clientName),
          (py "client_version", .str arguments.clientVersion),
          (py "wire_version", .str arguments.wireVersionRequest),
          (py "transport", .str (py "tcp")),
          (py "auth", .dict
            [(py "scheme", .str (py "bearer")),
              (py "token", .str arguments.token)]),
          (py "capabilities", .list (capabilities.map .str))])]

section

variable {Net : Type}

/-- `_read_one_frame`; the result is Python's `None` where there is none. -/
def readOneFrame (endpoint : Endpoint Net) (loads : Bytes → Loaded)
    (deadline : Time) :
    Nat → Bytes → Net → Except ConnectStop (PyJson × Bytes × Net)
  | 0, _, _ => .error .outOfFuel
  | fuel + 1, buf, net =>
      match cutAt newline buf with
      | some (line, buf) =>
          if isBlank line then
            readOneFrame endpoint loads deadline fuel buf net
          else
            match loads line with
            | .value loaded => .ok (loaded, buf, net)
            | .malformed => .ok (.none, buf, net)
            | .raised _ => .error .raised
      | none =>
          let (now, net) := endpoint.monotonic net
          let remaining := deadline - now
          if remaining ≤ 0 then
            .ok (.none, buf, net)
          else
            match endpoint.read remaining net with
            | (.timedOut, net) => .ok (.none, buf, net)
            | (.osError, net) => .ok (.none, buf, net)
            | (.chunk [], net) => .ok (.none, buf, net)
            | (.chunk (byte :: bytes), net) =>
                readOneFrame endpoint loads deadline fuel
                  (buf ++ byte :: bytes) net

/-- The exception class of an error of the kernel, `none` where the error is
no key of a dictionary. -/
def errorClass? : PyJson → Option HandshakeErrorClass
  | .str error =>
      if error = py "auth_failed" then some .authFailed
      else if error = py "version_mismatch_major" then some .versionMismatch
      else if error = py "kernel_busy" then some .kernelBusy
      else some .handshake
  | .list _ => none
  | .dict _ => none
  | _ => some .handshake

/-- `int(str(kernel_wire).split(".", 1)[0])` -/
def kernelMajor? (handshake : Handshake) (kernelWire : PyJson) : Option Int :=
  handshake.intOf? ((handshake.strOf kernelWire).takeWhile (· ≠ 0x2E))

/-- The items of a list, or none. -/
def itemsOrNone : PyJson → List PyJson
  | .list items => items
  | _ => []

def wireFailure : ConnectStop :=
  .handshakeError .handshake (.str (py "wire-failure"))

/-- `connect` once it has the payload of the response. -/
def acceptPayload (handshake : Handshake) (capabilities : List PyString)
    (timeout : Time) (payload : List (PyString × PyJson)) :
    Except ConnectStop TcpKernelConnection :=
  let error := get payload (py "error")
  if error.truthy then
    match errorClass? error with
    | some errorClass => .error (.handshakeError errorClass error)
    | none => .error .raised
  else
    let kernelWire := getD payload (py "wire_version") (.str [])
    match kernelMajor? handshake kernelWire with
    | none => .error wireFailure
    | some kernelMajor =>
        if kernelMajor ≠ handshake.WIRE_MAJOR then
          .error (.handshakeError .versionMismatch
            (.str (py "version_mismatch_major")))
        else
          let accepted :=
            itemsOrNone (get payload (py "accepted_capabilities"))
          let missing := capabilities.filter fun capability =>
            !accepted.any (·.isStr capability)
          if missing ≠ [] then
            .error wireFailure
          else
            let sessionId := get payload (py "session_id")
            let wireVersion := handshake.strOf kernelWire
            .ok
              { sessionId :=
                  if sessionId.truthy then handshake.strOf sessionId
                  else handshake.uuid4
                wireVersion :=
                  if wireVersion = [] then handshake.WIRE_VERSION
                  else wireVersion
                acceptedCapabilities := accepted
                handshakeWarnings := itemsOrNone (get payload (py "warnings"))
                recvTimeout := timeout
                buf := []
                closed := false }

/-- `connect` once it has the response. -/
def acceptResponse (handshake : Handshake) (capabilities : List PyString)
    (timeout : Time) :
    PyJson → Except ConnectStop TcpKernelConnection
  | .none => .error (.handshakeError .handshake (.str (py "timeout")))
  | .dict response =>
      if (get response (py "type")).isStr (py "kernel.handshake") then
        match (get response (py "payload")).orElse (.dict []) with
        | .dict payload =>
            acceptPayload handshake capabilities timeout payload
        | _ => .error wireFailure
      else
        .error wireFailure
  | _ => .error wireFailure

/-- `connect` -/
def connect (endpoint : Endpoint Net) (handshake : Handshake)
    (arguments : ConnectArguments) (fuel : Nat) (net : Net) :
    Except ConnectStop (TcpKernelConnection × Net) :=
  match parseBind handshake arguments.bind with
  | none => .error .raised
  | some (host, port) =>
      let capabilities := arguments.capabilities.getD defaultCapabilities
      match endpoint.connect host port net with
      | none => .error .raised
      | some net =>
          let request := handshakeRequest arguments capabilities
          match endpoint.sendall (handshake.dumps request) net with
          | none => .error .raised
          | some net => do
              let (now, net) := endpoint.monotonic net
              -- What is left in the reader's buffer is dropped here.
              let (response, _, net) ←
                readOneFrame endpoint handshake.loads
                  (now + arguments.timeout) fuel [] net
              let connection ←
                acceptResponse handshake capabilities arguments.timeout
                  response
              pure (connection, net)

end

end RtsNotebook.LlmClient
