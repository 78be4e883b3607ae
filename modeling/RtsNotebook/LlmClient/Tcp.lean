import RtsNotebook.LlmClient.Live
import RtsNotebook.Library.Lines

/-!
# The TCP connection

`_TcpKernelConnection`, over any socket.  A call of `recv` either takes a line
from its buffer or finds none; which of the two it was is kept here, while the
source answers with an empty dictionary where there was no line and where the
line is malformed.
-/

namespace RtsNotebook.LlmClient

open RtsNotebook.Python RtsNotebook.Library

abbrev Bytes := List UInt8

/-- `b"\n"` -/
def newline : UInt8 :=
  0x0A

/-- ASCII text as it is written. -/
def ascii (literal : String) : Bytes :=
  (py literal).map UInt8.ofNat

/-- How `sock.recv(4096)` ends; no bytes stand for the end of the stream. -/
inductive ReadEvent where
  | chunk (bytes : Bytes)
  | timedOut
  | osError

/-- How `json.loads(line.decode("utf-8"))` ends: with a value, with one of the
two exceptions that the callers catch, or with another one. -/
inductive Loaded where
  | value (loaded : PyJson)
  | malformed
  | raised (message : PyString)

/-- `not line.strip()` -/
def isBlank (line : Bytes) : Bool :=
  line.all fun byte =>
    byte ∈ ([0x20, 0x09, 0x0A, 0x0D, 0x0B, 0x0C] : List UInt8)

/-- What a call of `recv` finds. -/
inductive Received where
  | line (bytes : Bytes)
  | nothing

/-- What `recv` makes of what it finds. -/
def Received.outcome (loads : Bytes → Loaded) : Received → RecvOutcome
  | line bytes =>
      match loads bytes with
      | .value loaded => .value loaded
      | .malformed => .value (.dict [])
      | .raised message => .raised message
  | nothing => .value (.dict [])

section

variable {Net : Type}

/-- The first line of the buffer, unless it is blank.  A blank line is dropped,
and the buffer is not looked at again before the next read. -/
def nextLine (buf : Bytes) : Option Bytes × Bytes :=
  match cutAt newline buf with
  | some (line, rest) => (if isBlank line then none else some line, rest)
  | none => (none, buf)

/-- The loop of `_TcpKernelConnection.recv`. -/
def recvLoop (read : Net → ReadEvent × Net) :
    Nat → Bytes → Net → Option (Received × Bytes × Net)
  | 0, _, _ => none
  | fuel + 1, buf, net =>
      match nextLine buf with
      | (some line, buf) => some (.line line, buf, net)
      | (none, buf) =>
          match read net with
          | (.timedOut, net) => some (.nothing, buf, net)
          | (.osError, net) => some (.nothing, buf, net)
          | (.chunk [], net) => some (.nothing, buf, net)
          | (.chunk (byte :: bytes), net) =>
              recvLoop read fuel (buf ++ byte :: bytes) net

end

theorem nextLine_line {line : Bytes} (noNewline : newline ∉ line)
    (notBlank : isBlank line = false) (more : Bytes) :
    nextLine (line ++ newline :: more) = (some line, more) := by
  unfold nextLine
  rw [cutAt_line noNewline more]
  simp [notBlank]

theorem nextLine_noNewline {buf : Bytes} (noNewline : newline ∉ buf) :
    nextLine buf = (none, buf) := by
  unfold nextLine
  rw [cutAt_eq_none_iff.mpr noNewline]

/-- A frame: a line with the value that it decodes to. -/
structure Frame (loads : Bytes → Loaded) where
  line : Bytes
  value : PyJson
  noNewline : newline ∉ line
  notBlank : isBlank line = false
  loads_eq : loads line = .value value

/-- `_TcpKernelConnection`, without its socket. -/
structure TcpKernelConnection where
  sessionId : PyString
  wireVersion : PyString
  acceptedCapabilities : List PyJson
  handshakeWarnings : List PyJson
  recvTimeout : Time
  buf : Bytes
  closed : Bool

/-- The message of both methods of a closed connection. -/
def alreadyClosed : PyString :=
  py "TCP KernelConnection is already closed"

end RtsNotebook.LlmClient
