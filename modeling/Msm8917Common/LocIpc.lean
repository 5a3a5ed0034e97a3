import Mathlib.Algebra.Group.Nat.Defs
import Mathlib.Data.List.Basic

/-! `LocIpc.cpp`: messages over a datagram socket. A message that fits the buffer of
the receiver is one datagram; a longer one is a header with its length and then parts
that fit. The receiver keeps its buffer from one message to the next. -/
namespace Msm8917Common.LocUtil

def LOC_MSG_BUF_LEN : Nat := 8192

def bytes (text : List Char) : List UInt8 := text.map fun char => char.toNat.toUInt8

def LOC_MSG_HEAD : List UInt8 := bytes ['$', 'M', 'S', 'G', 'L', 'E', 'N', '$']

def LOC_MSG_ABORT : List UInt8 :=
  bytes ['L', 'o', 'c', 'I', 'p', 'c', 'M', 's', 'g', ':', ':', 'A', 'B', 'O', 'R', 'T']

/-- `head`, with `std::to_string(length)`. -/
def header (length : Nat) : List UInt8 := LOC_MSG_HEAD ++ bytes (Nat.toDigits 10 length)

/-- The loop of `sendData` over the parts of a long message. -/
def sendParts (data : List UInt8) (sentBytes : Nat) : List (List UInt8) :=
  if sentBytes < data.length then
    let partLen := min (data.length - sentBytes) LOC_MSG_BUF_LEN
    (data.drop sentBytes).take partLen :: sendParts data (sentBytes + partLen)
  else []
termination_by data.length - sentBytes
decreasing_by simp only [LOC_MSG_BUF_LEN]; omega

/-- The datagrams of `sendData`, on a socket that takes them all. -/
def sendData (data : List UInt8) : List (List UInt8) :=
  if data.length ≤ LOC_MSG_BUF_LEN then [data]
  else header data.length :: sendParts data 0

/-- `std::string::resize`: what is kept, and zeros. -/
def resize (msg : List UInt8) (length : Nat) : List UInt8 :=
  msg.take length ++ List.replicate (length - msg.length) 0

/-- What `recvfrom` writes over at a place of the buffer. -/
def overwrite (msg : List UInt8) (place : Nat) (part : List UInt8) : List UInt8 :=
  msg.take place ++ part ++ msg.drop (place + part.length)

def isDigit (byte : UInt8) : Bool := 48 ≤ byte.toNat && byte.toNat ≤ 57

def isSpace (byte : UInt8) : Bool := byte.toNat = 32 || (9 ≤ byte.toNat && byte.toNat ≤ 13)

def SIZE_MAX : Nat := 2 ^ 64 - 1

def unsignedValue (digits : List UInt8) : Nat :=
  Nat.ofDigitChars 10 (digits.map fun byte => Char.ofNat byte.toNat) 0

/-- `%zu` of `sscanf`: blanks, a sign, and as many digits as there are. -/
def scanSize (text : List UInt8) : Option Nat :=
  let text := text.dropWhile isSpace
  let signed := text.head? = some 43 ∨ text.head? = some 45
  let digits := (if signed then text.tail else text).takeWhile isDigit
  if digits.isEmpty then none
  else if SIZE_MAX < unsignedValue digits then some SIZE_MAX
  else if text.head? = some 45 then some ((SIZE_MAX + 1 - unsignedValue digits) % (SIZE_MAX + 1))
  else some (unsignedValue digits)

/-- The receive loop: its string, `msgLen` and `msgLenReceived` while it reads a long
message, whether it still runs, and what `onReceive` was called with. -/
structure LocIpc where
  msg : List UInt8
  reading : Option (Nat × Nat)
  running : Bool
  received : List (List UInt8)

namespace LocIpc

/-- `startListeningBlocking`, when the socket is bound. -/
def start : LocIpc := ⟨[], none, true, []⟩

/-- The loop from one `recvfrom` to the next. A datagram longer than the buffer that
is offered loses its end. -/
def recv (ipc : LocIpc) (datagram : List UInt8) : LocIpc :=
  if ipc.running then
    match ipc.reading with
    | none =>
      let msg := resize ipc.msg LOC_MSG_BUF_LEN
      let part := datagram.take msg.length
      let msg := overwrite msg 0 part
      if part.isEmpty then { ipc with msg := msg }
      else if LOC_MSG_ABORT.isPrefixOf msg then { ipc with msg := msg, running := false }
      else if LOC_MSG_HEAD.isPrefixOf msg then
        let msgLen := (scanSize (msg.drop LOC_MSG_HEAD.length)).getD 0
        let msg := resize msg msgLen
        if 0 < msgLen then { ipc with msg := msg, reading := some (msgLen, 0) }
        else { ipc with msg := msg, received := ipc.received ++ [msg] }
      else
        let msg := resize msg part.length
        { ipc with msg := msg, received := ipc.received ++ [msg] }
    | some (msgLen, msgLenReceived) =>
      let part := datagram.take (ipc.msg.length - msgLenReceived)
      if part.isEmpty then { ipc with running := false }
      else
        let msg := overwrite ipc.msg msgLenReceived part
        let msgLenReceived := msgLenReceived + part.length
        if msgLenReceived < msgLen then
          { ipc with msg := msg, reading := some (msgLen, msgLenReceived) }
        else { ipc with msg := msg, reading := none, received := ipc.received ++ [msg] }
  else ipc

end LocIpc

/-- What callers may send: something, in as many bytes as the `uint32_t length` counts,
that does not begin like the messages that the loop keeps for itself. -/
structure Payload where
  data : List UInt8
  nonEmpty : data ≠ []
  fits : data.length < 2 ^ 32
  notAbort : ¬ LOC_MSG_ABORT <+: data
  notHead : ¬ LOC_MSG_HEAD <+: data

end Msm8917Common.LocUtil
