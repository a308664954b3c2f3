import SyncProbe.Text.Utf8
import SyncProbe.WebSocket.Error

/-!
# Frames on a connection

A WebSocket frame has a head of two bytes, its length in up to eight more, a mask where the sender
is a client, and a payload. `WebSocket.Frame.read` takes a frame from the front of what has arrived,
or says that more has to arrive; `WebSocket.Frame.encode` writes one without a mask.

A close frame may give a code and a reason. `CloseReason.read` reads them, and replaces a code that
no side may send by a complaint about it.
-/

namespace SyncProbe.WebSocket

/-! ## Opcodes -/

/-- What a frame is. -/
inductive Opcode where
  | continuation
  | data (kind : DataKind)
  | close
  | ping
  | pong
deriving DecidableEq, Repr

namespace Opcode

def code : Opcode → Nat
  | continuation => 0
  | data .text => 1
  | data .binary => 2
  | close => 8
  | ping => 9
  | pong => 10

def all : List Opcode := [continuation, data .text, data .binary, close, ping, pong]

def ofCode? (code : Nat) : Option Opcode :=
  all.find? (·.code = code)

/-- Whether frames of the kind control the connection. They are short and never in pieces. -/
def isControl (opcode : Opcode) : Bool :=
  8 ≤ opcode.code

end Opcode

/-! ## Frames -/

/-- A frame. The payload of a masked one is still masked, since no client takes it. -/
structure Frame where
  /-- Whether no piece of the same message follows. -/
  final : Bool
  /-- Whether a bit is set that has no meaning here. -/
  reserved : Bool
  masked : Bool
  opcode : Opcode
  payload : Bytes
deriving DecidableEq, Repr

/-- The number that bytes spell, most significant first. -/
def bigEndian (bytes : Bytes) : Nat :=
  bytes.foldl (fun value byte => value * 256 + byte.toNat) 0

/-- A number in bytes, most significant first. -/
def toBigEndian : Nat → Nat → Bytes
  | 0, _ => []
  | count + 1, value => toBigEndian count (value / 256) ++ [UInt8.ofNat value]

/-- What stands at the front of the bytes that have arrived. -/
inductive Arrival (α : Type) where
  /-- The rest of it has yet to arrive. -/
  | unfinished
  | refused (error : Error)
  | complete (value : α) (rest : Bytes)
deriving DecidableEq, Repr

namespace Frame

/-- The most bytes that a payload may have. -/
def maxSize : Nat := 16 * 1024 * 1024

/-- How many bytes the length takes after the head. -/
def lengthSize (short : Nat) : Nat :=
  if short = 126 then 2 else if short = 127 then 8 else 0

/-- Takes bytes off the front, if that many have arrived. -/
def takeExact? (count : Nat) (bytes : Bytes) : Option (Bytes × Bytes) :=
  if bytes.length < count then none else some (bytes.take count, bytes.drop count)

/-- Reads a payload of a declared size. One that is too long is refused before it has arrived. -/
def readPayload (size : Nat) (frame : Bytes → Frame) (bytes : Bytes) : Arrival Frame :=
  if maxSize < size then .refused (.excess (.tooLong size maxSize))
  else
    match takeExact? size bytes with
    | none => .unfinished
    | some (payload, rest) => .complete (frame payload) rest

def readTail (first second : Nat) (bytes : Bytes) : Arrival Frame :=
  let short := second % 128
  let masked := decide (128 ≤ second)
  match takeExact? (lengthSize short) bytes with
  | none => .unfinished
  | some (length, bytes) =>
    match takeExact? (if masked then 4 else 0) bytes with
    | none => .unfinished
    | some (_, bytes) =>
      match Opcode.ofCode? (first % 16) with
      | none => .refused (.violation (.invalidOpcode (first % 16)))
      | some opcode =>
        let size := if lengthSize short = 0 then short else bigEndian length
        readPayload size
          (fun payload =>
            { final := decide (128 ≤ first)
              reserved := decide (first / 16 % 8 ≠ 0)
              masked, opcode, payload })
          bytes

/-- Reads a frame from the front of what has arrived. -/
def read : Bytes → Arrival Frame
  | first :: second :: bytes => readTail first.toNat second.toNat bytes
  | _ => .unfinished

/-- The length of a payload, in as few bytes as possible. -/
def encodeLength (size : Nat) : Bytes :=
  if size < 126 then [UInt8.ofNat size]
  else if size < UInt16.size then 126 :: toBigEndian 2 size
  else 127 :: toBigEndian 8 size

/-- Writes a whole message as one frame, without a mask. -/
def encode (opcode : Opcode) (payload : Bytes) : Bytes :=
  UInt8.ofNat (128 + opcode.code) :: encodeLength payload.length ++ payload

end Frame

/-! ## Close frames -/

/-- Why a side closes the connection. -/
structure CloseReason where
  code : Nat
  text : String
deriving DecidableEq, Repr

namespace CloseReason

/-- Whether a code may stand in a close frame. The others are kept for local use or for nobody. -/
def isAllowed (code : Nat) : Bool :=
  (1000 ≤ code && code ≤ 1003) || (1007 ≤ code && code ≤ 1013) || (3000 ≤ code && code ≤ 4999)

/-- The answer to a code that may not be sent. -/
def protocolViolation : CloseReason := ⟨1002, "Protocol violation"⟩

/-- Reads the payload of a close frame, as it is then answered and reported. -/
def read : Bytes → Except Error (Option CloseReason)
  | [] => .ok none
  | [_] => .error (.violation .invalidCloseBody)
  | high :: low :: text =>
    match Utf8.decode? text with
    | none => .error .utf8
    | some text =>
      let code := bigEndian [high, low]
      .ok (some (if isAllowed code then ⟨code, text⟩ else protocolViolation))

def encode : Option CloseReason → Bytes
  | none => []
  | some reason => toBigEndian 2 reason.code ++ Utf8.encode reason.text

end CloseReason

end SyncProbe.WebSocket
