import SyncProbe.Varint

/-!
# Frames of the sync protocol

A message between a client and a sync server is a frame: a byte that names its kind, the client it
speaks of where the kind has one, and a payload behind its length.

| kind | bytes after the kind |
|---|---|
| `syncStep1` | length, state vector |
| `syncStep2` | length, document update |
| `awareness` | client, length, presence state as JSON text |

`Frame.encode` writes a frame and `Frame.decode` reads one from the front of a byte string. Servers
pad frames, so what follows the payload is given back and not refused. An awareness frame without a
payload says that the client has gone, and is read as a frame without a state.
-/

namespace SyncProbe

/-! ## Kinds -/

/-- What a frame is for. -/
inductive FrameKind where
  /-- State vector exchange. -/
  | syncStep1
  /-- Document update. -/
  | syncStep2
  /-- Presence state: cursors and user names. -/
  | awareness
deriving DecidableEq, Repr

namespace FrameKind

/-- The byte that leads a frame of the kind. -/
def tag : FrameKind → UInt8
  | syncStep1 => 0
  | syncStep2 => 1
  | awareness => 2

/-- The kind that a leading byte names. -/
def ofTag? (tag : UInt8) : Option FrameKind :=
  if tag = 0 then some syncStep1
  else if tag = 1 then some syncStep2
  else if tag = 2 then some awareness
  else none

def name : FrameKind → String
  | syncStep1 => "sync_step1"
  | syncStep2 => "sync_step2"
  | awareness => "awareness"

def all : List FrameKind := [syncStep1, syncStep2, awareness]

def ofName? (name : String) : Option FrameKind :=
  all.find? (·.name == name)

end FrameKind

/-! ## Frames -/

/-- A frame. -/
inductive Frame where
  | syncStep1 (stateVector : Bytes)
  | syncStep2 (update : Bytes)
  /-- Without a state, the client's presence is removed. -/
  | awareness (clientId : UInt32) (state : Option String)
deriving DecidableEq, Repr

/-- Why a byte string is not a frame. -/
inductive DecodeError where
  | empty
  | unknownKind (tag : UInt8)
  /-- The client or the payload's length cannot be read. -/
  | length (error : Varint.Error)
  /-- Fewer bytes are left than the frame declares. -/
  | truncated (expected actual : Nat)
  /-- An awareness state is not text. -/
  | invalidUtf8
deriving DecidableEq, Repr

def DecodeError.message : DecodeError → String
  | .empty => "empty frame"
  | .unknownKind tag => s!"unknown message type {tag.toNat}"
  | .length error => "invalid length prefix: " ++ error.message
  | .truncated expected actual =>
    s!"frame declares {expected} payload bytes but carries {actual}"
  | .invalidUtf8 => "awareness state is not valid UTF-8"

/-- Why a frame cannot be written: its payload is too long for a 32-bit length. -/
structure EncodeError where
  size : Nat
deriving DecidableEq, Repr

def EncodeError.message (error : EncodeError) : String :=
  s!"payload of {error.size} bytes does not fit a 32-bit length prefix"

namespace Frame

def kind : Frame → FrameKind
  | syncStep1 _ => .syncStep1
  | syncStep2 _ => .syncStep2
  | awareness _ _ => .awareness

/-- The bytes behind the length. A removed presence has none. -/
def payload : Frame → Bytes
  | syncStep1 stateVector => stateVector
  | syncStep2 update => update
  | awareness _ none => []
  | awareness _ (some state) => Utf8.encode state

/-- The client that a frame speaks of, as it is written before the length. -/
def client : Frame → Bytes
  | awareness clientId _ => Varint.encode clientId
  | _ => []

/-! ## Writing -/

/-- Writes a frame. -/
def encode (frame : Frame) : Except EncodeError Bytes :=
  let size := frame.payload.length
  if size < UInt32.size then
    .ok (frame.kind.tag :: frame.client ++ Varint.encode (UInt32.ofNat size) ++ frame.payload)
  else .error ⟨size⟩

/-! ## Reading -/

/-- Reads an integer of a frame's header. -/
def readLength (body : Bytes) : Except DecodeError (UInt32 × Bytes) :=
  (Varint.decode body).mapError .length

/-- Reads a payload behind its length, and gives what follows it. -/
def readPayload (body : Bytes) : Except DecodeError (Bytes × Bytes) := do
  let (declared, rest) ← readLength body
  let expected := declared.toNat
  if rest.length < expected then .error (.truncated expected rest.length)
  else .ok (rest.take expected, rest.drop expected)

def readState (payload : Bytes) : Except DecodeError (Option String) :=
  if payload.isEmpty then .ok none
  else
    match Utf8.decode? payload with
    | some state => .ok (some state)
    | none => .error .invalidUtf8

/-- Reads a frame from the front of a byte string, and gives what follows its payload. -/
def decode : Bytes → Except DecodeError (Frame × Bytes)
  | [] => .error .empty
  | tag :: body =>
    match FrameKind.ofTag? tag with
    | none => .error (.unknownKind tag)
    | some .syncStep1 => do
      let (stateVector, rest) ← readPayload body
      return (syncStep1 stateVector, rest)
    | some .syncStep2 => do
      let (update, rest) ← readPayload body
      return (syncStep2 update, rest)
    | some .awareness => do
      let (clientId, body) ← readLength body
      let (payload, rest) ← readPayload body
      let state ← readState payload
      return (awareness clientId state, rest)

end Frame

end SyncProbe
