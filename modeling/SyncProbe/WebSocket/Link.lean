import SyncProbe.WebSocket.Frame

/-!
# From bytes to signals

`Link` is the receiving side of an open connection: the bytes that have arrived but make no frame
yet, and the pieces of a message whose last piece has not arrived. `Link.receive` adds bytes and
gives the signals that they complete, one for each frame. A close frame, or a frame that breaks a
rule, is the last signal of a connection.

Pieces of a text are checked as they arrive: a piece that no further one can make valid is refused
at once, and the whole text has to be valid.
-/

namespace SyncProbe.WebSocket

/-- A complete message. -/
inductive Message where
  | text (content : String)
  | binary (content : Bytes)
deriving DecidableEq, Repr

def Message.bytes : Message → Bytes
  | .text content => Utf8.encode content
  | .binary content => content

/-- What a server's bytes amount to. -/
inductive Signal where
  | message (content : Message)
  /-- A piece of a message whose last piece has yet to arrive. -/
  | piece
  | ping (data : Bytes)
  | pong (data : Bytes)
  /-- The server closes the connection. -/
  | closed (reason : Option CloseReason)
  /-- The connection cannot go on. -/
  | failed (error : Error)
deriving DecidableEq, Repr

/-- Whether no signal of the same connection follows. -/
def Signal.isLast : Signal → Bool
  | .closed _ => true
  | .failed _ => true
  | _ => false

/-- The pieces of a message that have arrived. -/
structure Pieces where
  kind : DataKind
  data : Bytes
deriving DecidableEq, Repr

namespace Pieces

/-- The most bytes that a message may have. -/
def maxSize : Nat := 64 * 1024 * 1024

def add (pieces : Pieces) (data : Bytes) : Except Error Pieces :=
  let whole := pieces.data ++ data
  if maxSize < whole.length then .error (.excess (.tooLong whole.length maxSize))
  else if pieces.kind = .text ∧ (Utf8.resume [] whole).isNone then .error .utf8
  else .ok { pieces with data := whole }

/-- The message, once all pieces are there. -/
def complete (pieces : Pieces) : Except Error Message :=
  match pieces.kind with
  | .binary => .ok (.binary pieces.data)
  | .text =>
    match Utf8.decode? pieces.data with
    | some content => .ok (.text content)
    | none => .error .utf8

end Pieces

/-- The receiving side of an open connection. -/
structure Link where
  waiting : Bytes := []
  pieces : Option Pieces := none
deriving DecidableEq, Repr

namespace Link

/-- The pieces that are held after a frame, and what the frame amounts to. -/
abbrev Progress := Option Pieces × Signal

/-- Takes up a piece of a message. -/
def takePiece (pieces : Pieces) (frame : Frame) : Except Error Progress := do
  let pieces ← pieces.add frame.payload
  if frame.final then
    let message ← pieces.complete
    return (none, .message message)
  else return (some pieces, .piece)

/-- Takes up a control frame. -/
def takeControl (frame : Frame) : Except Error Signal :=
  if ! frame.final then .error (.violation .fragmentedControl)
  else if 125 < frame.payload.length then .error (.violation .controlTooBig)
  else
    match frame.opcode with
    | .ping => .ok (.ping frame.payload)
    | .pong => .ok (.pong frame.payload)
    | _ => do return .closed (← CloseReason.read frame.payload)

/-- Takes up a frame. -/
def take (pieces : Option Pieces) (frame : Frame) : Except Error Progress :=
  if frame.reserved then .error (.violation .reservedBits)
  else if frame.masked then .error (.violation .maskedFrame)
  else if frame.opcode.isControl then do return (pieces, ← takeControl frame)
  else
    match frame.opcode, pieces with
    | .data kind, some _ => .error (.violation (.expectedFragment kind))
    | .data kind, none => takePiece ⟨kind, []⟩ frame
    | _, some pieces => takePiece pieces frame
    | _, none => .error (.violation .nothingToContinue)

/-- Reads frames in at most `steps` steps: their signals, and the link after them if it goes on. -/
def readFrames : Nat → Link → List Signal × Option Link
  | 0, link => ([], some link)
  | steps + 1, link =>
    match Frame.read link.waiting with
    | .unfinished => ([], some link)
    | .refused error => ([.failed error], none)
    | .complete frame waiting =>
      match take link.pieces frame with
      | .error error => ([.failed error], none)
      | .ok (pieces, signal) =>
        if signal.isLast then ([signal], none)
        else
          let (signals, link) := readFrames steps ⟨waiting, pieces⟩
          (signal :: signals, link)

/-- Adds bytes that have arrived. Every frame takes at least one of them. -/
def receive (link : Link) (bytes : Bytes) : List Signal × Option Link :=
  let waiting := link.waiting ++ bytes
  readFrames (waiting.length + 1) { link with waiting }

end Link

end SyncProbe.WebSocket
