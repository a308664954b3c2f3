import SyncProbe.Frame
import SyncProbe.Json.Writer

/-!
# What a received message looks like

`Summary` is the shape of a frame on the wire, without its contents. `Inspection` is what a report
says of a message: the summary of the frame it holds, or why it holds none. Neither is ever fatal to
a run. Both have a text for a person and a JSON value for a program.
-/

namespace SyncProbe

/-- The shape of a frame. -/
structure Summary where
  kind : FrameKind
  payloadLength : Nat
  /-- How many bytes follow the payload. -/
  trailingLength : Nat
  /-- The client, for an awareness frame. -/
  clientId : Option UInt32
  /-- Whether the client's presence is removed, for an awareness frame. -/
  removed : Option Bool
deriving DecidableEq, Repr

namespace Summary

def ofFrame (frame : Frame) (trailing : Nat) : Summary where
  kind := frame.kind
  payloadLength := frame.payload.length
  trailingLength := trailing
  clientId := match frame with
    | .awareness clientId _ => some clientId
    | _ => none
  removed := match frame with
    | .awareness _ state => some state.isNone
    | _ => none

/-- Summarises the frame at the front of a message. -/
def inspect (data : Bytes) : Except DecodeError Summary := do
  let (frame, rest) ← Frame.decode data
  return ofFrame frame rest.length

/-- The client, as it stands in a line of text. -/
def clientText (summary : Summary) : String :=
  match summary.clientId with
  | some clientId => s!", client {clientId.toNat}"
  | none => ""

/-- The removal, as it stands in a line of text. -/
def removedText (summary : Summary) : String :=
  if summary.removed = some true then ", removed" else ""

/-- The bytes after the payload, as they stand in a line of text. -/
def trailingText (summary : Summary) : String :=
  if 0 < summary.trailingLength then s!", {summary.trailingLength} trailing bytes" else ""

def text (summary : Summary) : String :=
  s!"{summary.kind.name}, payload {summary.payloadLength} bytes"
    ++ summary.clientText ++ summary.removedText ++ summary.trailingText

/-- A member of an object that is only there if it has a value. -/
def optionalMember (name : String) : Option Json → List (String × Json)
  | some value => [(name, value)]
  | none => []

def toJson (summary : Summary) : Json :=
  .object
    ([("kind", .string summary.kind.name), ("payload_len", .nat summary.payloadLength),
      ("trailing_len", .nat summary.trailingLength)]
      ++ optionalMember "client_id" (summary.clientId.map fun clientId => .nat clientId.toNat)
      ++ optionalMember "removed" (summary.removed.map .bool))

end Summary

/-- What is said of a message. -/
inductive Inspection where
  | frame (summary : Summary)
  | undecodable (error : DecodeError)
deriving DecidableEq, Repr

namespace Inspection

/-- Inspects a message. -/
def ofBytes (data : Bytes) : Inspection :=
  match Summary.inspect data with
  | .ok summary => frame summary
  | .error error => undecodable error

def text : Inspection → String
  | frame summary => summary.text
  | undecodable error => "not a y-websocket frame: " ++ error.message

def toJson : Inspection → Json
  | frame summary => summary.toJson
  | undecodable error => .object [("error", .string error.message)]

end Inspection

end SyncProbe
