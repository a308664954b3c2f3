import SyncProbe.Frame.Summary
import SyncProbe.Output.Line
import SyncProbe.Url

/-!
# Events of a run

A run tells what happens as it happens. Each event has a line for a person and a JSON object for a
program, tagged with the event's name.
-/

namespace SyncProbe

/-- Something that happened in a run. -/
inductive Event where
  | connected (endpoint : Url)
  /-- The first message, with its size and maybe what it holds. -/
  | initialState (size : Nat) (frame : Option Inspection)
  | waiting
  /-- A later message. -/
  | update (size : Nat) (frame : Option Inspection)
  | idleTimeout (milliseconds : Nat)
  | disconnecting
  | serverClosed (code : Option Nat) (reason : String)
  | stopped
deriving DecidableEq, Repr

namespace Event

/-! ## For a person -/

/-- A line with what a message holds, if that was asked for. -/
def annotate (line : String) : Option Inspection → String
  | some frame => line ++ " (" ++ frame.text ++ ")"
  | none => line

/-- Why the server closed. A reason without a code is not told. -/
def closingText : Option Nat → String → String
  | some code, reason =>
    if reason.isEmpty then s!" ({code})" else s!" ({code}: " ++ reason ++ ")"
  | none, _ => ""

/-- The event in words. -/
def message : Event → String
  | connected endpoint => "Connected to " ++ endpoint.text
  | initialState size frame => annotate s!"Received initial state: {size} bytes" frame
  | waiting => "Staying connected... (press Ctrl+C to disconnect)"
  | update size frame => annotate s!"Received update: {size} bytes" frame
  | idleTimeout milliseconds => s!"No message within {milliseconds} ms, closing connection"
  | disconnecting => "Disconnecting..."
  | serverClosed code reason => "Server closed the connection" ++ closingText code reason
  | stopped => "Stopped"

def line (event : Event) : Line :=
  ⟨.info, event.message⟩

/-! ## For a program -/

def name : Event → String
  | connected _ => "connected"
  | initialState _ _ => "initial_state"
  | waiting => "waiting"
  | update _ _ => "update"
  | idleTimeout _ => "idle_timeout"
  | disconnecting => "disconnecting"
  | serverClosed _ _ => "server_closed"
  | stopped => "stopped"

/-- The close code, or null. -/
def codeJson : Option Nat → Json
  | some code => .nat code
  | none => .null

def messageMembers (size : Nat) (frame : Option Inspection) : List (String × Json) :=
  ("bytes", .nat size) :: Summary.optionalMember "frame" (frame.map Inspection.toJson)

/-- The members behind the tag. -/
def members : Event → List (String × Json)
  | connected endpoint => [("endpoint", .string endpoint.text)]
  | initialState size frame => messageMembers size frame
  | update size frame => messageMembers size frame
  | idleTimeout milliseconds => [("timeout_ms", .nat milliseconds)]
  | serverClosed code reason => [("code", codeJson code), ("message", .string reason)]
  | _ => []

def toJson (event : Event) : Json :=
  .object (("event", .string event.name) :: event.members)

end Event

end SyncProbe
