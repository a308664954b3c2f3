import SyncProbe.Event
import SyncProbe.WebSocket.Error

/-!
# Failures

A program ends without a report if it cannot be set up, if no connection is made, if the server goes
before its first message, or if the connection breaks. The exit code tells a connection that was not
made from the rest.
-/

namespace SyncProbe

/-- Why a run has no report. -/
inductive ProbeError where
  | connect (endpoint : Url) (error : WebSocket.Error)
  | closedBeforeInitialState
  | receive (error : WebSocket.Error)
deriving DecidableEq, Repr

def ProbeError.message : ProbeError → String
  | .connect endpoint error => "failed to connect to " ++ endpoint.text ++ ": " ++ error.message
  | .closedBeforeInitialState => "connection closed before the initial state arrived"
  | .receive error => "connection failed while receiving: " ++ error.message

/-- Why a program ends without a report. -/
inductive Failure where
  | probe (error : ProbeError)
  /-- The program cannot be set up: the error, and what it goes back to. -/
  | setup (error : String) (causes : List String)
deriving DecidableEq, Repr

namespace Failure

def message : Failure → String
  | probe error => error.message
  | setup error _ => error

def line (failure : Failure) : Line :=
  ⟨.error, "Error: " ++ failure.message⟩

def toJson : Failure → Json
  | probe error => .object [("Probe", .string error.message)]
  | setup error causes => .object [("Setup", .array ((error :: causes).map .string))]

def exitCode : Failure → Nat
  | probe (.connect _ _) => 101
  | _ => 1

end Failure

end SyncProbe
