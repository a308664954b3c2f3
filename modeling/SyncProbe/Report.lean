import SyncProbe.Event
import SyncProbe.Output.Table

/-!
# The report of a run

A finished run is summed up in a report: what was received, and how the run ended. A person gets it
as a table and a program as a JSON object.
-/

namespace SyncProbe

/-- How a run ended. -/
inductive Ending where
  /-- No message arrived within the idle timeout. -/
  | idleTimeout
  /-- The user stopped the run. -/
  | interrupted
  /-- The server closed. The reason is empty if none was given. -/
  | serverClosed (code : Option Nat) (reason : String)
deriving DecidableEq, Repr

namespace Ending

/-- The ending as it stands in a table. -/
def text : Ending → String
  | idleTimeout => "idle timeout"
  | interrupted => "interrupted"
  | serverClosed (some code) _ => s!"closed by server ({code})"
  | serverClosed none _ => "closed by server"

def toJson : Ending → Json
  | idleTimeout => .object [("reason", .string "idle_timeout")]
  | interrupted => .object [("reason", .string "interrupted")]
  | serverClosed code reason =>
    .object [("reason", .string "server_closed"), ("code", Event.codeJson code),
      ("message", .string reason)]

end Ending

/-- What a finished run observed. -/
structure Report where
  endpoint : Url
  /-- The size of the first message, unless the run was stopped before it came. -/
  initial : Option Nat
  /-- The sizes of the later messages. -/
  updates : List Nat
  ending : Ending
deriving DecidableEq, Repr

namespace Report

/-- The size of all later messages. -/
def updateBytes (report : Report) : Nat :=
  report.updates.foldr (· + ·) 0

/-- The first message as it stands in a table. -/
def initialText (report : Report) : String :=
  match report.initial with
  | some size => s!"{size} bytes"
  | none => "-"

def table (report : Report) : Table where
  header := ["Endpoint", "Initial state", "Updates", "Update bytes", "Ended"]
  rows := [[report.endpoint.text, report.initialText, toString report.updates.length,
    toString report.updateBytes, report.ending.text]]

def initialJson (report : Report) : Json :=
  match report.initial with
  | some size => .nat size
  | none => .null

def toJson (report : Report) : Json :=
  .object [("endpoint", .string report.endpoint.text), ("initial_len", report.initialJson),
    ("updates", .array (report.updates.map .nat)), ("end", report.ending.toJson)]

end Report

end SyncProbe
