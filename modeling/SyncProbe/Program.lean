import SyncProbe.CommandLine
import SyncProbe.LogFilter
import SyncProbe.Session.Route

/-!
# The program

The program reads its command line, checks the filter of its diagnostic log and runs the probe. An
`Execution` is what comes of that. Everything that it writes, and its exit code, is a function of
it.
-/

namespace SyncProbe

/-- What a program is started with. -/
structure Invocation where
  arguments : List Bytes
  environment : CommandLine.Environment := {}
  /-- The variable that chooses the filter of the diagnostic log. -/
  logFilter : Option Bytes := none
deriving DecidableEq, Repr

/-! ## Running -/

namespace Configuration

/-- The run that a configuration asks for. -/
def session (configuration : Configuration) : Session where
  endpoint := configuration.endpoint
  idleTimeout := configuration.idleTimeout
  inspect := configuration.inspect

/-- Runs the probe over a network. -/
def run (configuration : Configuration) (route : Route) : Course :=
  configuration.session.run (route.attempt configuration.endpoint)

end Configuration

/-- What comes of starting the program. -/
inductive Execution where
  /-- The command line is answered, and nothing is run. -/
  | answered (reply : CommandLine.Reply)
  /-- The program cannot be set up. -/
  | unready (format : Format) (failure : Failure)
  | ran (format : Format) (course : Course)
deriving DecidableEq, Repr

namespace Invocation

variable [Naming]

def checkFilter (invocation : Invocation) : Except LogFilter.Error Unit :=
  LogFilter.check (LogFilter.ofVariable (invocation.logFilter.bind Utf8.decode?))

/-- Runs the program over a network. -/
def run (invocation : Invocation) (route : Route) : Execution :=
  match CommandLine.parse invocation.arguments invocation.environment with
  | .error reply => .answered reply
  | .ok configuration =>
    match invocation.checkFilter with
    | .error error => .unready configuration.format (.setup error.message error.causes)
    | .ok _ => .ran configuration.format (configuration.run route)

end Invocation

/-! ## What is written -/

/-- What a run writes at its end. -/
def Outcome.entries : Outcome → List Entry
  | .reported report => [.report report]
  | .failed error => [.failure (.probe error)]
  | .pending => []

/-- The exit code of a run, unless it goes on forever. -/
def Outcome.exitCode : Outcome → Option Nat
  | .reported _ => some 0
  | .failed error => some (Failure.probe error).exitCode
  | .pending => none

/-- What a run writes. -/
def Course.entries (course : Course) : List Entry :=
  course.events.map .event ++ course.outcome.entries

namespace Execution

def entries : Execution → List Entry
  | answered _ => []
  | unready _ failure => [.failure failure]
  | ran _ course => course.entries

/-- The exit code, unless the program runs forever. -/
def exitCode : Execution → Option Nat
  | answered reply => some reply.exitCode
  | unready _ failure => some failure.exitCode
  | ran _ course => course.outcome.exitCode

/-- Entries as they are printed, each with the end of its last line. -/
def print (format : Format) (entries : List Entry) : String :=
  String.join (entries.map fun entry => entry.text format ++ "\n")

/-- What is written to standard output. -/
def output (execution : Execution) (environment : CommandLine.Environment) : String :=
  match execution with
  | answered reply => if reply.isError then "" else reply.text environment
  | unready format _ => print format execution.entries
  | ran format _ => print format execution.entries

/-- What is written to standard error. -/
def complaint (execution : Execution) (environment : CommandLine.Environment) : String :=
  match execution with
  | answered reply => if reply.isError then reply.text environment else ""
  | _ => ""

end Execution

end SyncProbe
