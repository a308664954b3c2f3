import SyncProbe.CommandLine.Refusal
import SyncProbe.Text.Padding

/-!
# Help

The help describes every parameter: what it is for, which environment variable fills it and with
what at the moment, its default, and its possible values. In brief it has one line for each
parameter. In detail each parameter has a block of its own, and the possible values are explained.
-/

namespace SyncProbe.CommandLine.Help

/-- How much the help tells. -/
inductive Extent where
  | brief
  | detailed
deriving DecidableEq, Repr

/-! ## What is told of a parameter -/

/-- The formats, each with what it is. The explanations start in one column. -/
def formatList : String :=
  let width := (Format.all.map (·.name.length)).foldl max 0 + 2
  let explain (format : Format) : String :=
    "\n- " ++ ({ width : Field }.write (format.name ++ ":")) ++ format.help
  "Possible values:" ++ String.join (Format.all.map explain)

def about? (extent : Extent) : Parameter → Option String
  | .slot .url => some "WebSocket endpoint of the sync server"
  | .slot .idleTimeout => some "How long to wait for each update before disconnecting"
  | .slot .format =>
    match extent with
    | .brief => none
    | .detailed => some formatList
  | .inspect => some "Decode each message as a y-websocket frame and report its type"
  | .help =>
    match extent with
    | .brief => some "Print help (see more with '--help')"
    | .detailed => some "Print help (see a summary with '-h')"
  | .version => some "Print version"

/-- The note on the environment variable that fills a slot, with its value. -/
def environmentNote (environment : Environment) (slot : Slot) : List String :=
  match slot.variableName? with
  | some name =>
    let value := Text.printable (Utf8.lossy ((environment.value? slot).getD []))
    [s!"[env: {name}={value}]"]
  | none => []

def notes (extent : Extent) (environment : Environment) : Parameter → List String
  | .slot slot =>
    let choices :=
      if slot = .format ∧ extent = .brief then [s!"[possible values: {Refusal.formatNames}]"]
      else []
    environmentNote environment slot ++ [s!"[default: {slot.default}]"] ++ choices
  | _ => []

/-- All that is told of a parameter. -/
def content (extent : Extent) (environment : Environment) (parameter : Parameter) : String :=
  let notes := notes extent environment parameter
  let about := (about? extent parameter).toList
  match extent with
  | .brief => " ".intercalate (about ++ notes)
  | .detailed =>
    let notes := if notes.isEmpty then [] else ["\n".intercalate notes]
    "\n\n".intercalate (about ++ notes)

/-! ## Layout -/

/-- What stands before a parameter: the letter for it, if there is one. -/
def letter : Parameter → String
  | .slot .url => "  "
  | .help => "  -h, "
  | .version => "  -V, "
  | _ => "      "

/-- The parameter as it heads its row. -/
def label (parameter : Parameter) : String :=
  letter parameter ++ parameter.text

/-- Moves all lines but the first to the right. -/
def indent (margin : Nat) (text : String) : String :=
  let blanks := String.ofList (List.replicate margin ' ')
  ("\n" ++ blanks).intercalate (Text.lines text)

/-- How far a block is moved to the right. -/
def blockMargin : Nat := 10

/-- A parameter in brief, where all descriptions start in one column. -/
def briefRow (environment : Environment) (column : Nat) (parameter : Parameter) : String :=
  { width := column : Field }.write (label parameter)
    ++ indent column (content .brief environment parameter)

def detailedRow (environment : Environment) (parameter : Parameter) : String :=
  label parameter ++ indent blockMargin ("\n" ++ content .detailed environment parameter)

def rows (extent : Extent) (environment : Environment) (parameters : List Parameter) : String :=
  match extent with
  | .brief =>
    let column := (parameters.map fun parameter => (label parameter).length).foldl max 0 + 2
    "\n".intercalate (parameters.map (briefRow environment column))
  | .detailed => "\n\n".intercalate (parameters.map (detailedRow environment))

/-! ## The whole text -/

/-- What the program does. -/
def purpose : String :=
  "Connects to a CRDT sync server and reports the traffic it sends"

/-- The variables that the program reads. -/
def variableNames : String :=
  "Environment variables:
  CRDT_PROBE_URL                Server endpoint
  CRDT_PROBE_IDLE_TIMEOUT_MS    Idle timeout in milliseconds
  RUST_LOG                      Diagnostic log filter (written to stderr)"

/-- Some ways to run the program. -/
def examples : String :=
  "Examples:
  # Probe the local sync server
  $ crdt-probe

  # Probe another server and decode every frame it sends
  $ crdt-probe ws://10.0.0.5:9000 --inspect

  # Wait up to five seconds between updates, one JSON object per line
  $ crdt-probe --idle-timeout-ms 5000 --output-format json"

/-- The help, with the end of its last line. -/
def text (extent : Extent) (environment : Environment) : String :=
  let sections :=
    [purpose, Refusal.usage [], "Arguments:\n" ++ rows extent environment [.slot .url],
      "Options:\n" ++ rows extent environment Parameter.options, variableNames, examples]
  "\n\n".intercalate sections ++ "\n"

/-- The program's version, with the end of its line. -/
def version : String :=
  "crdt-probe 0.1.0\n"

end SyncProbe.CommandLine.Help
