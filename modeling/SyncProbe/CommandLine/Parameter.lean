import SyncProbe.Output
import SyncProbe.Url.Parser

/-!
# Parameters

The program has one positional parameter and a few options. A `Slot` is a parameter that takes a
value; the others are flags. A slot that the command line leaves open is filled from the
environment, if it has a variable of its own there, or else by its default.
-/

namespace SyncProbe.CommandLine

/-- A parameter that takes a value. -/
inductive Slot where
  | url
  | idleTimeout
  | format
deriving DecidableEq, Repr

namespace Slot

/-- What stands for the value in messages. -/
def placeholder : Slot → String
  | url => "URL"
  | idleTimeout => "MILLIS"
  | format => "FORMAT"

/-- The name of the option. The URL has none, since it is positional. -/
def option? : Slot → Option String
  | url => none
  | idleTimeout => some "idle-timeout-ms"
  | format => some "output-format"

/-- The environment variable that fills the slot. -/
def variableName? : Slot → Option String
  | url => some "CRDT_PROBE_URL"
  | idleTimeout => some "CRDT_PROBE_IDLE_TIMEOUT_MS"
  | format => none

/-- The value of a slot that nothing else fills. -/
def default : Slot → String
  | url => "ws://localhost:9000"
  | idleTimeout => "1000"
  | format => Format.plainText.name

end Slot

/-- What the command line may hold. -/
inductive Parameter where
  | slot (which : Slot)
  | inspect
  | help
  | version
deriving DecidableEq, Repr

namespace Parameter

/-- The options, in the order in which they are declared. -/
def options : List Parameter :=
  [slot .idleTimeout, inspect, slot .format, help, version]

/-- The name of the option. -/
def option? : Parameter → Option String
  | slot which => which.option?
  | inspect => some "inspect"
  | help => some "help"
  | version => some "version"

def ofOption? (name : String) : Option Parameter :=
  options.find? (·.option? = some name)

/-- An option as it is typed, without a value. -/
def flag (parameter : Parameter) : String :=
  "--" ++ parameter.option?.getD ""

/-- The parameter as it stands in messages. -/
def text : Parameter → String
  | slot .url => "[URL]"
  | slot which => (slot which).flag ++ " <" ++ which.placeholder ++ ">"
  | parameter => parameter.flag

end Parameter

/-! ## Settings -/

/-- What a parameter on the command line sets. -/
inductive Setting where
  | url (value : Url)
  | idleTimeout (milliseconds : Nat)
  | format (value : Format)
  | inspect
deriving DecidableEq, Repr

namespace Setting

def parameter : Setting → Parameter
  | url _ => .slot .url
  | idleTimeout _ => .slot .idleTimeout
  | format _ => .slot .format
  | inspect => .inspect

def url? : Setting → Option Url
  | url value => some value
  | _ => none

def idleTimeout? : Setting → Option Nat
  | idleTimeout milliseconds => some milliseconds
  | _ => none

def format? : Setting → Option Format
  | format value => some value
  | _ => none

end Setting

/-! ## Environment -/

/-- The environment variables that fill slots. -/
structure Environment where
  url : Option Bytes := none
  idleTimeout : Option Bytes := none
deriving DecidableEq, Repr

def Environment.value? (environment : Environment) : Slot → Option Bytes
  | .url => environment.url
  | .idleTimeout => environment.idleTimeout
  | .format => none

end SyncProbe.CommandLine
