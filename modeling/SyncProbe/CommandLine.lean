import SyncProbe.CommandLine.Help

/-!
# The command line

`CommandLine.parse` reads the arguments and the environment into a `Configuration`, or says what to
answer in its place.

Arguments are read from left to right. An option takes its value from behind an equals sign or from
the next argument, unless that looks like an option itself. Everything behind `--` is positional. A
value is only looked at when the next parameter starts, or at the end: an argument that no parameter
takes is refused first, whatever is wrong with the value before it.
-/

namespace SyncProbe

/-- What the program is to do. -/
structure Configuration where
  endpoint : Url
  /-- In milliseconds. -/
  idleTimeout : Nat
  inspect : Bool
  format : Format
deriving DecidableEq, Repr

namespace CommandLine

variable [Naming]

/-- What the program answers if it is not to run. -/
inductive Reply where
  | help (extent : Help.Extent)
  | version
  | refusal (cause : Refusal)
deriving DecidableEq, Repr

namespace Reply

/-- The text of the answer, with the end of its last line. -/
def text (environment : Environment) : Reply → String
  | help extent => Help.text extent environment
  | version => Help.version
  | refusal cause => cause.message

/-- Whether the answer tells of an error. -/
def isError : Reply → Bool
  | refusal _ => true
  | _ => false

def exitCode (reply : Reply) : Nat :=
  if reply.isError then 2 else 0

end Reply

/-! ## Values -/

/-- Reads a URL that the program can connect to. -/
def readEndpoint (text : String) : Except ValueError Url := do
  let url ← (Url.parse text).mapError .url
  if url.scheme ≠ endpointScheme then .error (.scheme url.scheme)
  else if url.host?.isNone then .error .missingHost
  else .ok url

/-- Reads decimal digits up to the first that is none, or that makes the number too large. -/
def readDigits (value : Nat) : List Char → Except ValueError Nat
  | [] => .ok value
  | c :: rest =>
    if ! c.isDigit then .error .invalidDigit
    else
      let value := value * 10 + (c.toNat - '0'.toNat)
      if timeoutBound ≤ value then .error .tooLarge else readDigits value rest

/-- Reads a number of milliseconds, which may have a plus sign. -/
def readNumber : List Char → Except ValueError Nat
  | [] => .error .noDigits
  | '+' :: c :: rest => readDigits 0 (c :: rest)
  | cs => readDigits 0 cs

/-- Reads a time to wait: at least a millisecond. -/
def readTimeout (text : String) : Except ValueError Nat := do
  let value ← readNumber text.toList
  if value = 0 then .error .zero else .ok value

def readText (slot : Slot) (read : String → Except ValueError α) (value : Bytes) :
    Except Refusal α :=
  match Utf8.decode? value with
  | none => .error .notText
  | some text => (read text).mapError (.invalid slot text)

def readUrl (value : Bytes) : Except Refusal Url :=
  readText .url readEndpoint value

def readIdleTimeout (value : Bytes) : Except Refusal Nat :=
  readText .idleTimeout readTimeout value

/-- Reads the name of a format. An empty name counts as a missing one. -/
def readFormat (value : Bytes) : Except Refusal Format :=
  let name := Utf8.lossy value
  match Format.ofName? name with
  | some format => .ok format
  | none => if name.isEmpty then .error (.missingValue .format) else .error (.unknownFormat name)

def Slot.read (slot : Slot) (value : Bytes) : Except Refusal Setting :=
  match slot with
  | .url => Setting.url <$> readUrl value
  | .idleTimeout => Setting.idleTimeout <$> readIdleTimeout value
  | .format => Setting.format <$> readFormat value

/-! ## Arguments -/

/-- What an argument looks like, before `--`. -/
inductive Token where
  /-- The sign that all further arguments are positional. -/
  | escape
  | long (name : Bytes) (value : Option Bytes)
  /-- Options of one letter, behind one dash. -/
  | letters (names : Bytes)
  | plain (value : Bytes)
deriving DecidableEq, Repr

/-- The dash, as a byte. -/
def dash : UInt8 := 45

def equalsSign : UInt8 := 61

/-- An option behind its two dashes, with the value behind an equals sign. -/
def Token.ofLong (argument : Bytes) : Token :=
  match argument.dropWhile (· ≠ equalsSign) with
  | _ :: value => .long (argument.takeWhile (· ≠ equalsSign)) (some value)
  | [] => .long argument none

/-- A lone dash is a value. -/
def Token.ofArgument (argument : Bytes) : Token :=
  match argument with
  | first :: second :: rest =>
    if first ≠ dash then .plain argument
    else if second ≠ dash then .letters (second :: rest)
    else if rest.isEmpty then .escape
    else .ofLong rest
  | _ => .plain argument

/-- The character at the front of bytes, if they start with one. -/
def firstChar? (bytes : Bytes) : Option Char :=
  [1, 2, 3, 4].findSome? fun size =>
    (Utf8.decode? (bytes.take size)).bind (·.toList.head?)

/-! ## Reading arguments -/

/-- A parameter whose value is still to be looked at. -/
inductive Pending where
  /-- An option whose value has not come. -/
  | awaiting (slot : Slot)
  | holding (slot : Slot) (value : Bytes)
deriving DecidableEq, Repr

/-- What the arguments so far come to. -/
structure Scan where
  /-- In the order of the command line. -/
  settings : List Setting := []
  pending : Option Pending := none
deriving DecidableEq, Repr

namespace Scan

/-- The parameters that are set. -/
def given (scan : Scan) : List Parameter :=
  scan.settings.map Setting.parameter

/-- The parameters that count as given once the pending one is looked at, even if that fails. -/
def givenAfter (scan : Scan) : List Parameter :=
  match scan.pending with
  | some (.holding slot _) =>
    if scan.given.contains (.slot slot) then scan.given.erase (.slot slot)
    else scan.given ++ [.slot slot]
  | _ => scan.given

def add (scan : Scan) (setting : Setting) : Scan :=
  { scan with settings := scan.settings ++ [setting] }

/-- Refuses a parameter that is set already. -/
def once (scan : Scan) (parameter : Parameter) : Except Refusal Unit :=
  if scan.given.contains parameter then .error (.repeated parameter) else .ok ()

def fill (scan : Scan) (slot : Slot) (value : Bytes) : Except Refusal Scan := do
  scan.once (.slot slot)
  return scan.add (← slot.read value)

/-- Looks at the pending value. -/
def settle (scan : Scan) : Except Refusal Scan :=
  match scan.pending with
  | none => .ok scan
  | some (.awaiting slot) => .error (.missingValue slot)
  | some (.holding slot value) => { scan with pending := none }.fill slot value

/-- Answers without running, once the pending value turns out well. -/
def answer (scan : Scan) (reply : Reply) : Reply :=
  match scan.settle with
  | .ok _ => reply
  | .error refusal => .refusal refusal

/-- Refuses an option of a name that no option has. -/
def refuseLong (scan : Scan) (name : String) : Refusal :=
  match Text.mostSimilar? name (·.option?.getD "") Parameter.options with
  | some option => .unknown ("--" ++ name) (some (.similar option)) (scan.givenAfter ++ [option])
  | none => .unknown ("--" ++ name) (some .escape) scan.givenAfter

/-- Takes up an option. -/
def takeLong (scan : Scan) (name : Bytes) (value : Option Bytes) : Except Reply Scan :=
  match Parameter.ofOption? (Utf8.lossy name), value with
  | none, _ => .error (.refusal (scan.refuseLong (Utf8.lossy name)))
  | some (.slot slot), none => do
    let scan ← scan.settle.mapError .refusal
    return { scan with pending := some (.awaiting slot) }
  | some (.slot slot), some value => (scan.settle >>= (·.fill slot value)).mapError .refusal
  | some parameter, some value =>
    .error (.refusal (.unneeded (Utf8.lossy value) parameter (scan.given ++ [parameter])))
  | some .inspect, none => Except.mapError .refusal do
    let scan ← scan.settle
    scan.once .inspect
    return scan.add .inspect
  | some .help, none => .error (scan.answer (.help .detailed))
  | some .version, none => .error (scan.answer .version)

/-- Answers an option of one letter: it asks for an answer, or no option has it. -/
def takeLetters (scan : Scan) (names : Bytes) : Reply :=
  match firstChar? names with
  | some 'h' => scan.answer (.help .brief)
  | some 'V' => scan.answer .version
  | some c => .refusal (.unknown (String.ofList ['-', c]) (some .escape) [])
  | none => .refusal (.unknown ("-" ++ Utf8.lossy names) (some .escape) [])

/-- Whether there is a positional argument. -/
def hasPositional (scan : Scan) : Bool :=
  scan.givenAfter.contains (.slot .url)

/-- Takes up a positional argument. There may be one. -/
def takePositional (scan : Scan) (value : Bytes) : Except Refusal Scan :=
  if scan.hasPositional then .error (.unknown (Utf8.lossy value) none [])
  else do
    let scan ← scan.settle
    return { scan with pending := some (.holding .url value) }

/-- Takes up an argument that looks like a value. -/
def takePlain (scan : Scan) (value : Bytes) : Except Refusal Scan :=
  match scan.pending with
  | some (.awaiting slot) => .ok { scan with pending := some (.holding slot value) }
  | _ => scan.takePositional value

/-- Reads arguments to the end. -/
def read : Scan → List Bytes → Except Reply Scan
  | scan, [] => scan.settle.mapError .refusal
  | scan, argument :: rest =>
    match Token.ofArgument argument with
    | .escape =>
      (rest.foldlM takePositional scan >>= settle).mapError .refusal
    | .long name value => do
      let scan ← scan.takeLong name value
      scan.read rest
    | .letters names => .error (scan.takeLetters names)
    | .plain value => do
      let scan ← (scan.takePlain value).mapError .refusal
      scan.read rest

end Scan

/-! ## Configurations -/

/-- The text that fills a slot which the command line leaves open. -/
def Slot.fallback (slot : Slot) (environment : Environment) : Bytes :=
  (environment.value? slot).getD (Utf8.encode slot.default)

/-- The value of a slot: what was set, or else what the fallback reads as. -/
def resolve (set : Option α) (read : Bytes → Except Refusal α) (fallback : Bytes) :
    Except Refusal α :=
  match set with
  | some value => .ok value
  | none => read fallback

def configure (settings : List Setting) (environment : Environment) :
    Except Refusal Configuration := do
  let endpoint ←
    resolve (settings.findSome? Setting.url?) readUrl (Slot.url.fallback environment)
  let idleTimeout ←
    resolve (settings.findSome? Setting.idleTimeout?) readIdleTimeout
      (Slot.idleTimeout.fallback environment)
  let format ←
    resolve (settings.findSome? Setting.format?) readFormat (Slot.format.fallback environment)
  return { endpoint, idleTimeout, inspect := settings.contains .inspect, format }

def parse (arguments : List Bytes) (environment : Environment) : Except Reply Configuration := do
  let scan ← Scan.read {} arguments
  (configure scan.settings environment).mapError .refusal

end CommandLine

end SyncProbe
