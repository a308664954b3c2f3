import SyncProbe.CommandLine.Parameter
import SyncProbe.Text.Printable
import SyncProbe.Text.Similarity

/-!
# Command lines that are refused

A `Refusal` says what is wrong with a command line. Its message names the argument, may give a tip,
and may recall the usage, where the parameters that were given so far stand in place of all options.
-/

namespace SyncProbe.CommandLine

/-! ## Causes -/

/-- What is wrong with the value of a slot. -/
inductive ValueError where
  | url (error : UrlError)
  | scheme (found : String)
  | missingHost
  | noDigits
  | invalidDigit
  | tooLarge
  | zero
deriving DecidableEq, Repr

def endpointScheme : String := "ws"

/-- The first number of milliseconds that does not fit in 64 bits. -/
def timeoutBound : Nat := UInt64.size

def ValueError.message : ValueError → String
  | .url error => error.message
  | .scheme found => s!"unsupported scheme `{found}`, expected `{endpointScheme}`"
  | .missingHost => "missing host"
  | .noDigits => "cannot parse integer from empty string"
  | .invalidDigit => "invalid digit found in string"
  | .tooLarge => "number too large to fit in target type"
  | .zero => s!"0 is not in 1..{timeoutBound - 1}"

/-- What may help. -/
inductive Tip where
  /-- Another option is spelt alike. -/
  | similar (option : Parameter)
  /-- What looks like an option may be meant as a value. -/
  | escape
deriving DecidableEq, Repr

/-- Why a command line is refused. Texts in it are shown as they were typed. -/
inductive Refusal where
  /-- No parameter takes the argument. -/
  | unknown (argument : String) (tip : Option Tip) (given : List Parameter)
  | repeated (parameter : Parameter)
  /-- A flag has a value. -/
  | unneeded (value : String) (parameter : Parameter) (given : List Parameter)
  | missingValue (slot : Slot)
  /-- There is no format of the name. -/
  | unknownFormat (name : String)
  | invalid (slot : Slot) (value : String) (error : ValueError)
  /-- A value is not UTF-8. -/
  | notText
deriving DecidableEq, Repr

namespace Refusal

/-! ## Parts of the message -/

/-- A text between apostrophes. -/
def marked (text : String) : String :=
  "'" ++ text ++ "'"

/-- A text that a user typed, between apostrophes. -/
def typed (text : String) : String :=
  marked (Text.printable text)

/-- What went wrong. -/
def headline : Refusal → String
  | unknown argument _ _ => s!"unexpected argument {typed argument} found"
  | repeated parameter => s!"the argument {marked parameter.text} cannot be used multiple times"
  | unneeded value parameter _ =>
    s!"unexpected value {typed value} for {marked parameter.text} found; no more were expected"
  | missingValue slot =>
    s!"a value is required for {marked (Parameter.slot slot).text} but none was supplied"
  | unknownFormat name =>
    s!"invalid value {typed name} for {marked (Parameter.slot .format).text}"
  | invalid slot value error =>
    s!"invalid value {typed value} for {marked (Parameter.slot slot).text}: {error.message}"
  | notText => "invalid UTF-8 was detected in one or more arguments"

def formatNames : String :=
  ", ".intercalate (Format.all.map Format.name)

/-- The line that lists what a value may be. -/
def choices : Refusal → String
  | unknownFormat _ => s!"\n  [possible values: {formatNames}]"
  | missingValue .format => s!"\n  [possible values: {formatNames}]"
  | _ => ""

/-- What may help with an argument. -/
def Tip.text (argument : String) : Tip → String
  | .similar option => s!"a similar argument exists: {marked option.flag}"
  | .escape => "to pass " ++ typed argument ++ " as a value, use " ++ typed ("-- " ++ argument)

/-- What may help, if anything does. -/
def tip? : Refusal → Option String
  | unknown argument tip _ => tip.map (Tip.text argument)
  | unknownFormat name =>
    (Text.mostSimilar? name Format.name Format.all).map fun format =>
      s!"a similar value exists: {marked format.name}"
  | _ => none

/-- The usage of the program. What is given stands in place of all options. -/
def usage (given : List Parameter) : String :=
  let options := (given.eraseDups.filter (· ≠ .slot .url)).map Parameter.text
  let url := if given.contains (.slot .url) then "<URL>" else "[URL]"
  let options := if given.isEmpty then ["[OPTIONS]"] else options
  "Usage: " ++ " ".intercalate ("crdt-probe" :: options ++ [url])

/-- The usage as the message recalls it. -/
def usage? : Refusal → Option String
  | unknown _ _ given => some (usage given)
  | repeated _ => some (usage [])
  | unneeded _ _ given => some (usage given)
  | notText => some (usage [])
  | _ => none

/-- A paragraph of a message, behind an empty line. -/
def paragraph (label : String) : Option String → String
  | some text => "\n\n" ++ label ++ text
  | none => ""

/-- The message, with the end of its last line. -/
def message (refusal : Refusal) : String :=
  "error: " ++ refusal.headline ++ refusal.choices ++ paragraph "  tip: " refusal.tip?
    ++ paragraph "" refusal.usage? ++ paragraph "" (some "For more information, try '--help'.")
    ++ "\n"

end Refusal

end SyncProbe.CommandLine
