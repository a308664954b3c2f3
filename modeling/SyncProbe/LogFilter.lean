import SyncProbe.Text.Alphanumeric
import SyncProbe.Text.Split

/-!
# Filters of the diagnostic log

A filter is a list of directives between commas, each of which lets a level of messages through: for
everything, for a target, or for a span of a target with certain fields, as in
`target[span{field=value}]=level`. The program only starts if its filter can be read.
-/

namespace SyncProbe.LogFilter

/-- Why a filter cannot be read. -/
inductive Error where
  | directive
  | level
deriving DecidableEq, Repr

namespace Error

def message : Error → String
  | directive => "invalid filter directive"
  | level =>
    "error parsing level filter: expected one of \"off\", \"error\", \"warn\", \"info\", "
      ++ "\"debug\", \"trace\", or a number 0-5"

/-- What the error goes back to. A level reports its own error, in the same words. -/
def causes : Error → List String
  | directive => []
  | level => [level.message]

end Error

/-! ## Levels -/

def levelNames : List String := ["off", "error", "warn", "info", "debug", "trace"]

/-- The greatest number of a level. -/
def maxLevel : Nat := 5

/-- Whether characters spell the number of a level, maybe with a plus sign. -/
def isLevelNumber (cs : List Char) : Bool :=
  let digits := match cs with
    | '+' :: rest => rest
    | cs => cs
  ! digits.isEmpty && digits.all Char.isDigit &&
    digits.foldl (fun value c => value * 10 + (c.toNat - '0'.toNat)) 0 ≤ maxLevel

/-- Whether characters name a level, in any case of letters, or leave it open. -/
def isLevel (cs : List Char) : Bool :=
  cs.isEmpty || isLevelNumber cs || levelNames.contains (String.ofList (cs.map Char.toLower))

/-! ## Directives -/

/-- Checks what follows a target or a span: nothing, or a level. No blanks may surround it. -/
def checkLevel (bare : Bool) : List Char → Except Error Unit
  | [] => .ok ()
  | '=' :: level => if bare && isLevel level then .ok () else .error .level
  | _ => .error .directive

/-- Checks the fields of a span behind their brace, and gives what follows the span. -/
def checkFields (cs : List Char) : Except Error (List Char) :=
  match cs with
  | '}' :: _ => .error .directive
  | cs =>
    match cs.dropWhile (· ≠ '}') with
    | '}' :: ']' :: rest => .ok rest
    | _ => .error .directive

/-- Checks a span behind its bracket, and gives what follows it. -/
def checkSpan (cs : List Char) : Except Error (List Char) :=
  match cs.dropWhile fun c => c ≠ ']' && c ≠ '{' with
  | '{' :: fields => checkFields fields
  | _ :: rest => .ok rest
  | [] => .error .directive

/-- Whether a directive may start with a character. -/
def isStart (c : Char) : Bool :=
  Text.isAlphanumeric c || c = '-' || c = ':' || c = '_'

def trim (cs : List Char) : List Char :=
  ((cs.dropWhile Text.isBlank).reverse.dropWhile Text.isBlank).reverse

/-- Checks a directive. A lone word is a level or a target. -/
def checkDirective (cs : List Char) : Except Error Unit :=
  let bare := trim cs = cs
  match trim cs with
  | [] => .error .directive
  | '[' :: span => do checkLevel bare (← checkSpan span)
  | c :: rest =>
    if isStart c then
      match rest.dropWhile fun c => c ≠ '=' && c ≠ '[' with
      | '[' :: span => do checkLevel bare (← checkSpan span)
      | rest => checkLevel bare rest
    else .error .directive

/-! ## Filters -/

def check (filter : String) : Except Error Unit :=
  ((splitOn (· = ',') filter.toList).filter (! ·.isEmpty)).forM checkDirective

/-- The filter of a program that is given none, or a blank one. -/
def default : String := "crdt_probe=info"

/-- The filter that an environment variable chooses. -/
def ofVariable : Option String → String
  | some filter => if (trim filter.toList).isEmpty then default else filter
  | none => default

end SyncProbe.LogFilter
