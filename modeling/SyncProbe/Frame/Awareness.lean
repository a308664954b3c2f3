import SyncProbe.Frame
import SyncProbe.Json.Reader
import SyncProbe.Json.Writer
import SyncProbe.Text.Literal

/-!
# JSON in and about frames

An awareness frame carries its client's state as JSON text, which `Frame.awarenessState` reads.
`FrameKind.parse` reads the name of a kind from JSON text: a string, or an object whose one member
is named for the kind and is null.
-/

namespace SyncProbe

namespace Frame

/-- The presence state of an awareness frame, if its text is JSON. Other frames have none. -/
def awarenessState : Frame → Option (Except Json.Error Json)
  | awareness _ (some state) => some (Json.parse state)
  | _ => none

end Frame

namespace FrameKind

open Json

def toJson (kind : FrameKind) : Json :=
  .string kind.name

/-- A name between backquotes. -/
def ticked (name : String) : String :=
  s!"`{name}`"

def unknownName (name : String) : Cause :=
  let names := ", ".intercalate (all.map fun kind => ticked kind.name)
  .mismatch ("unknown variant " ++ ticked name ++ ", expected one of " ++ names)

def readName (cs : List Char) : Except Fault (Parsed FrameKind) := do
  let ⟨name, rest⟩ ← readString cs
  match ofName? name with
  | some kind => return ⟨kind, rest⟩
  | none => .error (.here (unknownName name) rest)

/-- A number as it is named in an error. -/
def describeNumber : JsonNumber → String
  | .integer value => "integer " ++ ticked (String.ofList (integerChars value))
  | .double value => "floating point " ++ ticked (String.ofList value.chars)

/-- Reads a value only to name it in an error. An array or object is named by its bracket. -/
def describe (cs : List Char) : Except Fault (Parsed String) :=
  match cs with
  | 'n' :: rest => readWord "null" ['u', 'l', 'l'] rest
  | 't' :: rest => readWord ("boolean " ++ ticked "true") ['r', 'u', 'e'] rest
  | 'f' :: rest => readWord ("boolean " ++ ticked "false") ['a', 'l', 's', 'e'] rest
  | '"' :: rest => do
    let ⟨text, rest⟩ ← readString rest
    return ⟨"string " ++ Text.literal text, rest⟩
  | '[' :: rest => .ok ⟨"sequence", '[' :: rest⟩
  | '{' :: rest => .ok ⟨"map", '{' :: rest⟩
  | '-' :: rest => do
    let ⟨value, rest⟩ ← readNumber true rest
    return ⟨describeNumber value, rest⟩
  | c :: rest =>
    if c.isDigit then do
      let ⟨value, rest⟩ ← readNumber false (c :: rest)
      return ⟨describeNumber value, rest⟩
    else .error (.next .expectedValue (c :: rest))
  | [] => .error (.next .expectedValue [])

/-- Refuses a value of another type than the expected one. -/
def refuse (expected : String) (cs : List Char) : Except Fault α := do
  let ⟨found, rest⟩ ← describe cs
  .error (.here (.mismatch s!"invalid type: {found}, expected {expected}") rest)

/-- Reads the null that stands for a kind in an object. -/
def readUnit (cs : List Char) : Except Fault (Parsed Unit) :=
  match skipBlanks cs with
  | [] => .error (.here .endInValue [])
  | 'n' :: rest => readWord () ['u', 'l', 'l'] rest
  | cs => refuse "unit" cs

/-- Reads the object form of a kind after its brace. -/
def readMember (cs : List Char) : Except Fault (Parsed FrameKind) := do
  let ⟨kind, rest⟩ ← match skipBlanks cs with
    | [] => .error (.here .endInValue [])
    | '"' :: rest => readName rest
    | cs => refuse "variant identifier" cs
  let ⟨_, rest⟩ ← readColon rest
  let ⟨_, rest⟩ ← readUnit rest
  match skipBlanks rest with
  | [] => .error (.here .endInObject [])
  | '}' :: rest => return ⟨kind, rest⟩
  | rest => .error (.here .expectedValue rest)

def read (cs : List Char) : Except Fault (Parsed FrameKind) :=
  match skipBlanks cs with
  | [] => .error (.here .endInValue [])
  | '{' :: rest => readMember rest
  | '"' :: rest => readName rest
  | cs => .error (.next .expectedValue cs)

def parse (text : String) : Except Json.Error FrameKind :=
  (finish (read text.toList)).mapError (·.locate text)

end FrameKind

end SyncProbe
