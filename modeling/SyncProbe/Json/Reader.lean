import SyncProbe.Json
import SyncProbe.Text.Hex
import SyncProbe.Text.Utf8

/-!
# Reading JSON

`Json.parse` reads a text that holds one JSON value. Arrays and objects nest at most 127 deep, and a
number that is too large for a double is refused.

A reader works on the characters that are left. What it finds wrong is a `Fault`: the cause, the
characters left at that place, and how many bytes beyond it the fault stands. `Fault.locate` turns
that into a line and a column, both counted in bytes of the whole text.
-/

namespace SyncProbe.Json

/-! ## Errors -/

/-- What is wrong with a text. -/
inductive Cause where
  | endInList
  | endInObject
  | endInString
  | endInValue
  | expectedColon
  | expectedListCommaOrEnd
  | expectedObjectCommaOrEnd
  | expectedWord
  | expectedValue
  | invalidEscape
  | invalidNumber
  | numberOutOfRange
  | controlCharacter
  | keyNotString
  | loneSurrogate
  | trailingComma
  | trailingCharacters
  | endOfEscape
  | nestedTooDeep
  /-- The text is JSON, but not of the value that was asked for. -/
  | mismatch (message : String)
deriving DecidableEq, Repr

def Cause.message : Cause → String
  | .endInList => "EOF while parsing a list"
  | .endInObject => "EOF while parsing an object"
  | .endInString => "EOF while parsing a string"
  | .endInValue => "EOF while parsing a value"
  | .expectedColon => "expected `:`"
  | .expectedListCommaOrEnd => "expected `,` or `]`"
  | .expectedObjectCommaOrEnd => "expected `,` or `\x7d`"
  | .expectedWord => "expected ident"
  | .expectedValue => "expected value"
  | .invalidEscape => "invalid escape"
  | .invalidNumber => "invalid number"
  | .numberOutOfRange => "number out of range"
  | .controlCharacter => "control character (\\u0000-\\u001F) found while parsing a string"
  | .keyNotString => "key must be a string"
  | .loneSurrogate => "lone leading surrogate in hex escape"
  | .trailingComma => "trailing comma"
  | .trailingCharacters => "trailing characters"
  | .endOfEscape => "unexpected end of hex escape"
  | .nestedTooDeep => "recursion limit exceeded"
  | .mismatch message => message

/-- A cause, the characters left where it was found, and the bytes from there to the fault. -/
structure Fault where
  cause : Cause
  rest : List Char
  ahead : Nat
deriving DecidableEq, Repr

/-- A fault between what was read and what is left. -/
def Fault.here (cause : Cause) (rest : List Char) : Fault :=
  ⟨cause, rest, 0⟩

/-- A fault that the next byte shows. -/
def Fault.next (cause : Cause) (rest : List Char) : Fault :=
  ⟨cause, rest, 1⟩

/-- An error and its place. Lines count from one, columns count the bytes before the place. -/
structure Error where
  cause : Cause
  line : Nat
  column : Nat
deriving DecidableEq, Repr

def Error.message (error : Error) : String :=
  s!"{error.cause.message} at line {error.line} column {error.column}"

/-- How many bytes spell characters. -/
def byteLength (cs : List Char) : Nat :=
  (cs.map Char.utf8Size).foldr (· + ·) 0

def Fault.locate (text : String) (fault : Fault) : Error :=
  let bytes := Utf8.encode text
  let before := bytes.take (bytes.length - byteLength fault.rest + fault.ahead)
  { cause := fault.cause
    line := before.count 10 + 1
    column := (before.reverse.takeWhile (· ≠ 10)).length }

/-- What a reader made of the characters that were left: a value, and what is left then. -/
structure Parsed (α : Type) where
  value : α
  rest : List Char
deriving DecidableEq, Repr

/-- Reads a value from the characters that are left. -/
abbrev Reader (α : Type) := List Char → Except Fault (Parsed α)

/-! ## Blanks and words -/

def isBlank (c : Char) : Bool :=
  c = ' ' || c = '\n' || c = '\t' || c = '\r'

def skipBlanks (cs : List Char) : List Char :=
  cs.dropWhile isBlank

def readWord (value : α) : List Char → Reader α
  | [], cs => .ok ⟨value, cs⟩
  | _ :: _, [] => .error (.here .endInValue [])
  | expected :: word, c :: cs =>
    if c = expected then readWord value word cs else .error (.next .expectedWord (c :: cs))

/-! ## Numbers -/

/-- The value of a decimal digit. -/
def digit? (c : Char) : Option Nat :=
  if c.isDigit then some (c.toNat - '0'.toNat) else none

/-- Digits that were read: their value, continuing an earlier one, and their number. -/
structure Digits where
  value : Nat
  count : Nat
  rest : List Char

/-- Reads digits as long as the value does not exceed `limit`. -/
def readDigits (limit value count : Nat) : List Char → Digits
  | [] => ⟨value, count, []⟩
  | c :: cs =>
    match digit? c with
    | none => ⟨value, count, c :: cs⟩
    | some digit =>
      let more := value * 10 + digit
      if limit < more then ⟨value, count, c :: cs⟩ else readDigits limit more (count + 1) cs

def startsWithDigit : List Char → Bool
  | c :: _ => c.isDigit
  | [] => false

/-- The greatest integer that is read as one. -/
def maxInteger : Nat := UInt64.size - 1

/-- The greatest exponent that is read as one. -/
def maxPower : Nat := UInt32.size / 2 - 1

def finishDouble (negative : Bool) (digits : Nat) (exponent : Int) (rest : List Char) :
    Except Fault (Parsed JsonNumber) :=
  match Binary64.ofDecimal? negative digits exponent with
  | some value => .ok ⟨.double value, rest⟩
  | none => .error (.here .numberOutOfRange rest)

/--
Reads the digits of an exponent. One that is out of all proportion makes a number zero or out of
range, whatever digits follow.
-/
def readPower (negative : Bool) (digits : Nat) (exponent : Int) (down : Bool) (cs : List Char) :
    Except Fault (Parsed JsonNumber) :=
  match cs with
  | [] => .error (.here .endInValue [])
  | c :: _ =>
    if c.isDigit then
      let power := readDigits maxPower 0 0 cs
      if startsWithDigit power.rest then
        if digits ≠ 0 ∧ ¬ down then .error (.here .numberOutOfRange (power.rest.drop 1))
        else .ok ⟨.double (.zero negative), power.rest.dropWhile Char.isDigit⟩
      else
        let exponent := if down then exponent - power.value else exponent + power.value
        finishDouble negative digits exponent power.rest
    else .error (.next .invalidNumber cs)

def readExponent (negative : Bool) (digits : Nat) (exponent : Int) : Reader JsonNumber
  | '+' :: cs => readPower negative digits exponent false cs
  | '-' :: cs => readPower negative digits exponent true cs
  | cs => readPower negative digits exponent false cs

/-- Ends a number after its digits: maybe an exponent follows. -/
def readTail (negative : Bool) (digits : Nat) (exponent : Int) : Reader JsonNumber
  | 'e' :: cs => readExponent negative digits exponent cs
  | 'E' :: cs => readExponent negative digits exponent cs
  | cs => finishDouble negative digits exponent cs

/-- Reads a fraction, after its point. Digits that no longer fit are passed over. -/
def readFraction (negative : Bool) (digits : Nat) (exponent : Int) (cs : List Char) :
    Except Fault (Parsed JsonNumber) :=
  let fraction := readDigits maxInteger digits 0 cs
  if startsWithDigit fraction.rest then
    readTail negative fraction.value (exponent - fraction.count)
      (fraction.rest.dropWhile Char.isDigit)
  else if fraction.count = 0 then
    match cs with
    | [] => .error (.here .endInValue [])
    | _ => .error (.next .invalidNumber cs)
  else readTail negative fraction.value (exponent - fraction.count) fraction.rest

/-- An integer that no point or exponent follows. A negative zero is a double. -/
def wholeNumber (negative : Bool) (value : Nat) (rest : List Char) :
    Except Fault (Parsed JsonNumber) :=
  if ¬ negative then .ok ⟨.integer value, rest⟩
  else if 0 < value ∧ value ≤ UInt64.size / 2 then .ok ⟨.integer (-value), rest⟩
  else finishDouble true value 0 rest

def readAfterInteger (negative : Bool) (value : Nat) : Reader JsonNumber
  | '.' :: cs => readFraction negative value 0 cs
  | 'e' :: cs => readExponent negative value 0 cs
  | 'E' :: cs => readExponent negative value 0 cs
  | cs => wholeNumber negative value cs

/-- Reads on in an integer with more digits than fit: each further digit is one power of ten. -/
def readLongInteger (negative : Bool) (value : Nat) (cs : List Char) :
    Except Fault (Parsed JsonNumber) :=
  let exponent := (cs.takeWhile Char.isDigit).length
  match cs.dropWhile Char.isDigit with
  | '.' :: cs => readFraction negative value exponent cs
  | cs => readTail negative value exponent cs

def readNumber (negative : Bool) (cs : List Char) : Except Fault (Parsed JsonNumber) :=
  match cs with
  | [] => .error (.here .endInValue [])
  | '0' :: rest =>
    if startsWithDigit rest then .error (.next .invalidNumber rest)
    else readAfterInteger negative 0 rest
  | c :: _ =>
    if c.isDigit then
      let digits := readDigits maxInteger 0 0 cs
      if startsWithDigit digits.rest then readLongInteger negative digits.value digits.rest
      else readAfterInteger negative digits.value digits.rest
    else .error (.next .invalidNumber cs)

/-! ## Strings -/

/-- Reads four hexadecimal digits. -/
def readHex (cs : List Char) : Except Fault (Parsed Nat) :=
  if byteLength (cs.take 4) < 4 then .error (.here .endInString [])
  else
    match cs with
    | a :: b :: c :: d :: rest =>
      match Hex.value? a, Hex.value? b, Hex.value? c, Hex.value? d with
      | some a, some b, some c, some d => .ok ⟨((a * 16 + b) * 16 + c) * 16 + d, rest⟩
      | _, _, _, _ => .error ⟨.invalidEscape, cs, 4⟩
    | _ => .error ⟨.invalidEscape, cs, 4⟩

/-- Reads the second half of a surrogate pair. -/
def readLowSurrogate (high : Nat) : Reader Char
  | [] => .error (.here .endInString [])
  | '\\' :: [] => .error (.here .endInString [])
  | '\\' :: 'u' :: cs => do
    let ⟨low, rest⟩ ← readHex cs
    if low < 0xDC00 ∨ 0xDFFF < low then .error (.here .loneSurrogate rest)
    else return ⟨Char.ofNat ((high - 0xD800) * 0x400 + (low - 0xDC00) + 0x10000), rest⟩
  | '\\' :: cs => .error (.next .endOfEscape cs)
  | cs => .error (.next .endOfEscape cs)

def readEscape : Reader Char
  | [] => .error (.here .endInString [])
  | '"' :: rest => .ok ⟨'"', rest⟩
  | '\\' :: rest => .ok ⟨'\\', rest⟩
  | '/' :: rest => .ok ⟨'/', rest⟩
  | 'b' :: rest => .ok ⟨'\x08', rest⟩
  | 'f' :: rest => .ok ⟨'\x0c', rest⟩
  | 'n' :: rest => .ok ⟨'\n', rest⟩
  | 'r' :: rest => .ok ⟨'\r', rest⟩
  | 't' :: rest => .ok ⟨'\t', rest⟩
  | 'u' :: cs => do
    let ⟨value, rest⟩ ← readHex cs
    if 0xDC00 ≤ value ∧ value ≤ 0xDFFF then .error (.here .loneSurrogate rest)
    else if 0xD800 ≤ value ∧ value ≤ 0xDBFF then readLowSurrogate value rest
    else return ⟨Char.ofNat value, rest⟩
  | cs => .error (.next .invalidEscape cs)

/-- Reads the characters of a string up to its closing quote, in at most `steps` characters. -/
def readChars : Nat → Reader (List Char)
  | 0, _ => .error (.here .endInString [])
  | _ + 1, [] => .error (.here .endInString [])
  | steps + 1, c :: cs =>
    if c = '"' then .ok ⟨[], cs⟩
    else if c = '\\' then do
      let ⟨escaped, rest⟩ ← readEscape cs
      let ⟨text, rest⟩ ← readChars steps rest
      return ⟨escaped :: text, rest⟩
    else if c.toNat < 0x20 then .error (.next .controlCharacter (c :: cs))
    else do
      let ⟨text, rest⟩ ← readChars steps cs
      return ⟨c :: text, rest⟩

/-- Reads a string after its opening quote. -/
def readString (cs : List Char) : Except Fault (Parsed String) := do
  let ⟨text, rest⟩ ← readChars (cs.length + 1) cs
  return ⟨String.ofList text, rest⟩

/-! ## Arrays and objects -/

/-- Reads the elements of an array from the first one on, in at most `steps` elements. -/
def readElements (element : Reader Json) : Nat → Reader (List Json)
  | 0, cs => .error (.here .endInList cs)
  | steps + 1, cs => do
    let ⟨value, rest⟩ ← element cs
    match skipBlanks rest with
    | [] => .error (.here .endInList [])
    | ']' :: rest => return ⟨[value], rest⟩
    | ',' :: rest =>
      match skipBlanks rest with
      | [] => .error (.here .endInValue [])
      | ']' :: rest => .error (.next .trailingComma (']' :: rest))
      | cs => do
        let ⟨values, rest⟩ ← readElements element steps cs
        return ⟨value :: values, rest⟩
    | rest => .error (.next .expectedListCommaOrEnd rest)

def readArray (element : Reader Json) (cs : List Char) : Except Fault (Parsed Json) :=
  match skipBlanks cs with
  | [] => .error (.here .endInList [])
  | ']' :: rest => .ok ⟨.array [], rest⟩
  | cs => do
    let ⟨values, rest⟩ ← readElements element cs.length cs
    return ⟨.array values, rest⟩

/-- Reads the colon after a member's name. -/
def readColon (cs : List Char) : Except Fault (Parsed Unit) :=
  match skipBlanks cs with
  | [] => .error (.here .endInObject [])
  | ':' :: rest => .ok ⟨(), rest⟩
  | rest => .error (.next .expectedColon rest)

/-- Reads a member after its opening quote. -/
def readMember (value : Reader Json) (cs : List Char) : Except Fault (Parsed (String × Json)) := do
  let ⟨name, rest⟩ ← readString cs
  let ⟨_, rest⟩ ← readColon rest
  let ⟨held, rest⟩ ← value rest
  return ⟨(name, held), rest⟩

/-- Reads the members of an object from inside the first name on, in at most `steps` members. -/
def readMembers (value : Reader Json) :
    Nat → Reader (List (String × Json))
  | 0, cs => .error (.here .endInObject cs)
  | steps + 1, cs => do
    let ⟨member, rest⟩ ← readMember value cs
    match skipBlanks rest with
    | [] => .error (.here .endInObject [])
    | '}' :: rest => return ⟨[member], rest⟩
    | ',' :: rest =>
      match skipBlanks rest with
      | [] => .error (.here .endInValue [])
      | '"' :: rest => do
        let ⟨members, rest⟩ ← readMembers value steps rest
        return ⟨member :: members, rest⟩
      | '}' :: rest => .error (.next .trailingComma ('}' :: rest))
      | rest => .error (.next .keyNotString rest)
    | rest => .error (.next .expectedObjectCommaOrEnd rest)

def readObject (value : Reader Json) (cs : List Char) : Except Fault (Parsed Json) :=
  match skipBlanks cs with
  | [] => .error (.here .endInObject [])
  | '}' :: rest => .ok ⟨.object [], rest⟩
  | '"' :: rest => do
    let ⟨members, rest⟩ ← readMembers value rest.length rest
    return ⟨.ofMembers members, rest⟩
  | rest => .error (.next .keyNotString rest)

/-! ## Values -/

def readNumberValue (negative : Bool) (cs : List Char) : Except Fault (Parsed Json) := do
  let ⟨value, rest⟩ ← readNumber negative cs
  return ⟨.number value, rest⟩

/-- Reads a value whose arrays and objects nest at most `depth` deep. -/
def readValue : Nat → Reader Json
  | depth, cs =>
    match skipBlanks cs with
    | [] => .error (.here .endInValue [])
    | 'n' :: rest => readWord .null ['u', 'l', 'l'] rest
    | 't' :: rest => readWord (.bool true) ['r', 'u', 'e'] rest
    | 'f' :: rest => readWord (.bool false) ['a', 'l', 's', 'e'] rest
    | '-' :: rest => readNumberValue true rest
    | '"' :: rest => do
      let ⟨value, rest⟩ ← readString rest
      return ⟨.string value, rest⟩
    | '[' :: rest =>
      match depth with
      | 0 => .error (.next .nestedTooDeep ('[' :: rest))
      | depth + 1 => readArray (readValue depth) rest
    | '{' :: rest =>
      match depth with
      | 0 => .error (.next .nestedTooDeep ('{' :: rest))
      | depth + 1 => readObject (readValue depth) rest
    | c :: rest =>
      if c.isDigit then readNumberValue false (c :: rest)
      else .error (.next .expectedValue (c :: rest))

/-- How deep arrays and objects may nest. -/
def maxDepth : Nat := 127

/-- Refuses anything but blanks after a value. -/
def finish (reading : Except Fault (Parsed α)) : Except Fault α := do
  let ⟨value, rest⟩ ← reading
  match skipBlanks rest with
  | [] => return value
  | rest => .error (.next .trailingCharacters rest)

def parse (text : String) : Except Error Json :=
  (finish (readValue maxDepth text.toList)).mapError (·.locate text)

end SyncProbe.Json
