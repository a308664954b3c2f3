import SyncProbe.Json
import SyncProbe.Text.Hex

/-!
# Writing JSON

`Json.text` writes a value without blanks, on one line. In a string, the quote, the backslash and
the control characters are escaped and nothing else is.
-/

namespace SyncProbe.Json

/-! ## Strings -/

/-- A character as it stands in a string. -/
def escape (c : Char) : List Char :=
  if c = '"' then ['\\', '"']
  else if c = '\\' then ['\\', '\\']
  else if c = '\x08' then ['\\', 'b']
  else if c = '\x0c' then ['\\', 'f']
  else if c = '\n' then ['\\', 'n']
  else if c = '\r' then ['\\', 'r']
  else if c = '\t' then ['\\', 't']
  else if c.toNat < 0x20 then
    ['\\', 'u', '0', '0', Hex.digit (c.toNat / 16), Hex.digit (c.toNat % 16)]
  else [c]

def quoted (text : String) : List Char :=
  '"' :: text.toList.flatMap escape ++ ['"']

/-! ## Values -/

def integerChars (value : Int) : List Char :=
  if value < 0 then '-' :: Nat.toDigits 10 value.natAbs else Nat.toDigits 10 value.natAbs

def numberChars : JsonNumber → List Char
  | .integer value => integerChars value
  | .double value => value.chars

mutual

/-- A value, written. -/
def chars : Json → List Char
  | .null => ['n', 'u', 'l', 'l']
  | .bool true => ['t', 'r', 'u', 'e']
  | .bool false => ['f', 'a', 'l', 's', 'e']
  | .number value => numberChars value
  | .string value => quoted value
  | .array elements => '[' :: elementsChars elements ++ [']']
  | .object members => '{' :: membersChars members ++ ['}']

/-- The elements of an array, between commas. -/
def elementsChars : List Json → List Char
  | [] => []
  | [value] => chars value
  | value :: rest => chars value ++ ',' :: elementsChars rest

/-- The members of an object, between commas. -/
def membersChars : List (String × Json) → List Char
  | [] => []
  | [(name, value)] => quoted name ++ ':' :: chars value
  | (name, value) :: rest => quoted name ++ ':' :: chars value ++ ',' :: membersChars rest

end

def text (value : Json) : String :=
  String.ofList value.chars

end SyncProbe.Json
