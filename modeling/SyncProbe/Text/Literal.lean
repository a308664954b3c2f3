import SyncProbe.Text.Invisible

/-!
# Text as a literal

`literal` quotes a text for a message. Quotes, backslashes and the usual controls get short escapes,
and a character that a reader would not see gets its code point.
-/

namespace SyncProbe.Text

/-- A character as it stands in a literal. -/
def literalChar (c : Char) : List Char :=
  if c = '\x00' then ['\\', '0']
  else if c = '\t' then ['\\', 't']
  else if c = '\n' then ['\\', 'n']
  else if c = '\r' then ['\\', 'r']
  else if c = '"' then ['\\', '"']
  else if c = '\\' then ['\\', '\\']
  else if isInvisible c then '\\' :: 'u' :: '{' :: Nat.toDigits 16 c.toNat ++ ['}']
  else [c]

/-- A text between quotes. -/
def literal (text : String) : String :=
  String.ofList ('"' :: text.toList.flatMap literalChar ++ ['"'])

end SyncProbe.Text
