import SyncProbe.Text.Hex
import SyncProbe.Text.Utf8

/-!
# Percent-encoding

A part of a URL writes the characters that it cannot hold as the bytes of their UTF-8 spelling, each
behind a percent sign. What a part cannot hold is a set of ASCII characters; what is not ASCII is
always encoded. Each set below extends the one before it.
-/

namespace SyncProbe.Url

/-! ## Sets of characters -/

/-- Control characters, which no part holds. -/
def isControl (c : Char) : Bool :=
  c.toNat < 0x20 || c.toNat = 0x7F

/-- What a fragment cannot hold. -/
def outsideFragment (c : Char) : Bool :=
  isControl c || [' ', '"', '<', '>', '\x60'].contains c

/-- What a path cannot hold. -/
def outsidePath (c : Char) : Bool :=
  outsideFragment c || ['#', '?', '{', '}'].contains c

/-- What a user name or a password cannot hold. -/
def outsideUserinfo (c : Char) : Bool :=
  outsidePath c || ['/', ':', ';', '=', '@', '[', '\\', ']', '^', '|'].contains c

/-- What a query cannot hold. A special scheme also encodes the apostrophe. -/
def outsideQuery (special : Bool) (c : Char) : Bool :=
  isControl c || [' ', '"', '#', '<', '>'].contains c || (special && c = '\'')

/-! ## Encoding and decoding -/

/-- A byte behind a percent sign, in upper case. -/
def encodeByte (byte : UInt8) : List Char :=
  ['%', (Hex.digit (byte.toNat / 16)).toUpper, (Hex.digit (byte.toNat % 16)).toUpper]

/-- Encodes what is outside of a part, and leaves the rest as it is. -/
def encode (outside : Char → Bool) (cs : List Char) : List Char :=
  cs.flatMap fun c =>
    if c.toNat < 0x80 && ! outside c then [c] else (String.utf8EncodeChar c).flatMap encodeByte

/-- The byte that two hexadecimal digits spell. -/
def spelled? (high low : UInt8) : Option UInt8 := do
  let high ← Hex.value? (Char.ofNat high.toNat)
  let low ← Hex.value? (Char.ofNat low.toNat)
  return UInt8.ofNat (high * 16 + low)

/-- Replaces each percent sign that two hexadecimal digits follow by the byte they spell. -/
def decode : Bytes → Bytes
  | byte :: high :: low :: after =>
    match if byte = 37 then spelled? high low else none with
    | some spelled => spelled :: decode after
    | none => byte :: decode (high :: low :: after)
  | byte :: rest => byte :: decode rest
  | [] => []

end SyncProbe.Url
