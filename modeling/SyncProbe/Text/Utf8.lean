/-!
# Bytes and the text they spell

A message is a list of bytes, and some messages spell text in UTF-8. `Utf8.encode` and
`Utf8.decode?` go between the two: a `String` is a valid byte sequence, so decoding succeeds exactly
on valid bytes and the two undo each other.

Two more readings serve bytes that need not be valid. `Utf8.resume` follows a text that arrives in
pieces and says as early as possible that no continuation can make it valid. `Utf8.lossy` shows
bytes to a person, with one replacement character for each part that cannot be read.
-/

namespace SyncProbe

/-- What travels on the wire, and what an operating system passes as an argument. -/
abbrev Bytes := List UInt8

namespace Utf8

/-! ## Whole texts -/

def encode (text : String) : Bytes :=
  text.toByteArray.data.toList

/-- The text that bytes spell, if they are valid UTF-8. -/
def decode? (bytes : Bytes) : Option String :=
  String.fromUTF8? ⟨bytes.toArray⟩

theorem decode?_encode (text : String) : decode? (encode text) = some text := by
  have same : (⟨(encode text).toArray⟩ : ByteArray) = text.toByteArray := rfl
  simp [decode?, String.fromUTF8?, same, text.isValidUTF8, String.fromUTF8]

theorem encode_of_decode? {bytes : Bytes} {text : String} (read : decode? bytes = some text) :
    encode text = bytes := by
  simp only [decode?, String.fromUTF8?] at read
  split at read
  · injection read with equal
    subst equal
    rfl
  · cases read

theorem decode?_eq_some_iff {bytes : Bytes} {text : String} :
    decode? bytes = some text ↔ bytes = encode text :=
  ⟨fun read => (encode_of_decode? read).symm, fun equal => equal ▸ decode?_encode text⟩

/-! ## Texts in pieces -/

/-- The bytes that may stand at one place of a character, from `low` to `high`. -/
structure Range where
  low : UInt8
  high : UInt8
deriving DecidableEq, Repr

/-- Whether a byte may stand there. -/
def Range.admits (range : Range) (byte : UInt8) : Bool :=
  range.low ≤ byte && byte ≤ range.high

/-- The range of a continuation byte that its leading byte does not narrow. -/
def continuation : Range := ⟨0x80, 0xBF⟩

/--
What has to follow a leading byte, or nothing when no character starts with it. The second byte is
narrowed where a wider range would admit an overlong spelling, a surrogate or a value above
U+10FFFF.
-/
def following? (lead : UInt8) : Option (List Range) :=
  if lead ≤ 0x7F then some []
  else if lead < 0xC2 then none
  else if lead ≤ 0xDF then some [continuation]
  else if lead = 0xE0 then some [⟨0xA0, 0xBF⟩, continuation]
  else if lead = 0xED then some [⟨0x80, 0x9F⟩, continuation]
  else if lead ≤ 0xEF then some [continuation, continuation]
  else if lead = 0xF0 then some [⟨0x90, 0xBF⟩, continuation, continuation]
  else if lead ≤ 0xF3 then some [continuation, continuation, continuation]
  else if lead = 0xF4 then some [⟨0x80, 0x8F⟩, continuation, continuation]
  else none

/--
Reads on from a place where `expected` is still to come, and gives what is to come after the bytes.
There is no answer once a byte stands where it cannot, whatever comes later.
-/
def resume : List Range → Bytes → Option (List Range)
  | expected, [] => some expected
  | [], byte :: rest =>
    match following? byte with
    | some expected => resume expected rest
    | none => none
  | range :: expected, byte :: rest =>
    if range.admits byte then resume expected rest else none

/-! ## Bytes shown to a person -/

/-- What a person sees in place of bytes that spell nothing. -/
def replacement : Char := '\uFFFD'

/--
How a byte reads where a character may start: what it shows at once, what it spells of a longer
character, and what is still to come of that.
-/
def start (byte : UInt8) : List Char × Nat × List Range :=
  match following? byte with
  | none => ([replacement], 0, [])
  | some [] => ([Char.ofNat byte.toNat], 0, [])
  | some expected => ([], byte.toNat % 1 <<< (6 - expected.length), expected)

/--
Reads on from inside a character: `value` is what its bytes spelled so far and `expected` what is to
come. A byte that cannot stand where it does ends the broken character and starts afresh.
-/
def lossyFrom : Nat → List Range → Bytes → List Char
  | _, [], [] => []
  | _, _ :: _, [] => [replacement]
  | _, [], byte :: rest =>
    let (shown, value, expected) := start byte
    shown ++ lossyFrom value expected rest
  | value, range :: expected, byte :: rest =>
    if range.admits byte then
      let value := value * 64 + byte.toNat % 64
      if expected.isEmpty then Char.ofNat value :: lossyFrom 0 [] rest
      else lossyFrom value expected rest
    else
      let (shown, value, expected) := start byte
      replacement :: shown ++ lossyFrom value expected rest

/-- Bytes as text, with one `replacement` for each broken start of a character. -/
def lossy (bytes : Bytes) : String :=
  String.ofList (lossyFrom 0 [] bytes)

end Utf8

end SyncProbe
