import SyncProbe.Text.Utf8

/-!
# Variable-length integers

A varint spells a 32-bit integer in groups of seven bits, least significant first. Every byte but
the last has its high bit set, and five bytes are enough.

`Varint.encode` writes the shortest spelling. `Varint.decode` reads from the front of a byte string
and gives the rest of it back; it also takes spellings with superfluous zero groups, as long as they
fit in five bytes.
-/

namespace SyncProbe.Varint

/-- The most bytes that a 32-bit integer takes: seven bits each, rounded up. -/
def maxLength : Nat := 5

/-- Why no integer stands at the front of a byte string. -/
inductive Error where
  /-- There are no bytes. -/
  | empty
  /-- The bytes end before a final byte. -/
  | incomplete
  /-- The integer has more than 32 bits. -/
  | overflow
deriving DecidableEq, Repr

def Error.message : Error → String
  | .empty => "no bytes to decode"
  | .incomplete => "varuint ends before its final byte"
  | .overflow => "varuint does not fit in 32 bits"

/-! ## Writing -/

/-- The groups of an integer, where after the first byte at most `room` more may follow. -/
def groups : Nat → Nat → Bytes
  | 0, value => [UInt8.ofNat value]
  | room + 1, value =>
    if value < 128 then [UInt8.ofNat value]
    else UInt8.ofNat (value % 128 + 128) :: groups room (value / 128)

/-- The shortest spelling of an integer. -/
def encode (value : UInt32) : Bytes :=
  groups (maxLength - 1) value.toNat

/-! ## Reading -/

/--
Reads groups to a final byte, where after the first byte at most `room` more may follow. The last
byte that has room may only hold the top four bits of a 32-bit integer.
-/
def readGroups : Nat → Bytes → Except Error (Nat × Bytes)
  | _, [] => .error .incomplete
  | 0, byte :: rest => if byte ≤ 0x0F then .ok (byte.toNat, rest) else .error .overflow
  | room + 1, byte :: rest =>
    if byte < 0x80 then .ok (byte.toNat, rest)
    else do
      let (high, rest) ← readGroups room rest
      return (byte.toNat % 128 + 128 * high, rest)

/-- Reads an integer from the front of a byte string, and gives what follows it. -/
def decode : Bytes → Except Error (UInt32 × Bytes)
  | [] => .error .empty
  | byte :: rest => do
    let (value, rest) ← readGroups (maxLength - 1) (byte :: rest)
    return (UInt32.ofNat value, rest)

end SyncProbe.Varint
