/-!
# Hexadecimal digits

Digits are written in lower case, and read in either.
-/

namespace SyncProbe.Hex

/-- The digit of a value below 16. -/
def digit (value : Nat) : Char :=
  Nat.digitChar value

def value? (c : Char) : Option Nat :=
  if c.isDigit then some (c.toNat - '0'.toNat)
  else if 'a' ≤ c ∧ c ≤ 'f' then some (c.toNat - 'a'.toNat + 10)
  else if 'A' ≤ c ∧ c ≤ 'F' then some (c.toNat - 'A'.toNat + 10)
  else none

end SyncProbe.Hex
