import SyncProbe.Number.Binary64

/-!
# Shortest decimals

`Binary64.shortest` gives the decimal with the fewest digits that still reads back as a double, and
of those the nearest to it. `Binary64.text` writes it: positionally from `0.00001` to 16 digits
before the point, and with an exponent beyond.
-/

namespace SyncProbe

/-- The positive decimal `digits · 10 ^ exponent`. -/
structure Decimal where
  digits : Nat
  exponent : Int
deriving DecidableEq, Repr

namespace Binary64

/-! ## Digits -/

/-- The greatest exponent whose power of ten is at most a positive ratio. -/
def logTen (num den : Nat) : Int :=
  let guess : Int := ((Nat.toDigits 10 num).length : Int) - ((Nat.toDigits 10 den).length : Int)
  if den * Nat.pow 10 guess.toNat ≤ num * Nat.pow 10 (-guess).toNat then guess else guess - 1

/--
The quarters of a unit in the last place that the reals rounding to a double span, below and above
it. Below a power of two the next double is only half as far.
-/
def quarters (x : Binary64) : Nat × Nat :=
  if x.significand = 1 <<< (precision - 1) ∧ minExponent < x.exponent then (1, 2) else (2, 2)

/--
The decimal of the grid `10 ^ exponent` that reads back as the positive double, the nearer one of
the two neighbours. An even significand takes the ends of its span too.
-/
def onGrid? (x : Binary64) (exponent : Int) : Option Decimal :=
  let unit := x.exponent - 2
  let cell := Nat.pow 10 exponent.toNat <<< (-unit).toNat
  let quarter := Nat.pow 10 (-exponent).toNat <<< unit.toNat
  let (below, above) := x.quarters
  let center := 4 * x.significand * quarter
  let least := (4 * x.significand - below) * quarter
  let most := (4 * x.significand + above) * quarter
  let admits (digits : Nat) : Bool :=
    let place := digits * cell
    if x.significand % 2 = 0 then least ≤ place && place ≤ most
    else least < place && place < most
  let low := center / cell
  let high := low + 1
  let down := center - low * cell
  let up := high * cell - center
  let nearer := if down < up ∨ down = up ∧ low % 2 = 0 then low else high
  if admits nearer then some ⟨nearer, exponent⟩
  else if admits low then some ⟨low, exponent⟩
  else if admits high then some ⟨high, exponent⟩
  else none

/-- Moves trailing zeros of the digits into the exponent. -/
def trim : Nat → Decimal → Decimal
  | 0, decimal => decimal
  | steps + 1, ⟨digits, exponent⟩ =>
    if digits ≠ 0 ∧ digits % 10 = 0 then trim steps ⟨digits / 10, exponent + 1⟩
    else ⟨digits, exponent⟩

/-- As many digits as tell every double from its neighbours. -/
def maxDigits : Nat := 17

/-- The shortest decimal that reads back as the positive double. -/
def shortest (x : Binary64) : Decimal :=
  let (num, den) := x.ratio
  let top := logTen num den
  let found := (List.range maxDigits).findSome? fun (fewer : Nat) => x.onGrid? (top - fewer)
  trim maxDigits (found.getD ⟨0, 0⟩)

/-! ## Text -/

/-- The least place of the decimal point, counted from the first digit, that is still positional. -/
def leastPoint : Int := -4

/-- The greatest place of the decimal point that is still positional. -/
def greatestPoint : Int := 16

def zeros (count : Nat) : List Char :=
  List.replicate count '0'

/-- The digits of a decimal, with a point and maybe an exponent. -/
def Decimal.chars (decimal : Decimal) : List Char :=
  let digits := Nat.toDigits 10 decimal.digits
  let point := digits.length + decimal.exponent
  if 0 ≤ decimal.exponent ∧ point ≤ greatestPoint then
    digits ++ zeros decimal.exponent.toNat ++ ['.', '0']
  else if 0 < point ∧ point ≤ greatestPoint then
    digits.take point.toNat ++ '.' :: digits.drop point.toNat
  else if leastPoint ≤ point ∧ point ≤ 0 then
    '0' :: '.' :: zeros (-point).toNat ++ digits
  else
    let fraction := if digits.length = 1 then [] else '.' :: digits.drop 1
    let power := point - 1
    digits.take 1 ++ fraction ++ 'e' :: (if power < 0 then '-' else '+')
      :: Nat.toDigits 10 power.natAbs

/-- The text of a double. -/
def chars (x : Binary64) : List Char :=
  let sign := if x.negative then ['-'] else []
  if x.significand = 0 then sign ++ ['0', '.', '0'] else sign ++ Decimal.chars x.shortest

end Binary64

end SyncProbe
