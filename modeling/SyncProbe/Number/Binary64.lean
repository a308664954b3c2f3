/-!
# Double-precision numbers

`Binary64` is a finite double as the number it is, `± significand · 2 ^ exponent`. Arithmetic on it
goes through exact ratios of natural numbers and one rounding, `Binary64.ofRatio?`: to the nearest
double, and to the one with an even significand when two are equally near. There is no infinity: an
operation that would give one gives nothing.
-/

namespace SyncProbe

/-- A finite double. -/
structure Binary64 where
  negative : Bool
  /-- Below `2 ^ 53`, and at least `2 ^ 52` unless the exponent is the least one. -/
  significand : Nat
  /-- From `-1074` to `971`. -/
  exponent : Int
deriving DecidableEq, Repr

namespace Binary64

/-- How many bits a significand has. -/
def precision : Nat := 53

def minExponent : Int := -1074

def maxExponent : Int := 971

def zero (negative : Bool) : Binary64 := ⟨negative, 0, minExponent⟩

/-! ## Rounding -/

/-- The natural number nearest to a ratio, the even one of two. -/
def roundRatio (num den : Nat) : Nat :=
  let quotient := num / den
  let double := 2 * (num % den)
  if double < den then quotient
  else if den < double then quotient + 1
  else quotient + quotient % 2

/-- A ratio divided by a power of two. -/
def scaleDown (num den : Nat) (exponent : Int) : Nat × Nat :=
  (num <<< (-exponent).toNat, den <<< exponent.toNat)

/-- The greatest exponent whose power of two is at most a positive ratio. -/
def logTwo (num den : Nat) : Int :=
  let guess : Int := (num.log2 : Int) - (den.log2 : Int)
  let (above, below) := scaleDown num den guess
  if below ≤ above then guess else guess - 1

/-- The double nearest to a ratio, if one is near enough. -/
def ofRatio? (negative : Bool) (num den : Nat) : Option Binary64 :=
  if num = 0 then some (zero negative)
  else
    let exponent := max (logTwo num den - (precision - 1 : Nat)) minExponent
    let (above, below) := scaleDown num den exponent
    let significand := roundRatio above below
    let (significand, exponent) :=
      if significand = 1 <<< precision then (1 <<< (precision - 1), exponent + 1)
      else (significand, exponent)
    if maxExponent < exponent then none else some ⟨negative, significand, exponent⟩

/-! ## Arithmetic on magnitudes -/

/-- The number without its sign, as a ratio. -/
def ratio (x : Binary64) : Nat × Nat :=
  scaleDown x.significand 1 (-x.exponent)

/-- The double nearest to a natural number. -/
def ofNat? (n : Nat) : Option Binary64 :=
  ofRatio? false n 1

def add? (x y : Binary64) : Option Binary64 :=
  let (a, b) := x.ratio
  let (c, d) := y.ratio
  ofRatio? false (a * d + c * b) (b * d)

def mul? (x y : Binary64) : Option Binary64 :=
  let (a, b) := x.ratio
  let (c, d) := y.ratio
  ofRatio? false (a * c) (b * d)

def div? (x y : Binary64) : Option Binary64 :=
  let (a, b) := x.ratio
  let (c, d) := y.ratio
  ofRatio? false (a * d) (b * c)

/-- Whether one magnitude is below another. -/
def below (x y : Binary64) : Bool :=
  let (a, b) := x.ratio
  let (c, d) := y.ratio
  a * d < c * b

def withSign (x : Binary64) (negative : Bool) : Binary64 :=
  { x with negative }

/-! ## Decimals -/

/-- The double nearest to a power of ten. -/
def powTen? (exponent : Nat) : Option Binary64 :=
  ofNat? (Nat.pow 10 exponent)

/-- The greatest power of ten that is a double. -/
def maxPowTen : Nat := 308

/--
Scales a magnitude by a power of ten, in one multiplication or division where the power is a double.
A smaller power is reached by dividing by the greatest one first, and an underflow to zero ends
that.
-/
def scaleTen? : Nat → Binary64 → Int → Option Binary64
  | 0, x, _ => some x
  | steps + 1, x, exponent =>
    if exponent.natAbs ≤ maxPowTen then do
      let power ← powTen? exponent.natAbs
      if 0 ≤ exponent then x.mul? power else x.div? power
    else if x.significand = 0 then some x
    else if 0 ≤ exponent then none
    else do
      let power ← powTen? maxPowTen
      let x ← x.div? power
      scaleTen? steps x (exponent + maxPowTen)

/--
The double for `digits · 10 ^ exponent`. The digits are rounded first and then scaled, so the result
may be a neighbour of the nearest double. There is none for a number that is too large.
-/
def ofDecimal? (negative : Bool) (digits : Nat) (exponent : Int) : Option Binary64 := do
  let x ← ofNat? digits
  let x ← scaleTen? (exponent.natAbs / maxPowTen + 1) x exponent
  return x.withSign negative

end Binary64

end SyncProbe
