/-!
# Binary floating point

Numbers with 53 significant bits and a bounded exponent, computed exactly: a magnitude is a whole
number times a power of two, and each operation rounds the exact result to the nearest magnitude,
with ties to the even one (`Magnitude.ofRatio`).

A written decimal number goes through two roundings (`Magnitude.ofDecimal?`): its digits, as a whole
number, and then their product with, or quotient by, a power of ten.
-/

namespace EventLog.Decimal

/-- The quotient rounded to the nearest whole number, a half to the even neighbour. -/
def roundDiv (num den : Nat) : Nat :=
  let q := num / den
  let r := num % den
  if den < 2 * r ∨ (2 * r = den ∧ q % 2 = 1) then q + 1 else q

/-- The magnitude `significand * 2 ^ exponent`. The significand has 53 bits, or fewer at the least
exponent. -/
structure Magnitude where
  /-- The significant bits as a whole number. -/
  significand : Nat
  /-- The weight of the last bit. -/
  exponent : Int
  deriving DecidableEq, Repr

namespace Magnitude

/-- The exponent of the smallest magnitudes. -/
def leastExponent : Int := -1074

/-- The least significand with 53 bits. -/
def leastNormal : Nat := 0x10000000000000

/-- The numerator of a magnitude as a ratio of whole numbers. -/
def num (x : Magnitude) : Nat :=
  x.significand * Nat.pow 2 x.exponent.toNat

/-- The denominator of a magnitude as a ratio of whole numbers. -/
def den (x : Magnitude) : Nat :=
  Nat.pow 2 (-x.exponent).toNat

/-- A magnitude that 64 bits hold. -/
def IsFinite (x : Magnitude) : Prop :=
  x.exponent ≤ 971

instance (x : Magnitude) : Decidable x.IsFinite :=
  inferInstanceAs (Decidable (_ ≤ _))

/-- The ratio `num / den` in units of `2 ^ exponent`, rounded; a carry out of the 53 bits moves to
the next exponent. -/
def atExponent (num den : Nat) (exponent : Int) : Magnitude :=
  let m := roundDiv (num * Nat.pow 2 (-exponent).toNat) (den * Nat.pow 2 exponent.toNat)
  if m = 2 * leastNormal then ⟨leastNormal, exponent + 1⟩ else ⟨m, exponent⟩

/-- The exponent at which a ratio has 53 bits before the point, unless that is too small. -/
def exponentOf (num den : Nat) : Int :=
  let e : Int := (Nat.log2 num : Int) - Nat.log2 den - 52
  let e :=
    if num * Nat.pow 2 (-e).toNat < leastNormal * (den * Nat.pow 2 e.toNat) then e - 1 else e
  max e leastExponent

/-- The magnitude nearest to a ratio. -/
def ofRatio (num den : Nat) : Magnitude :=
  if num = 0 then ⟨0, leastExponent⟩ else atExponent num den (exponentOf num den)

/-- The rounded product. -/
def mul (x y : Magnitude) : Magnitude :=
  ofRatio (x.num * y.num) (x.den * y.den)

/-- The rounded quotient. -/
def div (x y : Magnitude) : Magnitude :=
  ofRatio (x.num * y.den) (x.den * y.num)

/-- A power of ten, rounded. -/
def powerOfTen (n : Nat) : Magnitude :=
  ofRatio (Nat.pow 10 n) 1

/-- The greatest power of ten within the range. -/
def greatestPower : Nat := 308

/-- A magnitude times a power of ten. There is no result beyond the range; a power below the range
is applied in steps. -/
def scale? (x : Magnitude) (power : Int) : Option Magnitude :=
  if x.significand = 0 then some x
  else if (greatestPower : Int) < power then none
  else if 0 ≤ power then
    let y := x.mul (powerOfTen power.toNat)
    if y.IsFinite then some y else none
  else if -(greatestPower : Int) ≤ power then
    some (x.div (powerOfTen (-power).toNat))
  else
    scale? (x.div (powerOfTen greatestPower)) (power + greatestPower)
termination_by power.natAbs
decreasing_by simp only [greatestPower] at *; omega

/-- The magnitude of `digits * 10 ^ power`, if it is within the range. -/
def ofDecimal? (digits : Nat) (power : Int) : Option Magnitude :=
  scale? (ofRatio digits 1) power

end Magnitude

end EventLog.Decimal
