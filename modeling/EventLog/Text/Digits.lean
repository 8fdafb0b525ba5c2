/-!
# Decimal digits

Numbers are written in decimal without leading zeros (`digits`), or with a fixed number of places
(`padded`), and read back with `value`. Where only numbers below a bound matter, `valueBelow?` does
not look at the digits that come after the bound is reached.

* `valueBelow?_eq`: the number below a bound is the value of the digits.
-/

namespace EventLog.Text

/-- The decimal digits of a number, without leading zeros. -/
def digits (n : Nat) : List Char :=
  Nat.toDigits 10 n

/-- The number that a row of decimal digits denotes; the empty row denotes zero. -/
def value (ds : List Char) : Nat :=
  Nat.ofDigitChars 10 ds 0

/-- A number with one more digit, if it is less than a bound. -/
def extendBelow? (base bound n digit : Nat) : Option Nat :=
  if base * n + digit < bound then some (base * n + digit) else none

/-- The number that a row of decimal digits denotes, if it is less than a bound. -/
def valueBelow? (bound : Nat) (ds : List Char) : Option Nat :=
  ds.foldlM (fun n c => extendBelow? 10 bound n (c.toNat - '0'.toNat)) 0

/-- A written count: decimal digits, with a plus sign before them if wanted, within 64 bits. -/
def count? (s : List Char) : Option Nat :=
  let ds := match s with
    | '+' :: ds => ds
    | ds => ds
  if ds ≠ [] ∧ ds.all Char.isDigit then valueBelow? 0x10000000000000000 ds else none

/-- At least `width` decimal digits, filled with zeros in front. -/
def padded (width n : Nat) : List Char :=
  let ds := digits n
  List.replicate (width - ds.length) '0' ++ ds

/-- The decimal text of an integer, with a sign only if it is negative. -/
def signed (n : Int) : List Char :=
  match n with
  | .ofNat m => digits m
  | .negSucc m => '-' :: digits (m + 1)

/-- A row of digits without the zeros at its end. -/
def trimZeros (ds : List Char) : List Char :=
  (ds.reverse.dropWhile (· == '0')).reverse

/-! ### Numbers below a bound -/

theorem le_ofDigitChars (n : Nat) (ds : List Char) : n ≤ Nat.ofDigitChars 10 ds n := by
  induction ds generalizing n with
  | nil => exact Nat.le_refl n
  | cons c ds ih =>
    rw [Nat.ofDigitChars_cons]
    exact Nat.le_trans (by omega) (ih _)

theorem foldlM_extendBelow? {bound n : Nat} (ds : List Char) (h : n < bound) :
    ds.foldlM (fun n c => extendBelow? 10 bound n (c.toNat - '0'.toNat)) n =
      if Nat.ofDigitChars 10 ds n < bound then some (Nat.ofDigitChars 10 ds n) else none := by
  induction ds generalizing n with
  | nil => simp [h]
  | cons c ds ih =>
    rw [List.foldlM_cons, Nat.ofDigitChars_cons]
    by_cases hc : 10 * n + (c.toNat - '0'.toNat) < bound
    · simp only [extendBelow?, if_pos hc]
      exact ih hc
    · have := le_ofDigitChars (10 * n + (c.toNat - '0'.toNat)) ds
      rw [extendBelow?, if_neg hc, if_neg (by omega)]
      rfl

theorem valueBelow?_eq {bound : Nat} (ds : List Char) (h : 0 < bound) :
    valueBelow? bound ds = if value ds < bound then some (value ds) else none :=
  foldlM_extendBelow? ds h

end EventLog.Text
