import EventLog.Json.Word

/-!
# Numbers

A number is a whole number if it has neither fraction nor exponent and fits in 64 bits, with a sign
only if it is negative; every other number, the negative zero too, is a floating point number. Its
digits are gathered in 64 bits: those of the whole part that no longer fit count as powers of ten,
those of the fraction are dropped.

* `scanNumber`: reads a number off the front of a text.
* `scanNumber_length`: at least one byte is used up.
-/

namespace EventLog.Json

open Ascii Decimal

/-- A number as it was understood. -/
inductive Number
  /-- A whole number from `-2 ^ 63` to `2 ^ 64 - 1`. -/
  | integer (value : Int)
  /-- A floating point number. -/
  | float (negative : Bool) (magnitude : Magnitude)
  deriving DecidableEq, Repr

/-- What a message calls a number. -/
def Number.found : Number → Found
  | .integer n => .integer n
  | .float negative x => .float negative x

/-- Appends digits to a number as long as it stays within 64 bits, and leaves the others. -/
def absorb (n : Nat) : Bytes → Nat × Bytes
  | [] => (n, [])
  | d :: ds =>
    let m := n * 10 + digitValue d
    if m < 0x10000000000000000 then absorb m ds else (n, d :: ds)

/-- The digits of a number and the power of ten of the last of them. -/
def significand (whole fraction : Bytes) : Nat × Int :=
  let (n, beyond) := absorb 0 whole
  let (n, dropped) := absorb n fraction
  (n, (beyond.length : Int) - ((fraction.length : Int) - dropped.length))

/-- The floating point number with given digits and power of ten, when `rest` is unread. -/
def ofScientific (negative : Bool) (digits : Nat) (power : Int) (rest : Bytes) : Scan Number :=
  match Magnitude.ofDecimal? digits power with
  | some x => .ok (.float negative x, rest)
  | none => .error (.at .numberOutOfRange rest)

/-- Reads the digits of an exponent, which is kept in 31 bits. If it becomes too large, the text
after the digit that is too much comes back as an error. -/
def exponentDigits (e : Nat) : Bytes → Except Bytes (Nat × Bytes)
  | [] => .ok (e, [])
  | b :: r =>
    if isDigit b then
      let e := e * 10 + digitValue b
      if e < 0x80000000 then exponentDigits e r else .error r
    else .ok (e, b :: r)

/-- Splits off the sign of an exponent; the first part tells whether it is a minus. -/
def exponentSign : Bytes → Bool × Bytes
  | [] => (false, [])
  | b :: r => if b = plus then (false, r) else if b = minus then (true, r) else (false, b :: r)

/-- Reads the rest of a number after the letter of its exponent. An exponent that is too large
matters only if it makes the number large. -/
def scanExponent (negative : Bool) (digits : Nat) (power : Int) (s : Bytes) : Scan Number :=
  let (below, s) := exponentSign s
  match s with
  | [] => .error (.at .eofInValue [])
  | b :: r =>
    if isDigit b then
      match exponentDigits 0 (b :: r) with
      | .ok (e, r) => ofScientific negative digits (if below then power - e else power + e) r
      | .error r =>
        if digits = 0 ∨ below then
          .ok (.float negative ⟨0, Magnitude.leastExponent⟩, r.dropWhile isDigit)
        else .error (.at .numberOutOfRange r)
    else .error (.at .invalidNumber r)

/-- Whether a byte is the letter of an exponent. -/
def isExponentLetter (b : UInt8) : Bool :=
  b == byte 'e' || b == byte 'E'

/-- Reads the rest of a floating point number after all its digits. -/
def scanPower (negative : Bool) (digits : Nat) (power : Int) : Bytes → Scan Number
  | [] => ofScientific negative digits power []
  | b :: r =>
    if isExponentLetter b then scanExponent negative digits power r
    else ofScientific negative digits power (b :: r)

/-- Reads the rest of a number after its point. -/
def scanFraction (negative : Bool) (whole : Bytes) (s : Bytes) : Scan Number :=
  let fraction := s.takeWhile isDigit
  let r := s.dropWhile isDigit
  if fraction = [] then
    .error (.atNext (if r = [] then .eofInValue else .invalidNumber) r)
  else
    let (digits, power) := significand whole fraction
    scanPower negative digits power r

/-- Whether a whole number of the given magnitude, which is within 64 bits, has a sign only if it is
negative and still fits with it. -/
def isInteger (negative : Bool) (n : Nat) : Bool :=
  !negative || (0 < n && n ≤ 0x8000000000000000)

/-- The number that digits make without fraction and exponent, when `rest` is unread. -/
def ofDigits (negative : Bool) (whole : Bytes) (rest : Bytes) : Scan Number :=
  match absorb 0 whole with
  | (n, beyond) =>
    if beyond = [] ∧ isInteger negative n then
      .ok (.integer (if negative then -(n : Int) else n), rest)
    else ofScientific negative n beyond.length rest

/-- Reads the rest of a number after its whole part. -/
def scanTail (negative : Bool) (whole : Bytes) : Bytes → Scan Number
  | [] => ofDigits negative whole []
  | b :: r =>
    if b = point then scanFraction negative whole r
    else if isExponentLetter b then
      let (digits, power) := significand whole []
      scanExponent negative digits power r
    else ofDigits negative whole (b :: r)

/-- Whether a text goes on with a digit. -/
def startsDigit : Bytes → Bool
  | [] => false
  | b :: _ => isDigit b

/-- Reads a number after its sign. A zero in front stands alone. -/
def scanUnsigned (negative : Bool) : Bytes → Scan Number
  | [] => .error (.at .eofInValue [])
  | b :: r =>
    if b = zero then
      if startsDigit r then .error (.atNext .invalidNumber r) else scanTail negative [b] r
    else if isDigit b then
      scanTail negative (b :: r.takeWhile isDigit) (r.dropWhile isDigit)
    else .error (.at .invalidNumber r)

/-- Reads a number off the front of a text. -/
def scanNumber : Bytes → Scan Number
  | [] => .error (.at .eofInValue [])
  | b :: r => if b = minus then scanUnsigned true r else scanUnsigned false (b :: r)

/-! ### Every number uses up the text -/

theorem dropDigits_length (s : Bytes) : (s.dropWhile isDigit).length ≤ s.length :=
  (List.dropWhile_sublist _).length_le

theorem ofScientific_length {negative : Bool} {digits : Nat} {power : Int} {s r : Bytes}
    {v : Number} (h : ofScientific negative digits power s = .ok (v, r)) :
    r.length ≤ s.length := by
  unfold ofScientific at h
  split at h
  · cases h; exact Nat.le_refl _
  · cases h

theorem exponentDigits_length {e n : Nat} {s r : Bytes} (h : exponentDigits e s = .ok (n, r)) :
    r.length ≤ s.length := by
  induction s generalizing e with
  | nil => cases h; exact Nat.le_refl _
  | cons b s ih =>
    simp only [exponentDigits] at h
    split at h
    · split at h
      · exact Nat.le_succ_of_le (ih h)
      · cases h
    · cases h; exact Nat.le_refl _

theorem exponentDigits_error_length {e : Nat} {s r : Bytes} (h : exponentDigits e s = .error r) :
    r.length ≤ s.length := by
  induction s generalizing e with
  | nil => cases h
  | cons b s ih =>
    simp only [exponentDigits] at h
    split at h
    · split at h
      · exact Nat.le_succ_of_le (ih h)
      · cases h; exact Nat.le_succ _
    · cases h

theorem exponentSign_length (s : Bytes) : (exponentSign s).2.length ≤ s.length := by
  unfold exponentSign
  split
  · exact Nat.le_refl _
  · split
    · exact Nat.le_succ _
    · split
      · exact Nat.le_succ _
      · exact Nat.le_refl _

theorem scanExponent_length {negative : Bool} {digits : Nat} {power : Int} {s r : Bytes}
    {v : Number} (h : scanExponent negative digits power s = .ok (v, r)) :
    r.length ≤ s.length := by
  have hs := exponentSign_length s
  simp only [scanExponent] at h
  split at h
  · cases h
  · next b t ht =>
    rw [ht] at hs
    split at h
    · split at h
      · next e u he =>
        exact Nat.le_trans (ofScientific_length h) (Nat.le_trans (exponentDigits_length he) hs)
      · next u he =>
        split at h
        · cases h
          exact Nat.le_trans (dropDigits_length u)
            (Nat.le_trans (exponentDigits_error_length he) hs)
        · cases h
    · cases h

theorem scanPower_length {negative : Bool} {digits : Nat} {power : Int} {s r : Bytes}
    {v : Number} (h : scanPower negative digits power s = .ok (v, r)) : r.length ≤ s.length := by
  cases s with
  | nil => exact ofScientific_length h
  | cons b s =>
    simp only [scanPower] at h
    split at h
    · exact Nat.le_succ_of_le (scanExponent_length h)
    · exact ofScientific_length h

theorem scanFraction_length {negative : Bool} {whole s r : Bytes} {v : Number}
    (h : scanFraction negative whole s = .ok (v, r)) : r.length ≤ s.length := by
  simp only [scanFraction] at h
  split at h
  · cases h
  · exact Nat.le_trans (scanPower_length h) (dropDigits_length s)

theorem ofDigits_length {negative : Bool} {whole s r : Bytes} {v : Number}
    (h : ofDigits negative whole s = .ok (v, r)) : r.length ≤ s.length := by
  simp only [ofDigits] at h
  split at h
  · cases h; exact Nat.le_refl _
  · exact ofScientific_length h

theorem scanTail_length {negative : Bool} {whole s r : Bytes} {v : Number}
    (h : scanTail negative whole s = .ok (v, r)) : r.length ≤ s.length := by
  cases s with
  | nil => exact ofDigits_length h
  | cons b s =>
    simp only [scanTail] at h
    split at h
    · exact Nat.le_succ_of_le (scanFraction_length h)
    · split at h
      · exact Nat.le_succ_of_le (scanExponent_length h)
      · exact ofDigits_length h

theorem scanUnsigned_length {negative : Bool} {s r : Bytes} {v : Number}
    (h : scanUnsigned negative s = .ok (v, r)) : r.length < s.length := by
  cases s with
  | nil => cases h
  | cons b s =>
    simp only [scanUnsigned] at h
    split at h
    · split at h
      · cases h
      · exact Nat.lt_succ_of_le (scanTail_length h)
    · split at h
      · exact Nat.lt_succ_of_le (Nat.le_trans (scanTail_length h) (dropDigits_length s))
      · cases h

theorem scanNumber_length {s r : Bytes} {v : Number} (h : scanNumber s = .ok (v, r)) :
    r.length < s.length := by
  cases s with
  | nil => cases h
  | cons b s =>
    simp only [scanNumber] at h
    split at h
    · exact Nat.lt_succ_of_lt (scanUnsigned_length h)
    · exact scanUnsigned_length h

end EventLog.Json
