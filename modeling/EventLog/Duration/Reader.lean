import EventLog.Duration
import EventLog.Text.Digits
import EventLog.Text.Quoted

/-!
# Reading an elapsed time

A written elapsed time is an optional sign and then either a bare `0` or a row of components such as
`1h`, `30m` or `.5ms`: digits, perhaps with a fraction, and a unit, which reaches up to the next
digit or point. Each component counts down to whole nanoseconds by itself, so of its fraction only
what the unit can resolve matters; eighteen digits are looked at. The sum is taken in 128 bits and
the result has to fit in 64.

* `Duration.parse`: the reader.
* `Duration.cut_length`: a component with a unit is shorter than the text it is cut from.
-/

namespace EventLog.Duration

open Text

/-- Why a text is no elapsed time. -/
inductive Fault
  /-- There is nothing to read, or a component has no digit. -/
  | invalid
  /-- A number stands without a unit. -/
  | missingUnit
  /-- The unit is none of those known. -/
  | unknownUnit (unit : String)
  /-- A number, a component, the sum or the result is out of range. -/
  | overflow
  deriving DecidableEq, Repr

/-- What a message says about a text that could not be read. -/
def Fault.message (input : String) : Fault → String
  | .invalid => "invalid duration " ++ quoted input
  | .missingUnit => "missing unit in duration " ++ quoted input
  | .unknownUnit unit => "unknown unit " ++ quoted unit ++ " in duration " ++ quoted input
  | .overflow => "duration " ++ quoted input ++ " overflows"

/-- The written forms of the units. The microsecond has three: with the letter u, with the micro
sign and with the Greek letter mu. -/
def unitOf? (unit : List Char) : Option TimeUnit :=
  if unit = ['n', 's'] then some .nanosecond
  else if unit = ['u', 's'] ∨ unit = ['\xb5', 's'] ∨ unit = ['\u03bc', 's'] then some .microsecond
  else if unit = ['m', 's'] then some .millisecond
  else if unit = ['s'] then some .second
  else if unit = ['m'] then some .minute
  else if unit = ['h'] then some .hour
  else none

/-- A component as it is written. -/
structure Component where
  /-- The digits before the point. -/
  whole : List Char
  /-- The digits after the point. -/
  fraction : List Char
  /-- What follows the number. -/
  unit : List Char
  deriving DecidableEq, Repr

/-- A unit reaches up to the next of these. -/
def startsNumber (c : Char) : Bool :=
  c.isDigit || c == '.'

/-- The digits after a point at the front of a text, and what follows them. -/
def cutFraction : List Char → List Char × List Char
  | [] => ([], [])
  | c :: r => if c = '.' then (r.takeWhile Char.isDigit, r.dropWhile Char.isDigit) else ([], c :: r)

/-- Cuts the first component off a text. -/
def cut (s : List Char) : Component × List Char :=
  let (fraction, r) := cutFraction (s.dropWhile Char.isDigit)
  (⟨s.takeWhile Char.isDigit, fraction, r.takeWhile (!startsNumber ·)⟩,
    r.dropWhile (!startsNumber ·))

/-- How many digits of a fraction are looked at. -/
def fractionDigits : Nat := 18

/-- The nanoseconds that a fraction adds, rounded down. -/
def fractionNanos (fraction : List Char) (scale : Nat) : Nat :=
  let ds := fraction.take fractionDigits
  value ds * scale / Nat.pow 10 ds.length

/-- Numbers during the reading of a text have 128 bits. -/
def bound : Nat := 0x100000000000000000000000000000000

/-- A number that has to fit in them. -/
def checked (n : Nat) : Except Fault Nat :=
  if n < bound then .ok n else .error .overflow

/-- The number that digits denote, which has to fit in them too. -/
def checkedValue (ds : List Char) : Except Fault Nat :=
  (valueBelow? bound ds).elim (.error .overflow) .ok

/-- The length of a component in nanoseconds. -/
def Component.nanos (c : Component) : Except Fault Nat := do
  if c.whole = [] ∧ c.fraction = [] then
    throw .invalid
  if c.unit = [] then
    throw .missingUnit
  match unitOf? c.unit with
  | none => throw (.unknownUnit (String.ofList c.unit))
  | some unit =>
    let whole ← checkedValue c.whole
    let product ← checked (whole * unit.nanos)
    checked (product + fractionNanos c.fraction unit.nanos)

theorem dropWhile_length_le (p : Char → Bool) (s : List Char) :
    (s.dropWhile p).length ≤ s.length :=
  (List.dropWhile_sublist p).length_le

theorem cutFraction_length (s : List Char) : (cutFraction s).2.length ≤ s.length := by
  cases s with
  | nil => exact Nat.le_refl _
  | cons c r =>
    simp only [cutFraction]
    split
    · exact Nat.le_succ_of_le (dropWhile_length_le _ r)
    · exact Nat.le_refl _

theorem cut_length {s r : List Char} {c : Component} (h : cut s = (c, r)) (hu : c.unit ≠ []) :
    r.length < s.length := by
  simp only [cut, Prod.mk.injEq] at h
  obtain ⟨rfl, rfl⟩ := h
  have h₁ := dropWhile_length_le Char.isDigit s
  have h₂ := cutFraction_length (s.dropWhile Char.isDigit)
  have h₃ := congrArg List.length (List.takeWhile_append_dropWhile (p := (!startsNumber ·))
    (l := (cutFraction (s.dropWhile Char.isDigit)).2))
  have h₄ : 0 < ((cutFraction (s.dropWhile Char.isDigit)).2.takeWhile (!startsNumber ·)).length :=
    List.length_pos_iff.2 hu
  simp only [List.length_append] at h₃
  omega

theorem Component.unit_ne_nil {c : Component} {n : Nat} (h : c.nanos = .ok n) : c.unit ≠ [] := by
  intro hu
  simp only [Component.nanos, hu] at h
  split at h
  · cases h
  · cases h

/-- The sum of the components of a text, after those before it that make up `total`. -/
def sum (total : Nat) (s : List Char) : Except Fault Nat :=
  if s = [] then .ok total
  else
    match _h : cut s with
    | (c, r) =>
      match _hc : c.nanos with
      | .error e => .error e
      | .ok n =>
        match checked (total + n) with
        | .error e => .error e
        | .ok total => sum total r
termination_by s.length
decreasing_by exact cut_length _h (Component.unit_ne_nil _hc)

/-- Splits off the sign; the first part tells whether it is a minus. -/
def splitSign : List Char → Bool × List Char
  | [] => (false, [])
  | c :: r => if c = '-' then (true, r) else if c = '+' then (false, r) else (false, c :: r)

/-- The elapsed time that a sum of components and a sign make. -/
def ofSum (negative : Bool) (total : Nat) : Except Fault Duration :=
  let n : Int := if negative then -(total : Int) else total
  if Fits64 n then .ok ⟨n⟩ else .error .overflow

/-- Reads an elapsed time from a list of characters. -/
def parseChars (s : List Char) : Except Fault Duration :=
  let (negative, r) := splitSign s
  if r = ['0'] then .ok zero
  else if r = [] then .error .invalid
  else
    match sum 0 r with
    | .error e => .error e
    | .ok total => ofSum negative total

/-- Reads an elapsed time. -/
def parse (s : String) : Except Fault Duration :=
  parseChars s.toList

end EventLog.Duration
