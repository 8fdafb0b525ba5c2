import EventLog.Instant
import EventLog.Text.Blank
import EventLog.Text.Digits

/-!
# Reading an instant

A written instant is a date, a separator, a time of day and the distance of its clock from universal
time. The reader is lenient where that does no harm: blanks may stand around the marks between the
numbers, numbers may lack leading zeros, a fraction may have any number of digits, of which nine
count, and the distance may be written `Z`, `UTC` or as hours and minutes. A number out of the range
of its part is refused as soon as it is read; whether the calendar has the date is asked at the end,
and whether it has the moment in universal time after that.

* `Instant.parse`: the reader.
-/

namespace EventLog.Instant

open Text

/-- Why a text is no instant. -/
inductive Fault
  /-- The text ends too early. -/
  | premature
  /-- A character cannot stand where it does. -/
  | invalid
  /-- A number is out of range, or the calendar lacks the date. -/
  | outOfRange
  /-- The calendar has the date, but in universal time the moment is before or after it. -/
  | impossible
  /-- Something follows the instant. -/
  | trailing
  deriving DecidableEq, Repr

/-- What a message says about a text that could not be read. -/
def Fault.message : Fault → String
  | .premature => "premature end of input"
  | .invalid => "input contains invalid characters"
  | .outOfRange => "input is out of range"
  | .impossible => "no possible date and time matching input"
  | .trailing => "trailing input"

/-- The digits at the front of a text, at least one, and what follows them. -/
def readDigits (s : List Char) : Except Fault (List Char × List Char) :=
  match s with
  | [] => .error .premature
  | c :: _ =>
    if c.isDigit then .ok (s.takeWhile Char.isDigit, s.dropWhile Char.isDigit)
    else .error .invalid

/-- A number of at most `width` digits at the front of a text. -/
def readNumber (width : Nat) (s : List Char) : Except Fault (Nat × List Char) := do
  let (ds, _) ← readDigits s
  let ds := ds.take width
  return (value ds, s.drop ds.length)

/-- A number of at most two digits within a range, perhaps after blanks. -/
def readPart (least most : Nat) (s : List Char) : Except Fault (Nat × List Char) := do
  let (n, r) ← readNumber 2 (skipBlank s)
  if least ≤ n ∧ n ≤ most then return (n, r) else throw .outOfRange

/-- Any number of digits for a number below a bound. -/
def readBelow (bound : Nat) (s : List Char) : Except Fault (Nat × List Char) := do
  let (ds, r) ← readDigits s
  match valueBelow? bound ds with
  | some n => return (n, r)
  | none => throw .outOfRange

/-- A year, perhaps after blanks: up to four digits, or a sign and any number of digits. It is taken
in 32 bits first. -/
def readYear (s : List Char) : Except Fault (Int × List Char) := do
  let s := skipBlank s
  match s with
  | '-' :: r => do
    let (n, r) ← readBelow 0x80000001 r
    return (-(n : Int), r)
  | '+' :: r => do
    let (n, r) ← readBelow 0x80000000 r
    return ((n : Int), r)
  | _ => do
    let (n, r) ← readNumber 4 s
    return ((n : Int), r)

/-- A mark between two numbers, perhaps after blanks. -/
def readMark (mark : Char) (s : List Char) : Except Fault (List Char) :=
  match skipBlank s with
  | [] => .error .premature
  | c :: r => if c = mark then .ok r else .error .invalid

/-- The mark between date and time; no blanks may stand before it. -/
def readSeparator : List Char → Except Fault (List Char)
  | [] => .error .premature
  | c :: r => if c = 'T' ∨ c = 't' ∨ c = ' ' then .ok r else .error .invalid

/-- The fraction of a second in nanoseconds; it may be missing. -/
def readFraction : List Char → Except Fault (Nat × List Char)
  | '.' :: r => do
    let (ds, r) ← readDigits r
    let kept := ds.take 9
    return (value kept * Nat.pow 10 (9 - kept.length), r)
  | s => return (0, s)

/-- Two digits. A text of one character is too short for them, unless that character already takes
the room of two. -/
def readPair (s : List Char) : Except Fault (Nat × Nat × List Char) :=
  match s with
  | [] => .error .premature
  | [c] => .error (if c.toNat < 0x80 then .premature else .invalid)
  | c₁ :: c₂ :: r =>
    if c₁.isDigit && c₂.isDigit then .ok (value [c₁], value [c₂], r) else .error .invalid

/-- The sign of a distance from universal time; the minus may be the hyphen or the minus sign. -/
def readSign : List Char → Except Fault (Int × List Char)
  | [] => .error .premature
  | c :: r =>
    if c = '+' then .ok (1, r)
    else if c = '-' ∨ c = '\u2212' then .ok (-1, r)
    else .error .invalid

/-- Whether a text starts with the letters of universal time, in either case. -/
def startsUtc : List Char → Bool
  | a :: b :: c :: _ => a.toUpper = 'U' ∧ b.toUpper = 'T' ∧ c.toUpper = 'C'
  | _ => false

/-- The distance of a clock from universal time in seconds. -/
def readOffset (s : List Char) : Except Fault (Int × List Char) := do
  if startsUtc s then
    return (0, s.drop 3)
  match s with
  | 'Z' :: r => return (0, r)
  | 'z' :: r => return (0, r)
  | _ =>
    let (sign, r) ← readSign s
    let (h₁, h₂, r) ← readPair r
    let (m₁, m₂, r) ← readPair (r.dropWhile fun c => c == ':' || isBlank c)
    if m₁ < 6 then
      return (sign * ((h₁ * 10 + h₂) * 3600 + (m₁ * 10 + m₂) * 60 : Nat), r)
    else throw .outOfRange

/-- What a written instant says. -/
structure Parts where
  /-- The date on the clock. -/
  date : Date
  /-- The hour on the clock. -/
  hour : Nat
  /-- The minute on the clock. -/
  minute : Nat
  /-- The second on the clock; `60` names a leap second. -/
  second : Nat
  /-- The nanoseconds since the start of the second. -/
  fraction : Nat
  /-- How many seconds the clock is ahead of universal time. -/
  offset : Int
  deriving DecidableEq, Repr

/-- The parts of a written instant, of which all is read. -/
def readParts (s : List Char) : Except Fault Parts := do
  let (year, s) ← readYear s
  let (month, s) ← readPart 1 12 (← readMark '-' s)
  let (day, s) ← readPart 1 31 (← readMark '-' s)
  let (hour, s) ← readPart 0 23 (← readSeparator s)
  let (minute, s) ← readPart 0 59 (← readMark ':' s)
  let (second, s) ← readPart 0 60 (← readMark ':' s)
  let (fraction, s) ← readFraction s
  let (offset, s) ← readOffset (skipBlank s)
  if skipBlank s = [] then
    return ⟨⟨year, month, day⟩, hour, minute, second, fraction, offset⟩
  else throw .trailing

/-- The instant that a clock shows. A clock stays less than a day away from universal time. -/
def Parts.instant (p : Parts) : Except Fault Instant :=
  if p.date.Valid ∧ firstYear ≤ p.date.year ∧ p.date.year ≤ lastYear ∧ p.offset.natAbs < 86400 then
    let clock := p.date.dayNumber * 86400 + (p.hour * 3600 + p.minute * 60 + min p.second 59 : Nat)
    let nanos := p.fraction + if p.second = 60 then Instant.second else 0
    (ofParts? (clock - p.offset) nanos).elim (.error .impossible) .ok
  else .error .outOfRange

/-- Reads an instant. -/
def parse (s : String) : Except Fault Instant := do
  (← readParts s.toList).instant

end EventLog.Instant
