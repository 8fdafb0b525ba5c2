import EventLog.Json.Number
import EventLog.Json.Text

/-!
# Readers of values

A reader takes a value of one type off the front of a text, perhaps after blanks. That it uses up
the text is part of what a reader is, so that whoever calls readers in a row comes to an end. A
value of another type is still read to its end if it has no parts, so that its own faults come first
(`refuse`).

* `Reader.string`, `Reader.code`, `Reader.instant`, `Reader.duration`: the values of the fields.
-/

namespace EventLog.Json

open Ascii

/-- A way to take a value off the front of a text. -/
structure Reader (α : Type) where
  /-- The value and the unread rest. -/
  run : Bytes → Scan α
  /-- At least one byte is used up. -/
  shorter : ∀ {s r : Bytes} {v : α}, run s = .ok (v, r) → r.length < s.length

/-- A fault of a value that is well formed. -/
def misfit (m : Mismatch) (rest : Bytes) : Fault :=
  .at (.mismatch m) rest

/-- The fault of a value that has the wrong type and starts with the byte `b`. -/
def refuse (expected : String) (b : UInt8) (r : Bytes) : Fault :=
  let afterWord (letters : Bytes) (found : Found) : Fault :=
    match word letters r with
    | .ok r => misfit (.wrongType found expected) r
    | .error e => e
  if b = byte 'n' then afterWord nullTail .null
  else if b = byte 't' then afterWord trueTail (.boolean true)
  else if b = byte 'f' then afterWord falseTail (.boolean false)
  else if b = minus ∨ isDigit b then
    match scanNumber (b :: r) with
    | .ok (n, r) => misfit (.wrongType n.found expected) r
    | .error e => e
  else if b = quote then
    match scanText r with
    | .ok (s, r) => misfit (.wrongType (.string s) expected) r
    | .error e => e
  else if b = openList then misfit (.wrongType .sequence expected) (b :: r)
  else if b = openObject then misfit (.wrongType .map expected) (b :: r)
  else .atNext .expectedValue (b :: r)

/-- Passes over blanks and hands on the first byte of the value and what follows it. -/
def fromFirst {α : Type} (f : UInt8 → Bytes → Scan α) (s : Bytes) : Scan α :=
  match skipBlank s with
  | [] => .error (.atNext .eofInValue [])
  | b :: r => f b r

theorem fromFirst_length {α : Type} {f : UInt8 → Bytes → Scan α}
    (hf : ∀ {b : UInt8} {s r : Bytes} {v : α}, f b s = .ok (v, r) → r.length ≤ s.length)
    {s r : Bytes} {v : α} (h : fromFirst f s = .ok (v, r)) : r.length < s.length := by
  have hs := skipBlank_length s
  unfold fromFirst at h
  split at h
  · cases h
  · next b t ht =>
    rw [ht] at hs
    exact Nat.lt_of_le_of_lt (hf h) hs

/-- The reader that passes over blanks and then goes by the first byte of the value. -/
def Reader.ofFirst {α : Type} (f : UInt8 → Bytes → Scan α)
    (hf : ∀ {b : UInt8} {s r : Bytes} {v : α}, f b s = .ok (v, r) → r.length ≤ s.length) :
    Reader α :=
  ⟨fromFirst f, fromFirst_length hf⟩

/-! ### Strings -/

/-- A string that starts with the byte `b`. -/
def stringFrom (b : UInt8) (r : Bytes) : Scan String :=
  if b = quote then scanText r else .error (refuse "a string" b r)

theorem stringFrom_length {b : UInt8} {s r : Bytes} {v : String}
    (h : stringFrom b s = .ok (v, r)) : r.length ≤ s.length := by
  unfold stringFrom at h
  split at h
  · exact Nat.le_of_lt (scanText_length h)
  · cases h

/-- The reader of strings. -/
def Reader.string : Reader String :=
  .ofFirst stringFrom stringFrom_length

/-! ### Whole numbers -/

/-- A whole number in 64 bits that starts with the byte `b`. -/
def codeFrom (b : UInt8) (r : Bytes) : Scan Int64 :=
  if b = minus ∨ isDigit b then
    match scanNumber (b :: r) with
    | .ok (.integer n, r) =>
      if Fits64 n then .ok (Int64.ofInt n, r)
      else .error (misfit (.wrongValue (.integer n) "i64") r)
    | .ok (n, r) => .error (misfit (.wrongType n.found "i64") r)
    | .error e => .error e
  else .error (refuse "i64" b r)

theorem codeFrom_length {b : UInt8} {s r : Bytes} {v : Int64} (h : codeFrom b s = .ok (v, r)) :
    r.length ≤ s.length := by
  unfold codeFrom at h
  split at h
  · split at h
    · next n t hn =>
      split at h
      · cases h
        exact Nat.le_of_lt_succ (scanNumber_length hn)
      · cases h
    · cases h
    · cases h
  · cases h

/-- The reader of whole numbers in 64 bits. -/
def Reader.code : Reader Int64 :=
  .ofFirst codeFrom codeFrom_length

/-! ### Instants -/

/-- An instant that starts with the byte `b`. -/
def instantFrom (b : UInt8) (r : Bytes) : Scan Instant :=
  if b = quote then
    match scanText r with
    | .ok (s, r) =>
      match Instant.parse s with
      | .ok t => .ok (t, r)
      | .error e => .error (misfit (.instant e) r)
    | .error e => .error e
  else .error (refuse "an RFC 3339 formatted date and time string" b r)

theorem instantFrom_length {b : UInt8} {s r : Bytes} {v : Instant}
    (h : instantFrom b s = .ok (v, r)) : r.length ≤ s.length := by
  unfold instantFrom at h
  split at h
  · split at h
    · next t u ht =>
      split at h
      · cases h
        exact Nat.le_of_lt (scanText_length ht)
      · cases h
    · cases h
  · cases h

/-- The reader of instants. -/
def Reader.instant : Reader Instant :=
  .ofFirst instantFrom instantFrom_length

/-! ### Elapsed times -/

/-- What a message says was expected in place of an elapsed time. -/
def durationExpected : String :=
  "an integer number of nanoseconds or a duration string"

/-- A text without the blanks at its front and the closing bracket after them. -/
def skipClosing (closing : UInt8) (s : Bytes) : Bytes :=
  match skipBlank s with
  | [] => []
  | b :: r => if b = closing then r else b :: r

/-- The unread text when a list in place of an elapsed time is refused: blanks at its front are
read, and then a closing bracket, or a comma with further blanks, if one stands there. -/
def afterRefusedList (s : Bytes) : Bytes :=
  match skipBlank s with
  | [] => []
  | b :: r => if b = closeList then r else if b = comma then skipBlank r else b :: r

/-- An elapsed time that starts with the byte `b`. -/
def durationFrom (b : UInt8) (r : Bytes) : Scan Duration :=
  if b = minus ∨ isDigit b then
    match scanNumber (b :: r) with
    | .ok (.integer n, r) =>
      if Fits64 n then .ok (⟨n⟩, r) else .error (misfit (.nanosOutOfRange n) r)
    | .ok (n, r) => .error (misfit (.wrongType n.found durationExpected) r)
    | .error e => .error e
  else if b = quote then
    match scanText r with
    | .ok (s, r) =>
      match Duration.parse s with
      | .ok d => .ok (d, r)
      | .error e => .error (misfit (.duration s e) r)
    | .error e => .error e
  else if b = openList then
    .error (misfit (.wrongType .sequence durationExpected) (afterRefusedList r))
  else if b = openObject then
    .error (misfit (.wrongType .map durationExpected) (skipClosing closeObject r))
  else .error (refuse durationExpected b r)

theorem durationFrom_length {b : UInt8} {s r : Bytes} {v : Duration}
    (h : durationFrom b s = .ok (v, r)) : r.length ≤ s.length := by
  unfold durationFrom at h
  split at h
  · split at h
    · next n t hn =>
      split at h
      · cases h
        exact Nat.le_of_lt_succ (scanNumber_length hn)
      · cases h
    · cases h
    · cases h
  · split at h
    · split at h
      · next t u ht =>
        split at h
        · cases h
          exact Nat.le_of_lt (scanText_length ht)
        · cases h
      · cases h
    · split at h
      · cases h
      · split at h
        · cases h
        · cases h

/-- The reader of elapsed times: a whole number of nanoseconds, or the text of an elapsed time. -/
def Reader.duration : Reader Duration :=
  .ofFirst durationFrom durationFrom_length

end EventLog.Json
