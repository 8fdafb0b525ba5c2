import EventLog.Json.Number
import EventLog.Json.Text

/-!
# Passing over a value

The value of a member that a record does not know is passed over without being understood. It must
keep the grammar, but its numbers may be of any size, its strings of any bytes and its nesting of
any depth: what is open is kept as a list of brackets, and the text is gone through once.

* `skipValue`: passes over a value.
* `skipValue_length`: at least one byte is used up.
-/

namespace EventLog.Json

open Ascii

/-! ### Strings and numbers -/

/-- Passes over an escape after its backslash. -/
def skipEscape : Bytes → Except Fault Bytes
  | [] => .error (.at .eofInString [])
  | b :: r =>
    if (shortEscape? b).isSome then .ok r
    else if b = byte 'u' then (scanHex r).map Prod.snd
    else .error (.at .invalidEscape r)

theorem skipEscape_length {s r : Bytes} (h : skipEscape s = .ok r) : r.length < s.length := by
  unfold skipEscape at h
  split at h
  · cases h
  · next b t =>
    split at h
    · cases h; exact Nat.lt_succ_self _
    · split at h
      · cases ht : scanHex t with
        | error e => rw [ht] at h; cases h
        | ok p =>
          rw [ht] at h
          cases h
          exact Nat.lt_succ_of_lt (scanHex_length ht)
      · cases h

/-- Passes over a string after its opening quote. A byte below the space is refused unread. -/
def skipText (s : Bytes) : Except Fault Bytes :=
  match s with
  | [] => .error (.at .eofInString [])
  | b :: r =>
    if b = quote then .ok r
    else if b = backslash then
      match _h : skipEscape r with
      | .ok r => skipText r
      | .error e => .error e
    else if b < space then .error (.at .controlCharacter (b :: r))
    else skipText r
termination_by s.length
decreasing_by
  · exact Nat.lt_succ_of_lt (skipEscape_length _h)
  · exact Nat.lt_succ_self _

theorem skipText_length {s r : Bytes} (h : skipText s = .ok r) : r.length < s.length := by
  fun_induction skipText s with
  | case1 => cases h
  | case2 t => cases h; exact Nat.lt_succ_self _
  | case3 t u hu _ ih => exact Nat.lt_succ_of_lt (Nat.lt_trans (ih h) (skipEscape_length hu))
  | case4 t e he => cases h
  | case5 b t => cases h
  | case6 b t _ _ _ ih => exact Nat.lt_succ_of_lt (ih h)

/-- Passes over the digits of an exponent, at least one, after its sign. -/
def skipExponentDigits : Bytes → Except Fault Bytes
  | [] => .error (.at .invalidNumber [])
  | b :: r =>
    if isDigit b then .ok (r.dropWhile isDigit) else .error (.at .invalidNumber r)

/-- Passes over an exponent, if there is one. -/
def skipExponent : Bytes → Except Fault Bytes
  | [] => .ok []
  | b :: r =>
    if isExponentLetter b then skipExponentDigits (exponentSign r).2 else .ok (b :: r)

/-- Passes over a fraction and an exponent, if there are any. -/
def skipFraction : Bytes → Except Fault Bytes
  | [] => .ok []
  | b :: r =>
    if b = point then
      if startsDigit r then skipExponent (r.dropWhile isDigit)
      else .error (.atNext .invalidNumber r)
    else skipExponent (b :: r)

/-- Passes over a number after its sign. -/
def skipUnsigned : Bytes → Except Fault Bytes
  | [] => .error (.at .invalidNumber [])
  | b :: r =>
    if b = zero then
      if startsDigit r then .error (.atNext .invalidNumber r) else skipFraction r
    else if isDigit b then skipFraction (r.dropWhile isDigit)
    else .error (.at .invalidNumber r)

theorem skipExponentDigits_length {s r : Bytes} (h : skipExponentDigits s = .ok r) :
    r.length ≤ s.length := by
  unfold skipExponentDigits at h
  split at h
  · cases h
  · split at h
    · cases h; exact Nat.le_succ_of_le (dropDigits_length _)
    · cases h

theorem skipExponent_length {s r : Bytes} (h : skipExponent s = .ok r) :
    r.length ≤ s.length := by
  unfold skipExponent at h
  split at h
  · cases h; exact Nat.le_refl _
  · next b t =>
    split at h
    · exact Nat.le_succ_of_le
        (Nat.le_trans (skipExponentDigits_length h) (exponentSign_length t))
    · cases h; exact Nat.le_refl _

theorem skipFraction_length {s r : Bytes} (h : skipFraction s = .ok r) :
    r.length ≤ s.length := by
  unfold skipFraction at h
  split at h
  · cases h; exact Nat.le_refl _
  · next b t =>
    split at h
    · split at h
      · exact Nat.le_succ_of_le (Nat.le_trans (skipExponent_length h) (dropDigits_length t))
      · cases h
    · exact skipExponent_length h

theorem skipUnsigned_length {s r : Bytes} (h : skipUnsigned s = .ok r) :
    r.length < s.length := by
  unfold skipUnsigned at h
  split at h
  · cases h
  · next b t =>
    split at h
    · split at h
      · cases h
      · exact Nat.lt_succ_of_le (skipFraction_length h)
    · split at h
      · exact Nat.lt_succ_of_le (Nat.le_trans (skipFraction_length h) (dropDigits_length t))
      · cases h

/-! ### Values -/

/-- A value without parts, of which the first byte is `b`. -/
def skipScalar (b : UInt8) (r : Bytes) : Except Fault Bytes :=
  if b = byte 'n' then word nullTail r
  else if b = byte 't' then word trueTail r
  else if b = byte 'f' then word falseTail r
  else if b = minus then skipUnsigned r
  else if isDigit b then skipUnsigned (b :: r)
  else if b = quote then skipText r
  else .error (.atNext .expectedValue (b :: r))

theorem skipScalar_length {b : UInt8} {s r : Bytes} (h : skipScalar b s = .ok r) :
    r.length ≤ s.length := by
  unfold skipScalar at h
  repeat' split at h
  · exact word_length h
  · exact word_length h
  · exact word_length h
  · exact Nat.le_of_lt (skipUnsigned_length h)
  · exact Nat.le_of_lt_succ (skipUnsigned_length h)
  · exact Nat.le_of_lt (skipText_length h)
  · cases h

/-- Passes over a colon, perhaps after blanks. -/
def scanColon (s : Bytes) : Except Fault Bytes :=
  match skipBlank s with
  | [] => .error (.atNext .eofInObject [])
  | b :: r => if b = colon then .ok r else .error (.atNext .expectedColon (b :: r))

theorem scanColon_length {s r : Bytes} (h : scanColon s = .ok r) : r.length < s.length := by
  unfold scanColon at h
  have hs := skipBlank_length s
  split at h
  · cases h
  · next b t ht =>
    split at h
    · cases h
      rw [ht] at hs
      exact hs
    · cases h

/-- Passes over a key and its colon, perhaps after blanks. -/
def skipKey (s : Bytes) : Except Fault Bytes :=
  match skipBlank s with
  | [] => .error (.atNext .eofInObject [])
  | b :: r =>
    if b = quote then
      match skipText r with
      | .ok r => scanColon r
      | .error e => .error e
    else .error (.atNext .expectedKey (b :: r))

theorem skipKey_length {s r : Bytes} (h : skipKey s = .ok r) : r.length < s.length := by
  unfold skipKey at h
  have hs := skipBlank_length s
  split at h
  · cases h
  · next b t ht =>
    rw [ht] at hs
    split at h
    · split at h
      · next u hu =>
        have h₁ := skipText_length hu
        have h₂ := scanColon_length h
        simp only [List.length_cons] at hs
        omega
      · cases h
    · cases h

/-- What is open around a value. -/
inductive Bracket
  /-- A list. -/
  | list
  /-- An object. -/
  | object
  deriving DecidableEq, Repr

/-- The end of the text inside a bracket. -/
def Bracket.eof : Bracket → Cause
  | .list => .eofInList
  | .object => .eofInObject

/-- A byte that neither continues nor closes a bracket. -/
def Bracket.expected : Bracket → Cause
  | .list => .expectedCommaOrListEnd
  | .object => .expectedCommaOrObjectEnd

/-- The byte that closes a bracket. -/
def Bracket.closing : Bracket → UInt8
  | .list => closeList
  | .object => closeObject

/-- Passes over what stands before a value inside a bracket: a key, or nothing. -/
def Bracket.lead : Bracket → Bytes → Except Fault Bytes
  | .list, s => .ok s
  | .object, s => skipKey s

/-- The bracket that a byte opens. -/
def Bracket.opened? (b : UInt8) : Option Bracket :=
  if b = openList then some .list
  else if b = openObject then some .object
  else none

theorem Bracket.lead_length {k : Bracket} {s r : Bytes} (h : k.lead s = .ok r) :
    r.length ≤ s.length := by
  cases k with
  | list => cases h; exact Nat.le_refl _
  | object => exact Nat.le_of_lt (skipKey_length h)

/-- Where the text of a skipped value has been read up to. -/
inductive Place
  /-- A value comes next. -/
  | value
  /-- A value has just ended. -/
  | next
  deriving DecidableEq, Repr

/-- Goes on inside the brackets `outer`, of which the innermost one comes first, until the last of
them is closed. -/
def skip (place : Place) (outer : List Bracket) (s : Bytes) : Except Fault Bytes :=
  match place, outer with
  | .next, [] => .ok s
  | .next, k :: outer =>
    match _h : skipBlank s with
    | [] => .error (.atNext k.eof [])
    | b :: r =>
      if b = comma then
        match _hr : k.lead r with
        | .ok r => skip .value (k :: outer) r
        | .error e => .error e
      else if b = k.closing then skip .next outer r
      else .error (.atNext k.expected (b :: r))
  | .value, outer =>
    match _h : skipBlank s with
    | [] => .error (.atNext .eofInValue [])
    | b :: r =>
      match Bracket.opened? b with
      | none =>
        match _hr : skipScalar b r with
        | .ok r => skip .next outer r
        | .error e => .error e
      | some k =>
        match _hr : skipBlank r with
        | [] => .error (.atNext k.eof [])
        | c :: t =>
          if c = k.closing then skip .next outer t
          else
            match _ht : k.lead (c :: t) with
            | .ok u => skip .value (k :: outer) u
            | .error e => .error e
termination_by s.length
decreasing_by
  all_goals have hs := skipBlank_length s
  all_goals rw [_h] at hs
  · have := Bracket.lead_length _hr; simp only [List.length_cons] at hs; omega
  · simp only [List.length_cons] at hs; omega
  · have := skipScalar_length _hr; simp only [List.length_cons] at hs; omega
  · have hr := skipBlank_length r
    rw [_hr] at hr
    simp only [List.length_cons] at hs hr
    omega
  · have hr := skipBlank_length r
    have ht := Bracket.lead_length _ht
    rw [_hr] at hr
    simp only [List.length_cons] at hs hr ht
    omega

theorem skip_length {place : Place} {outer : List Bracket} {s r : Bytes}
    (h : skip place outer s = .ok r) : r.length + (if place = .value then 1 else 0) ≤ s.length := by
  fun_induction skip place outer s with
  | case1 s => cases h; exact Nat.le_refl _
  | case3 s k outer t u hu hs ih =>
    have h₁ := ih h
    have h₂ := Bracket.lead_length hu
    have h₃ := skipBlank_length s
    simp only [hs, reduceCtorEq, if_true, if_false, List.length_cons] at h₁ h₃ ⊢
    omega
  | case5 s k outer t hs _ ih =>
    have h₁ := ih h
    have h₃ := skipBlank_length s
    simp only [hs, reduceCtorEq, if_false, List.length_cons] at h₁ h₃ ⊢
    omega
  | case8 s outer b t hs _ u hu ih =>
    have h₁ := ih h
    have h₂ := skipScalar_length hu
    have h₃ := skipBlank_length s
    simp only [hs, reduceCtorEq, if_true, if_false, List.length_cons] at h₁ h₃ ⊢
    omega
  | case11 s outer b t hs k _ u hu ih =>
    have h₁ := ih h
    have h₂ := skipBlank_length t
    have h₃ := skipBlank_length s
    simp only [hs, hu, reduceCtorEq, if_true, if_false, List.length_cons] at h₁ h₂ h₃ ⊢
    omega
  | case12 s outer b t hs k _ c u hu _ v hv ih =>
    have h₁ := ih h
    have h₂ := skipBlank_length t
    have h₃ := skipBlank_length s
    have h₄ := Bracket.lead_length hv
    simp only [hs, hu, if_true, List.length_cons] at h₁ h₂ h₃ h₄ ⊢
    omega
  | _ => cases h

/-- Passes over a value, perhaps after blanks. -/
def skipValue (s : Bytes) : Except Fault Bytes :=
  skip .value [] s

theorem skipValue_length {s r : Bytes} (h : skipValue s = .ok r) : r.length < s.length :=
  skip_length h

end EventLog.Json
