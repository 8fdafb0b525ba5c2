/-!
# Text as bytes

A log is a list of bytes; the strings inside it are UTF-8. This module fixes the encoding of
characters (`Utf8.encode`) and reads it back: `Utf8.decode` splits a list of bytes into the
characters of its longest well-formed front and the bytes that are left, so a text is well formed
exactly when nothing is left.

* `Utf8.next?_length`: a character read from the front uses up at least one byte.
-/

namespace EventLog

/-- The contents of a log, a line or a read. -/
abbrev Bytes := List UInt8

namespace Utf8

/-- The UTF-8 form of a list of characters. -/
def encode (cs : List Char) : Bytes :=
  cs.flatMap String.utf8EncodeChar

/-- What the first byte of a character says about it. -/
structure Lead where
  /-- How many continuation bytes follow. -/
  more : Nat
  /-- The bits of the value that the first byte holds. -/
  bits : Nat
  /-- The least value that needs a form of this length. -/
  least : Nat

/-- The first bytes that a character may have. -/
def lead? (b : UInt8) : Option Lead :=
  let n := b.toNat
  if n < 0x80 then some ⟨0, n, 0⟩
  else if n < 0xC0 then none
  else if n < 0xE0 then some ⟨1, n - 0xC0, 0x80⟩
  else if n < 0xF0 then some ⟨2, n - 0xE0, 0x800⟩
  else if n < 0xF8 then some ⟨3, n - 0xF0, 0x10000⟩
  else none

/-- Adds the six bits of each of the next `more` bytes, which must lie in `80..BF`. -/
def extend? : (more value : Nat) → Bytes → Option (Nat × Bytes)
  | 0, value, s => some (value, s)
  | _ + 1, _, [] => none
  | more + 1, value, b :: r =>
    if 0x80 ≤ b.toNat ∧ b.toNat < 0xC0 then
      extend? more (value * 64 + (b.toNat - 0x80)) r
    else none

/-- The character at the front of a list of bytes, in its shortest form only: overlong forms,
surrogates and values above `10FFFF` are no characters. -/
def next? : Bytes → Option (Char × Bytes)
  | [] => none
  | b :: r =>
    (lead? b).bind fun lead =>
      (extend? lead.more lead.bits r).bind fun (value, r) =>
        if lead.least ≤ value ∧ value.isValidChar then some (Char.ofNat value, r) else none

theorem extend?_length {more value v : Nat} {s r : Bytes} (h : extend? more value s = some (v, r)) :
    r.length ≤ s.length := by
  induction more, value, s using extend?.induct with
  | case1 value s => simp_all [extend?]
  | case2 => simp [extend?] at h
  | case3 value more b s hb ih =>
    rw [extend?, if_pos hb] at h
    exact Nat.le_succ_of_le (ih h)
  | case4 value more b s hb => simp [extend?, hb] at h

theorem next?_length {s r : Bytes} {c : Char} (h : next? s = some (c, r)) :
    r.length < s.length := by
  cases s with
  | nil => simp [next?] at h
  | cons b s =>
    simp only [next?, Option.bind_eq_some_iff, Option.ite_none_right_eq_some, Option.some.injEq,
      Prod.mk.injEq] at h
    obtain ⟨lead, -, ⟨value, t⟩, ht, -, -, rfl⟩ := h
    exact Nat.lt_succ_of_le (extend?_length ht)

/-- Reads characters until the bytes are used up or make no character, with the characters read
before in front, the last of them first. -/
def decodeAfter (before : List Char) (s : Bytes) : List Char × Bytes :=
  match _h : next? s with
  | some (c, r) => decodeAfter (c :: before) r
  | none => (before.reverse, s)
termination_by s.length
decreasing_by exact next?_length _h

/-- The characters of the longest well-formed front, and the bytes from the first one that makes no
character on. -/
def decode (s : Bytes) : List Char × Bytes :=
  decodeAfter [] s

/-- The characters of a text that is well formed from end to end. -/
def decode? (s : Bytes) : Option (List Char) :=
  match decode s with
  | (cs, []) => some cs
  | _ => none

end Utf8

/-- The UTF-8 form of a string. -/
def utf8 (s : String) : Bytes :=
  Utf8.encode s.toList

end EventLog
