import EventLog.Json.Word

/-!
# Strings

A string is read after its opening quote. Escapes are undone first, byte by byte; then the result
has to be UTF-8. A character beyond the 16-bit range is escaped as a pair of surrogates, and
surrogates stand in pairs only.

* `scanText`: reads a string and its closing quote.
* `scanText_length`: the closing quote at least is used up.
-/

namespace EventLog.Json

open Ascii

/-- The number that four hexadecimal digits denote. All four bytes are read before one of them is
refused; of a text with fewer bytes nothing is left. -/
def scanHex : Bytes → Scan Nat
  | a :: b :: c :: d :: r =>
    match hexValue? a, hexValue? b, hexValue? c, hexValue? d with
    | some a, some b, some c, some d => .ok (((a * 16 + b) * 16 + c) * 16 + d, r)
    | _, _, _, _ => .error (.at .invalidEscape r)
  | _ => .error (.at .eofInString [])

/-- A byte that has to follow inside an escape of two surrogates. -/
def expectPair (c : Char) : Bytes → Except Fault Bytes
  | [] => .error (.at .eofInString [])
  | b :: r => if b = byte c then .ok r else .error (.at .unpairedSurrogate r)

/-- The surrogates that come first in a pair. -/
def isHighSurrogate (n : Nat) : Bool :=
  0xD800 ≤ n && n ≤ 0xDBFF

/-- The surrogates that come second in a pair. -/
def isLowSurrogate (n : Nat) : Bool :=
  0xDC00 ≤ n && n ≤ 0xDFFF

/-- The character that an escape by number stands for, after the letter of the escape. -/
def scanUnicode (s : Bytes) : Except Fault (Char × Bytes) := do
  let (n, r) ← scanHex s
  if isLowSurrogate n then
    throw (.at .loneSurrogate r)
  else if isHighSurrogate n then
    let r ← expectPair '\\' r
    let r ← expectPair 'u' r
    let (m, r) ← scanHex r
    if isLowSurrogate m then
      return (Char.ofNat (0x10000 + (n - 0xD800) * 0x400 + (m - 0xDC00)), r)
    else throw (.at .loneSurrogate r)
  else return (Char.ofNat n, r)

/-- The byte that a short escape stands for. -/
def shortEscape? (b : UInt8) : Option UInt8 :=
  if b = quote then some quote
  else if b = backslash then some backslash
  else if b = byte '/' then some (byte '/')
  else if b = byte 'b' then some 0x08
  else if b = byte 'f' then some 0x0C
  else if b = byte 'n' then some lineFeed
  else if b = byte 'r' then some carriageReturn
  else if b = byte 't' then some tab
  else none

/-- The bytes that an escape stands for, after the backslash. -/
def scanEscape : Bytes → Except Fault (Bytes × Bytes)
  | [] => .error (.at .eofInString [])
  | b :: r =>
    match shortEscape? b with
    | some c => .ok ([c], r)
    | none =>
      if b = byte 'u' then do
        let (c, r) ← scanUnicode r
        return (String.utf8EncodeChar c, r)
      else .error (.at .invalidEscape r)

theorem scanHex_length {s r : Bytes} {n : Nat} (h : scanHex s = .ok (n, r)) :
    r.length < s.length := by
  unfold scanHex at h
  split at h
  · split at h
    · cases h; simp only [List.length_cons]; omega
    · cases h
  · cases h

theorem expectPair_length {c : Char} {s r : Bytes} (h : expectPair c s = .ok r) :
    r.length < s.length := by
  unfold expectPair at h
  split at h
  · cases h
  · split at h
    · cases h; simp
    · cases h

theorem scanUnicode_length {s r : Bytes} {c : Char} (h : scanUnicode s = .ok (c, r)) :
    r.length < s.length := by
  unfold scanUnicode at h
  match h₁ : scanHex s with
  | .error e => rw [h₁] at h; cases h
  | .ok (n, r₁) =>
    have l₁ := scanHex_length h₁
    simp only [h₁, bind, Except.bind] at h
    split at h
    · cases h
    · split at h
      · match h₂ : expectPair '\\' r₁ with
        | .error e => rw [h₂] at h; cases h
        | .ok r₂ =>
          have l₂ := expectPair_length h₂
          simp only [h₂] at h
          match h₃ : expectPair 'u' r₂ with
          | .error e => rw [h₃] at h; cases h
          | .ok r₃ =>
            have l₃ := expectPair_length h₃
            simp only [h₃] at h
            match h₄ : scanHex r₃ with
            | .error e => rw [h₄] at h; cases h
            | .ok (m, r₄) =>
              have l₄ := scanHex_length h₄
              simp only [h₄] at h
              split at h
              · simp only [pure, Except.pure, Except.ok.injEq, Prod.mk.injEq] at h
                rw [← h.2]
                omega
              · cases h
      · cases h; exact l₁

theorem scanEscape_length {s r bs : Bytes} (h : scanEscape s = .ok (bs, r)) :
    r.length < s.length := by
  unfold scanEscape at h
  split at h
  · cases h
  · next b t =>
    split at h
    · cases h; simp
    · split at h
      · match h₁ : scanUnicode t with
        | .error e => rw [h₁] at h; cases h
        | .ok (c, r₁) =>
          rw [h₁] at h
          cases h
          exact Nat.lt_succ_of_lt (scanUnicode_length h₁)
      · cases h

/-- The bytes of a string up to its closing quote, with the bytes read before in front, the last of
them first. A byte below the space is read before it is refused. -/
def scanBytes (before : Bytes) (s : Bytes) : Scan Bytes :=
  match s with
  | [] => .error (.at .eofInString [])
  | b :: r =>
    if b = quote then .ok (before.reverse, r)
    else if b = backslash then
      match _h : scanEscape r with
      | .ok (bs, r) => scanBytes (bs.reverse ++ before) r
      | .error e => .error e
    else if b < space then .error (.at .controlCharacter r)
    else scanBytes (b :: before) r
termination_by s.length
decreasing_by
  · exact Nat.lt_succ_of_lt (scanEscape_length _h)
  · exact Nat.lt_succ_self _

/-- A string of characters. Of ill-formed bytes the place is told by counting back from the closing
quote. -/
def scanText (s : Bytes) : Scan String :=
  match scanBytes [] s with
  | .error e => .error e
  | .ok (bs, r) =>
    match Utf8.decode bs with
    | (cs, []) => .ok (String.ofList cs, r)
    | (_, bad) => .error ⟨.invalidCodePoint, r.length, bad.length⟩

theorem scanBytes_length {before s r bs : Bytes} (h : scanBytes before s = .ok (bs, r)) :
    r.length < s.length := by
  fun_induction scanBytes before s with
  | case1 before => cases h
  | case2 before t => cases h; exact Nat.lt_succ_self _
  | case3 before t cs u hu _ ih =>
    exact Nat.lt_succ_of_lt (Nat.lt_trans (ih h) (scanEscape_length hu))
  | case4 before t e he => cases h
  | case5 before b t => cases h
  | case6 before b t _ _ _ ih => exact Nat.lt_succ_of_lt (ih h)

theorem scanText_length {s r : Bytes} {v : String} (h : scanText s = .ok (v, r)) :
    r.length < s.length := by
  unfold scanText at h
  split at h
  · cases h
  · next bs t hs =>
    split at h
    · cases h; exact scanBytes_length hs
    · cases h

end EventLog.Json
