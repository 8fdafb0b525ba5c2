import EventLog.Json.Fault

/-!
# Blanks and words

Between the tokens of a document there may be blanks; three values are written as words.

* `skipBlank_length`, `word_length`: nothing is added to the text.
-/

namespace EventLog.Json

open Ascii

/-- The four blanks of a document. -/
def isBlank (b : UInt8) : Bool :=
  b == space || b == lineFeed || b == tab || b == carriageReturn

/-- A text without the blanks at its front. -/
def skipBlank (s : Bytes) : Bytes :=
  s.dropWhile isBlank

theorem skipBlank_length (s : Bytes) : (skipBlank s).length ≤ s.length :=
  (List.dropWhile_sublist _).length_le

/-- A word that has to stand at the front of a text. The first byte that differs is read before it
is refused. -/
def word : (letters : Bytes) → Bytes → Except Fault Bytes
  | [], s => .ok s
  | _ :: _, [] => .error (.at .eofInValue [])
  | c :: letters, b :: r =>
    if b = c then word letters r else .error (.at .expectedWord r)

theorem word_length {letters s r : Bytes} (h : word letters s = .ok r) : r.length ≤ s.length := by
  induction letters, s using word.induct with
  | case1 s => cases h; exact Nat.le_refl _
  | case2 c letters => cases h
  | case3 b letters s ih =>
    rw [word, if_pos rfl] at h
    exact Nat.le_succ_of_le (ih h)
  | case4 c letters b s hb => simp [word, hb] at h

/-- The word `null` after its first letter. -/
def nullTail : Bytes := [byte 'u', byte 'l', byte 'l']

/-- The word `true` after its first letter. -/
def trueTail : Bytes := [byte 'r', byte 'u', byte 'e']

/-- The word `false` after its first letter. -/
def falseTail : Bytes := [byte 'a', byte 'l', byte 's', byte 'e']

end EventLog.Json
