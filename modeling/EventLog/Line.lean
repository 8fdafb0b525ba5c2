import EventLog.Text.Ascii
import EventLog.Text.Utf8

/-!
# Lines

A line is taken byte by byte from what has been read, up to its line feed or to the end of a window
that leaves room for the longest line and its terminator. The terminator is a line feed, perhaps
with one carriage return before it.

* `Line.fill`: takes bytes for a line.
* `Line.fill_complete_length`, `Line.fill_unfinished_length`: no byte is lost or added.
-/

namespace EventLog

open Ascii

/-- The bytes taken for a line. -/
structure Line where
  /-- The bytes, the last one first. -/
  taken : Bytes
  /-- How many more bytes the window has room for. -/
  room : Nat
  deriving DecidableEq, Repr

namespace Line

/-- A line of which nothing has been taken. -/
def start (window : Nat) : Line := ⟨[], window⟩

/-- The bytes of a line in their order. -/
def bytes (l : Line) : Bytes := l.taken.reverse

/-- A line with one more byte. -/
def push (l : Line) (b : UInt8) : Line := ⟨b :: l.taken, l.room - 1⟩

/-- A line after some bytes have been offered to it. -/
inductive Fill
  /-- The line has its line feed, or its window is full; the bytes left are not its own. -/
  | complete (line : Line) (rest : Bytes)
  /-- All bytes have been taken and the line goes on. -/
  | unfinished (line : Line)

/-- Takes bytes for a line. -/
def fill (l : Line) : Bytes → Fill
  | [] => .unfinished l
  | b :: r =>
    if b = lineFeed ∨ (l.push b).room = 0 then .complete (l.push b) r
    else (l.push b).fill r

/-- The bytes of a line without its terminator, the last byte first. -/
def stripped : Bytes → Bytes
  | [] => []
  | b :: r =>
    if b = lineFeed then
      match r with
      | [] => []
      | c :: t => if c = carriageReturn then t else c :: t
    else b :: r

/-- A line without its terminator. -/
def content (l : Line) : Line := { l with taken := stripped l.taken }

theorem fill_complete_length {l m : Line} {s r : Bytes} (h : l.fill s = .complete m r) :
    m.taken.length + r.length = l.taken.length + s.length ∧ r.length < s.length := by
  induction s generalizing l with
  | nil => cases h
  | cons b s ih =>
    simp only [fill] at h
    split at h
    · cases h
      simp only [push, List.length_cons]
      omega
    · have := ih h
      simp only [push, List.length_cons] at this ⊢
      omega

theorem fill_unfinished_length {l m : Line} {s : Bytes} (h : l.fill s = .unfinished m) :
    m.taken.length = l.taken.length + s.length := by
  induction s generalizing l with
  | nil => cases h; rfl
  | cons b s ih =>
    simp only [fill] at h
    split at h
    · cases h
    · have := ih h
      simp only [push, List.length_cons] at this ⊢
      omega

theorem stripped_length (s : Bytes) : (stripped s).length ≤ s.length := by
  unfold stripped
  repeat' split
  all_goals simp only [List.length_cons, List.length_nil]
  all_goals omega

end Line

end EventLog
