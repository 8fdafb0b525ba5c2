import EventLog.Line
import EventLog.Proofs.Log

/-!
# Taking bytes for a line

How a line fills up does not depend on the pieces in which its bytes come (`Line.fill_append`), so
it is enough to know what becomes of all the bytes at once: they end the line with a line feed, or
fill the window without one, or do neither.
-/

namespace EventLog.Line

open Ascii Log

/-- A line with some more bytes. -/
def extend (l : Line) (s : Bytes) : Line := ⟨s.reverse ++ l.taken, l.room - s.length⟩

lemma extend_push (l : Line) (b : UInt8) (s : Bytes) : (l.push b).extend s = l.extend (b :: s) := by
  simp only [push, extend, List.reverse_cons, List.length_cons, List.append_assoc,
    List.singleton_append, Line.mk.injEq, true_and]
  omega

/-- It makes no difference in which pieces the bytes come. -/
lemma fill_append (l : Line) (s t : Bytes) :
    l.fill (s ++ t) =
      match l.fill s with
      | .complete m r => .complete m (r ++ t)
      | .unfinished m => m.fill t := by
  induction s generalizing l with
  | nil => rfl
  | cons b s ih =>
    simp only [List.cons_append, fill]
    split
    · rfl
    · exact ih (l.push b)

/-- Bytes without a line feed go into the line as long as there is room. -/
lemma fill_free {l : Line} {s : Bytes} (hs : lineFeed ∉ s) (hr : s.length < l.room) :
    l.fill s = .unfinished (l.extend s) := by
  induction s generalizing l with
  | nil => rfl
  | cons b s ih =>
    simp only [List.mem_cons, not_or] at hs
    simp only [List.length_cons] at hr
    have hb : ¬ (b = lineFeed ∨ (l.push b).room = 0) := by
      rintro (rfl | h)
      · exact hs.1 rfl
      · simp only [push] at h
        omega
    rw [fill, if_neg hb, ih hs.2 (by simp only [push]; omega), extend_push]

/-- A line feed within the window ends the line. -/
lemma fill_terminated {l : Line} {s : Bytes} (hs : lineFeed ∉ s) (hr : s.length < l.room)
    (r : Bytes) :
    l.fill (s ++ lineFeed :: r) = .complete (l.extend (s ++ [lineFeed])) r := by
  rw [fill_append, fill_free hs hr]
  simp [fill, push, extend]
  omega

/-- Bytes that fill the window without a line feed are all that is taken. -/
lemma fill_full {l : Line} {s : Bytes} (hs : lineFeed ∉ s) (hr : s.length = l.room) (h0 : s ≠ [])
    (r : Bytes) : l.fill (s ++ r) = .complete (l.extend s) r := by
  -- the last byte is the one that leaves no room
  obtain ⟨t, b, rfl⟩ := (List.eq_nil_or_concat s).resolve_left h0
  simp only [List.concat_eq_append, List.mem_append, List.mem_singleton, not_or,
    List.length_append, List.length_cons, List.length_nil] at hs hr ⊢
  have hroom : ((l.extend t).push b).room = 0 := by
    simp only [push, extend]
    omega
  rw [List.append_assoc, fill_append, fill_free hs.1 (by omega)]
  simp only [List.singleton_append, fill, hroom, or_true, if_true]
  congr 1
  simp only [push, extend, List.reverse_append, List.reverse_cons, List.reverse_nil,
    List.nil_append, List.cons_append, List.length_append,
    List.length_cons, List.length_nil, Line.mk.injEq, true_and]
  omega

/-- A line that goes on has not met a line feed and still has room. -/
lemma fill_unfinished {l m : Line} {s : Bytes} (h : l.fill s = .unfinished m) (hr : 0 < l.room) :
    lineFeed ∉ s ∧ s.length < l.room := by
  induction s generalizing l with
  | nil => exact ⟨List.not_mem_nil, hr⟩
  | cons b s ih =>
    simp only [fill] at h
    split at h
    · cases h
    · next hb =>
      obtain ⟨hfree, hlen⟩ := ih h (Nat.pos_of_ne_zero fun h0 => hb (Or.inr h0))
      simp only [push] at hlen
      refine ⟨?_, by simp only [List.length_cons]; omega⟩
      rw [List.mem_cons, not_or]
      exact ⟨fun hbl => hb (Or.inl hbl.symm), hfree⟩

lemma fill_complete_suffix {l m : Line} {s r : Bytes} (h : l.fill s = .complete m r) :
    r <:+ s := by
  induction s generalizing l with
  | nil => cases h
  | cons b s ih =>
    simp only [fill] at h
    split at h
    · cases h
      exact List.suffix_cons b _
    · exact (ih h).trans (List.suffix_cons b s)

/-- The line after some bytes have been offered to it. -/
def Fill.line : Fill → Line
  | .complete l _ => l
  | .unfinished l => l

lemma length_fill_le {l : Line} (s : Bytes) (h : 0 < l.room) :
    (l.fill s).line.taken.length ≤ l.taken.length + l.room := by
  induction s generalizing l with
  | nil => exact Nat.le_add_right _ _
  | cons b s ih =>
    have hpush : (l.push b).taken.length + (l.push b).room = l.taken.length + l.room := by
      simp only [push, List.length_cons]
      omega
    simp only [fill]
    split
    · show (l.push b).taken.length ≤ l.taken.length + l.room
      omega
    · next hb =>
      rw [← hpush]
      exact ih (Nat.pos_of_ne_zero fun h0 => hb (Or.inr h0))

/-! ### The content of a line -/

@[simp] lemma bytes_extend_start (window : ℕ) (s : Bytes) :
    ((start window).extend s).bytes = s := by
  simp [start, extend, bytes]

lemma length_bytes (l : Line) : l.bytes.length = l.taken.length :=
  List.length_reverse

lemma content_terminated (window : ℕ) (s : Bytes) :
    ((start window).extend (s ++ [lineFeed])).content.bytes = chomp s := by
  rcases List.eq_nil_or_concat s with rfl | ⟨t, b, rfl⟩
  · rfl
  · by_cases hb : b = carriageReturn <;>
      simp [start, extend, content, stripped, bytes, chomp, hb]

lemma content_free {window : ℕ} {s : Bytes} (hs : lineFeed ∉ s) :
    ((start window).extend s).content.bytes = s := by
  rcases List.eq_nil_or_concat s with rfl | ⟨t, b, rfl⟩
  · rfl
  · have hb : b ≠ lineFeed := by
      rintro rfl
      exact hs (by simp)
    simp [start, extend, content, stripped, bytes, hb]

end EventLog.Line
