import EventLog.Source
import Mathlib

/-!
# What a source has ahead

Reads cut the data of a source into pieces, and interrupted reads and closings may come between
them. None of this matters to a reader of lines. What does matter is what the source hands out
before it next reports the end of its data or fails (`Script.ahead`), which of the two it does
(`Script.ending`), and what it does after that (`Script.beyond`).

* `Script.read_data`, `Script.read_endOfData`, `Script.read_failed`: what a read tells about these.
* `Script.Delivers`: a source that hands out given data and then ends, or fails, for good.
-/

namespace EventLog

/-- How the data of a source comes to its end. -/
inductive SourceEnd
  /-- The source reports the end. -/
  | endOfData
  /-- The source fails. -/
  | failed (error : IoError)
  deriving DecidableEq, Repr

namespace Script

/-- The bytes that a source hands out before it next reports the end of its data or fails. An
interrupted read does not count as a failure. -/
def ahead : Script → Bytes
  | [] => []
  | .data bs :: script => bs ++ ahead script
  | .endOfData :: _ => []
  | .fail e :: script => if e.kind = .interrupted then ahead script else []
  | .close :: script => ahead script

/-- Whether a source next reports the end of its data or fails. -/
def ending : Script → SourceEnd
  | [] => .endOfData
  | .data _ :: script => ending script
  | .endOfData :: _ => .endOfData
  | .fail e :: script => if e.kind = .interrupted then ending script else .failed e
  | .close :: script => ending script

/-- The steps after the one in which a source next reports the end of its data or fails. -/
def beyond : Script → Script
  | [] => []
  | .data _ :: script => beyond script
  | .endOfData :: script => script
  | .fail e :: script => if e.kind = .interrupted then beyond script else script
  | .close :: script => beyond script

/-- How often the stream is closed during the reads of a source. -/
def closings (script : Script) : ℕ := script.count .close

@[simp] lemma ahead_keep (bs : Bytes) (script : Script) :
    ahead (keep bs script) = bs ++ ahead script := by
  cases bs <;> rfl

@[simp] lemma ending_keep (bs : Bytes) (script : Script) :
    ending (keep bs script) = ending script := by
  cases bs <;> rfl

@[simp] lemma beyond_keep (bs : Bytes) (script : Script) :
    beyond (keep bs script) = beyond script := by
  cases bs <;> rfl

@[simp] lemma closings_keep (bs : Bytes) (script : Script) :
    closings (keep bs script) = closings script := by
  cases bs <;> simp [keep, closings]

/-! ### One read -/

lemma read_data {capacity : ℕ} {script : Script} {bytes : Bytes}
    (h : (read capacity script).outcome = .data bytes) :
    script.ahead = bytes ++ (read capacity script).rest.ahead ∧
      (read capacity script).rest.ending = script.ending ∧
      (read capacity script).rest.beyond = script.beyond := by
  induction script with
  | nil => cases h
  | cons step script ih =>
    cases step with
    | data bs =>
      cases bs with
      -- a read passes over an empty piece
      | nil => exact ih h
      | cons b bs =>
        simp only [read, ReadOutcome.data.injEq] at h ⊢
        subst h
        simp only [ahead, ahead_keep, ending_keep, beyond_keep, ending, beyond, and_self, and_true]
        rw [List.cons_append, List.cons_append, ← List.append_assoc, List.take_append_drop]
    | endOfData => cases h
    | fail e => cases h
    | close => exact ih h

/-- A read that reports the end of the data finds nothing ahead. -/
lemma read_endOfData {capacity : ℕ} {script : Script}
    (h : (read capacity script).outcome = .endOfData) :
    script.ahead = [] ∧ script.ending = .endOfData ∧
      (read capacity script).rest = script.beyond := by
  induction script with
  | nil => exact ⟨rfl, rfl, rfl⟩
  | cons step script ih =>
    cases step with
    | data bs =>
      cases bs with
      | nil => exact ih h
      | cons b bs => cases h
    | endOfData => exact ⟨rfl, rfl, rfl⟩
    | fail e => cases h
    | close => exact ih h

/-- A read that fails has reached the ending of the source, unless it was only interrupted. -/
lemma read_failed {capacity : ℕ} {script : Script} {e : IoError}
    (h : (read capacity script).outcome = .failed e) :
    if e.kind = .interrupted then
      (read capacity script).rest.ahead = script.ahead ∧
        (read capacity script).rest.ending = script.ending ∧
        (read capacity script).rest.beyond = script.beyond
    else
      script.ahead = [] ∧ script.ending = .failed e ∧
        (read capacity script).rest = script.beyond := by
  induction script with
  | nil => cases h
  | cons step script ih =>
    cases step with
    | data bs =>
      cases bs with
      | nil => exact ih h
      | cons b bs => cases h
    | endOfData => cases h
    | fail e' =>
      obtain rfl : e' = e := by simpa [read] using h
      by_cases he : e'.kind = .interrupted <;> simp [he, read, ahead, ending, beyond]
    | close => exact ih h

/-- The closings of a read are those that the source no longer has ahead. -/
lemma read_closings (capacity : ℕ) (script : Script) :
    (read capacity script).closings + (read capacity script).rest.closings = script.closings := by
  induction script with
  | nil => rfl
  | cons step script ih =>
    cases step with
    | data bs =>
      cases bs with
      | nil => simpa [read, closings] using ih
      | cons b bs =>
        simp only [read, closings_keep, Nat.zero_add]
        simp [closings]
    | endOfData => simp [read, closings]
    | fail e => simp [read, closings]
    | close =>
      simp only [read, closings, List.count_cons_self] at ih ⊢
      omega

/-! ### What is left to hand out -/

@[simp] lemma unread_keep (bs : Bytes) (script : Script) :
    unread (keep bs script) = bs ++ unread script := by
  cases bs <;> rfl

/-- A read takes what it brings off what is left to hand out. -/
lemma read_unread (capacity : ℕ) (script : Script) :
    (read capacity script).outcome.bytes ++ (read capacity script).rest.unread = script.unread := by
  induction script with
  | nil => rfl
  | cons step script ih =>
    cases step with
    | data bs =>
      cases bs with
      | nil => exact ih
      | cons b bs =>
        simp only [read, ReadOutcome.bytes, unread_keep, unread]
        rw [List.cons_append, List.cons_append, ← List.append_assoc, List.take_append_drop]
    | endOfData => rfl
    | fail e => rfl
    | close => exact ih

/-- What a source has ahead is the front of what it has left. -/
lemma ahead_prefix (script : Script) : script.ahead <+: script.unread := by
  induction script with
  | nil => exact List.prefix_rfl
  | cons step script ih =>
    cases step with
    | data bs => exact (List.prefix_append_right_inj bs).2 ih
    | endOfData => exact List.nil_prefix
    | fail e =>
      by_cases he : e.kind = .interrupted
      · rw [ahead, if_pos he]
        exact ih
      · rw [ahead, if_neg he]
        exact List.nil_prefix
    | close => exact ih

/-! ### Data that is delivered once -/

/-- A source that hands out `data`, in pieces of any sizes and with any number of interrupted reads
between them, and then reports the end for good, or fails. Nobody closes the stream meanwhile. -/
inductive Delivers : Script → Bytes → SourceEnd → Prop
  | nil : Delivers [] [] .endOfData
  | data {script : Script} {rest : Bytes} {ending : SourceEnd} (bs : Bytes) :
      Delivers script rest ending → Delivers (.data bs :: script) (bs ++ rest) ending
  | interrupted {script : Script} {rest : Bytes} {ending : SourceEnd} {e : IoError} :
      e.kind = .interrupted → Delivers script rest ending → Delivers (.fail e :: script) rest ending
  | endOfData {script : Script} :
      Delivers script [] .endOfData → Delivers (.endOfData :: script) [] .endOfData
  | failed {e : IoError} (script : Script) :
      e.kind ≠ .interrupted → Delivers (.fail e :: script) [] (.failed e)

lemma Delivers.ahead_eq {script : Script} {log : Bytes} {ending : SourceEnd}
    (h : Delivers script log ending) : script.ahead = log ∧ script.ending = ending := by
  induction h with
  | nil => exact ⟨rfl, rfl⟩
  | data bs _ ih => exact ⟨congrArg (bs ++ ·) ih.1, ih.2⟩
  | interrupted he _ ih => simpa [Script.ahead, Script.ending, he] using ih
  | endOfData _ _ => exact ⟨rfl, rfl⟩
  | failed _ he => simp [Script.ahead, Script.ending, he]

lemma Delivers.keep {script : Script} {log : Bytes} {ending : SourceEnd}
    (h : Delivers script log ending) (bs : Bytes) :
    Delivers (Script.keep bs script) (bs ++ log) ending := by
  cases bs with
  | nil => exact h
  | cons b bs => exact .data (b :: bs) h

/-- A read of such a source is not closed into, and leaves such a source unless it fails. -/
lemma Delivers.read {script : Script} {log : Bytes} {ending : SourceEnd}
    (h : Delivers script log ending) (capacity : ℕ) :
    (Script.read capacity script).closings = 0 ∧
      ((∃ rest, Delivers (Script.read capacity script).rest rest ending) ∨
        ∃ e, (Script.read capacity script).outcome = .failed e ∧ e.kind ≠ .interrupted) := by
  induction h with
  | nil => exact ⟨rfl, Or.inl ⟨[], .nil⟩⟩
  | data bs h ih =>
    cases bs with
    | nil => exact ih
    | cons b bs => exact ⟨rfl, Or.inl ⟨_, h.keep (bs.drop (capacity - 1))⟩⟩
  | interrupted _ h _ => exact ⟨rfl, Or.inl ⟨_, h⟩⟩
  | endOfData h _ => exact ⟨rfl, Or.inl ⟨_, h⟩⟩
  | failed _ he => exact ⟨rfl, Or.inr ⟨_, rfl, he⟩⟩

end Script

end EventLog
