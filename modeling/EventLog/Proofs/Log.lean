import EventLog.Proofs.Source
import EventLog.Record.Kind
import EventLog.Stream.Failure

/-!
# Reading a whole log at once

The plain account of what a log holds, for a log that is at hand from beginning to end. It knows
nothing of reads, buffers or windows: the log is cut after each line feed, the contents of the lines
are looked at one after the other, and the first that is too long or no record ends the reading.

* `Log.contents`: the contents of the lines of a log.
* `Log.read`: the records of a log, and the failure that ends it, if one does.
* `Log.next`: what the front of a log holds.
-/

namespace EventLog.Log

open Ascii

/-! ### Lines -/

/-- The content of a line that has a line feed: what stands before it, less at most one carriage
return. -/
def chomp (line : Bytes) : Bytes :=
  if line.getLast? = some carriageReturn then line.dropLast else line

/-- The content that the bytes after the last line feed make. If the source reports the end of its
data, they are a line without terminator, unless there are none. If it fails, they are lost; only
when they already exceed the limit and any terminator, that is what counts. -/
def tailContents (limit : ℕ) : SourceEnd → Bytes → List Bytes
  | .endOfData, tail => if tail = [] then [] else [tail]
  | .failed _, tail => if limit + 2 ≤ tail.length then [tail] else []

/-- The contents of the lines of a log, the empty ones among them. -/
def contents (limit : ℕ) (ending : SourceEnd) (log : Bytes) : List Bytes :=
  let pieces := log.splitOn lineFeed
  pieces.dropLast.map chomp ++ tailContents limit ending (pieces.getLastD [])

/-- The contents that are not empty. -/
def lines (limit : ℕ) (ending : SourceEnd) (log : Bytes) : List Bytes :=
  (contents limit ending log).filter (· ≠ [])

lemma contents_free {limit : ℕ} {ending : SourceEnd} {tail : Bytes} (h : lineFeed ∉ tail) :
    contents limit ending tail = tailContents limit ending tail := by
  simp [contents, List.splitOn_eq_singleton h]

lemma contents_terminated {limit : ℕ} {ending : SourceEnd} {line : Bytes} (h : lineFeed ∉ line)
    (rest : Bytes) :
    contents limit ending (line ++ lineFeed :: rest) =
      chomp line :: contents limit ending rest := by
  have hne := List.splitOn_ne_nil lineFeed rest
  simp only [contents, List.splitOn_append_cons_self_of_not_mem h]
  rw [List.dropLast_cons_of_ne_nil hne]
  rcases hs : rest.splitOn lineFeed with _ | ⟨p, ps⟩
  · exact absurd hs hne
  · simp

/-- A log starts with a line that has a line feed, or it has no line feed at all. -/
lemma free_or_terminated (log : Bytes) :
    lineFeed ∉ log ∨ ∃ line rest, lineFeed ∉ line ∧ log = line ++ lineFeed :: rest := by
  by_cases h : lineFeed ∈ log
  · obtain ⟨line, rest, rfl, hl⟩ := List.eq_append_cons_of_mem h
    exact Or.inr ⟨line, rest, hl, rfl⟩
  · exact Or.inl h

lemma isPrefix_chomp (line : Bytes) : chomp line <+: line := by
  unfold chomp
  split
  · exact List.dropLast_prefix line
  · exact List.prefix_rfl

lemma length_chomp (line : Bytes) :
    (chomp line).length ≤ line.length ∧ line.length ≤ (chomp line).length + 1 := by
  unfold chomp
  split
  · rw [List.length_dropLast]
    omega
  · omega

lemma lines_tail {limit : ℕ} {tail : Bytes} (hfree : lineFeed ∉ tail) :
    lines limit .endOfData tail = if tail = [] then [] else [tail] := by
  rw [lines, contents_free hfree, tailContents]
  split_ifs with ht
  · rfl
  · exact List.filter_cons_of_pos (by simpa using ht)

/-- A line with a line feed counts unless it has no content. -/
lemma lines_terminated {limit : ℕ} {ending : SourceEnd} {line : Bytes} (h : lineFeed ∉ line)
    (rest : Bytes) :
    lines limit ending (line ++ lineFeed :: rest) =
      if chomp line = [] then lines limit ending rest
      else chomp line :: lines limit ending rest := by
  rw [lines, contents_terminated h, List.filter_cons]
  by_cases hc : chomp line = [] <;> simp [hc, lines]

lemma lines_append_ne_nil {limit : ℕ} {a : Bytes} (hfree : lineFeed ∉ a) (hl : 2 ≤ a.length)
    (rest : Bytes) : lines limit .endOfData (a ++ rest) ≠ [] := by
  rcases free_or_terminated rest with hr | ⟨line, more, hline, rfl⟩
  · have hne : a ++ rest ≠ [] := by
      intro h
      rw [(List.append_eq_nil_iff.1 h).1] at hl
      exact absurd hl (by decide)
    rw [lines_tail (by simp [hfree, hr]), if_neg hne]
    exact List.cons_ne_nil _ _
  · have hne : chomp (a ++ line) ≠ [] := by
      have hlen := (length_chomp (a ++ line)).2
      intro h
      rw [h, List.length_append, List.length_nil] at hlen
      omega
    rw [← List.append_assoc, lines_terminated (by simp [hfree, hline]), if_neg hne]
    exact List.cons_ne_nil _ _

/-- The last line of a log has no line feed. -/
def Unterminated (log : Bytes) : Prop := log ≠ [] ∧ log.getLast? ≠ some lineFeed

instance (log : Bytes) : Decidable (Unterminated log) :=
  inferInstanceAs (Decidable (_ ∧ _))

lemma unterminated_free {tail : Bytes} (hfree : lineFeed ∉ tail) (hne : tail ≠ []) :
    Unterminated tail :=
  ⟨hne, fun h => hfree (List.mem_of_getLast? h)⟩

/-- What comes before a line feed does not matter for the last line. -/
lemma unterminated_append (front rest : Bytes) :
    Unterminated (front ++ lineFeed :: rest) ↔ Unterminated rest := by
  unfold Unterminated
  rw [List.getLast?_append]
  cases rest with
  | nil => simp
  | cons b rest => simp

lemma lines_ne_nil {limit : ℕ} {log : Bytes} (h : Unterminated log) :
    lines limit .endOfData log ≠ [] := by
  induction hn : log.length using Nat.strong_induction_on generalizing log with
  | _ n ih =>
    rcases free_or_terminated log with hfree | ⟨line, rest, hfree, rfl⟩
    · rw [lines_tail hfree, if_neg h.1]
      exact List.cons_ne_nil _ _
    · have hlt : rest.length < n := by
        rw [← hn, List.length_append, List.length_cons]
        omega
      have hrest := ih rest.length hlt ((unterminated_append line rest).1 h) rfl
      rw [lines_terminated hfree]
      split
      · exact hrest
      · exact List.cons_ne_nil _ _

/-! ### Records -/

variable {ρ : Type} [LogRecord ρ]

/-- The record that a content holds, or why it ends the reading. -/
def judge (limit : ℕ) (content : Bytes) : Except Failure ρ :=
  if limit < content.length then .error (.lineTooLong limit)
  else (LogRecord.decode content).mapError .decode

/-- What a reading comes to. -/
structure Reading (ρ : Type) where
  /-- The records, each with the content of its line. -/
  records : List (Bytes × ρ)
  /-- What has ended the reading before the end of the log, if anything has. -/
  failure : Option Failure

/-- The failure that a source ends with. -/
def endFailure? : SourceEnd → Option Failure
  | .endOfData => none
  | .failed e => some (.read e)

/-- Goes through contents that are not empty until one is no record. -/
def readLines (limit : ℕ) (ending : SourceEnd) : List Bytes → Reading ρ
  | [] => ⟨[], endFailure? ending⟩
  | content :: more =>
    match judge limit content with
    | .ok record =>
      let rest := readLines limit ending more
      ⟨(content, record) :: rest.records, rest.failure⟩
    | .error failure => ⟨[], some failure⟩

/-- What a log holds if its source has the given ending. -/
def read (limit : ℕ) (ending : SourceEnd) (log : Bytes) : Reading ρ :=
  readLines limit ending (lines limit ending log)

/-- What stands at the front of a log. -/
inductive Next (ρ : Type)
  /-- A line with a record. -/
  | record (content : Bytes) (value : ρ)
  /-- Something that ends the reading. -/
  | failed (failure : Failure)
  /-- Nothing. -/
  | nothing
  deriving DecidableEq, Repr

/-- What stands at the front of a log: its first line that is not empty, or the ending of its
source if it has none. -/
def next (limit : ℕ) (ending : SourceEnd) (log : Bytes) : Next ρ :=
  match (lines limit ending log).head? with
  | none => (endFailure? ending).elim .nothing .failed
  | some content =>
    match judge limit content with
    | .ok value => .record content value
    | .error failure => .failed failure

variable {limit : ℕ} {ending : SourceEnd} {log : Bytes}

lemma judge_eq_ok {c : Bytes} {v : ρ} :
    judge limit c = .ok v ↔ c.length ≤ limit ∧ LogRecord.decode c = .ok v := by
  unfold judge
  by_cases hl : limit < c.length
  · rw [if_pos hl]
    exact ⟨nofun, fun h => absurd h.1 (Nat.not_le.2 hl)⟩
  · rw [if_neg hl]
    cases hd : LogRecord.decode (ρ := ρ) c with
    | ok v' => simp [Except.mapError, Nat.not_lt.1 hl]
    | error e => simp [Except.mapError]

lemma failure_readLines_cons {c : Bytes} {more : List Bytes} :
    (readLines (ρ := ρ) limit ending (c :: more)).failure = none ↔
      (∃ v : ρ, judge limit c = .ok v) ∧
        (readLines (ρ := ρ) limit ending more).failure = none := by
  rw [readLines]
  cases judge (ρ := ρ) limit c with
  | ok v => simp
  | error e => simp

lemma next_of_lines_nil (h : lines limit ending log = []) :
    next (ρ := ρ) limit ending log = (endFailure? ending).elim .nothing .failed := by
  rw [next, h]
  rfl

lemma next_of_judge_ok {c : Bytes} {more : List Bytes} {v : ρ}
    (h : lines limit ending log = c :: more) (hj : judge limit c = .ok v) :
    next limit ending log = .record c v := by
  rw [next, h]
  simp only [List.head?_cons, hj]

lemma next_of_judge_error {c : Bytes} {more : List Bytes} {e : Failure}
    (h : lines limit ending log = c :: more) (hj : judge (ρ := ρ) limit c = .error e) :
    next (ρ := ρ) limit ending log = .failed e := by
  rw [next, h]
  simp only [List.head?_cons, hj]

end EventLog.Log
