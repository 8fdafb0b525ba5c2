import EventLog.Proofs.Stream.Reading

/-!
# Line ends and empty lines

The same contents can be written as a log in many ways: each line ends with a line feed or with a
carriage return and a line feed, the last one perhaps with neither, and there may be empty lines
anywhere (`Log.Spells`). A stream cannot tell these logs from each other.

* `Log.Spells.lines_eq`: what a log says does not depend on how it is written.
* `Session.line_ends_invisible`: two streams over two ways of writing a log.
-/

namespace EventLog

open Ascii

/-! ### Ways of writing a log -/

namespace Log

/-- How a line is ended. -/
inductive LineEnd
  /-- By a line feed alone. -/
  | bare
  /-- By a carriage return and a line feed. -/
  | withReturn
  deriving DecidableEq, Repr

/-- The bytes that end a line. -/
def LineEnd.bytes : LineEnd → Bytes
  | .bare => [lineFeed]
  | .withReturn => [carriageReturn, lineFeed]

/-- A content that cannot be mistaken for a part of a line end. -/
structure Plain (content : Bytes) : Prop where
  free : lineFeed ∉ content
  last : content.getLast? ≠ some carriageReturn

/-- The log is a way of writing these contents, one in each line. There may be empty lines before
any of them and after the last one, unless that has no line end. -/
inductive Spells : List Bytes → Bytes → Prop
  | nil : Spells [] []
  | blank {contents : List Bytes} {log : Bytes} (e : LineEnd) :
      Spells contents log → Spells contents (e.bytes ++ log)
  | line {content : Bytes} {contents : List Bytes} {log : Bytes} (e : LineEnd) :
      Plain content → Spells contents log → Spells (content :: contents) (content ++ e.bytes ++ log)
  | last {content : Bytes} : Plain content → Spells [content] content

variable {limit : ℕ} {ending : SourceEnd}

lemma plain_nil : Plain [] := ⟨List.not_mem_nil, by simp⟩

lemma lines_plain {content : Bytes} (h : Plain content) (e : LineEnd) (rest : Bytes) :
    lines limit ending (content ++ e.bytes ++ rest) =
      if content = [] then lines limit ending rest else content :: lines limit ending rest := by
  cases e with
  | bare =>
    have hchomp : chomp content = content := if_neg h.last
    rw [LineEnd.bytes, List.append_assoc, List.singleton_append, lines_terminated h.free, hchomp]
  | withReturn =>
    have hfree : lineFeed ∉ content ++ [carriageReturn] := by
      simpa using ⟨h.free, by decide⟩
    have hchomp : chomp (content ++ [carriageReturn]) = content := by simp [chomp]
    have hsplit : content ++ LineEnd.withReturn.bytes ++ rest =
        content ++ [carriageReturn] ++ lineFeed :: rest := by
      simp [LineEnd.bytes]
    rw [hsplit, lines_terminated hfree, hchomp]

/-- **What a log says does not depend on how it is written.** -/
theorem Spells.lines_eq {contents : List Bytes} {log : Bytes} (h : Spells contents log) :
    lines limit .endOfData log = contents.filter (· ≠ []) := by
  induction h with
  | nil => rfl
  | blank e _ ih => exact (lines_plain plain_nil e _).trans ih
  | @line content contents log e hplain _ ih =>
    rw [lines_plain hplain, ih]
    by_cases h0 : content = []
    · simp [h0]
    · simp [h0]
  | @last content hplain =>
    rw [lines_tail hplain.free]
    by_cases h0 : content = []
    · simp [h0]
    · simp [h0]

end Log

namespace Session

open Log

variable {ρ : Type} [LogRecord ρ]

/-! ### Sessions with the same reading before them -/

/-- Two sessions show the same and have the same reading before them, or both have ended. -/
structure Parallel (s t : Session ρ) : Prop where
  record : s.stream.record = t.stream.record
  err : s.stream.err = t.stream.err
  ahead : (∃ r, s.Faces r ∧ t.Faces r) ∨ (¬ s.stream.isOpen ∧ ¬ t.stream.isOpen)

/-- Two searches cannot tell such sessions from each other. -/
lemma Parallel.advance {s t : Session ρ} (h : s.Parallel t) :
    s.advance.1 = t.advance.1 ∧
      (s.advance.1 = true → s.advance.2.stream.bytes = t.advance.2.stream.bytes) ∧
      s.advance.2.Parallel t.advance.2 := by
  rcases h.ahead with ⟨r, hs, ht⟩ | ⟨hs, ht⟩
  · rcases hs.advance with ⟨line, value, more, hr, hfinds⟩ | ⟨hr, hstops⟩
    · rcases ht.advance with ⟨line', value', more', hr', hfinds'⟩ | ⟨hr', -⟩
      · rw [hr] at hr'
        cases hr'
        refine ⟨hfinds.found.trans hfinds'.found.symm,
          fun _ => hfinds.bytes.trans hfinds'.bytes.symm, ?_⟩
        exact ⟨hfinds.record.trans hfinds'.record.symm, hfinds.err.trans hfinds'.err.symm,
          Or.inl ⟨_, hfinds.faces, hfinds'.faces⟩⟩
      · exact absurd (hr.symm.trans hr') (by simp)
    · rcases ht.advance with ⟨line, value, more, hr', -⟩ | ⟨-, hstops'⟩
      · exact absurd (hr.symm.trans hr') (by simp)
      · refine ⟨hstops.nothing.trans hstops'.nothing.symm, fun htrue => ?_, ?_⟩
        · rw [hstops.nothing] at htrue
          cases htrue
        · refine ⟨?_, hstops.err.trans hstops'.err.symm, Or.inr ⟨hstops.ended, hstops'.ended⟩⟩
          rw [hstops.record, hstops'.record, h.record]
  · rw [advance_of_not_open hs, advance_of_not_open ht]
    exact ⟨rfl, nofun, h⟩

lemma Parallel.run {s t : Session ρ} (h : s.Parallel t) (n : ℕ) :
    (s.run (List.replicate n .advance)).Parallel (t.run (List.replicate n .advance)) := by
  induction n with
  | zero => exact h
  | succ n ih =>
    rw [List.replicate_succ', run_concat, run_concat]
    exact ih.advance.2.2

/-- **Line ends and empty lines cannot be seen.** Let two logs be ways of writing the same contents,
and let two sources hand them out in any pieces, to streams with the same limit for a line. However
often both streams are advanced, the next search of the one finds a record exactly if that of the
other does, and then in the same line; both show the same record afterwards and the same failure,
or both have none. -/
theorem line_ends_invisible {contents : List Bytes} {log log' : Bytes} (h : Spells contents log)
    (h' : Spells contents log') (limits limits' : Limits)
    (hlimit : limits.maxLine = limits'.maxLine)
    (hl : limits.maxLine ≤ 0xFFFFFFFFFFFFFFFD) (closer closer' : Option Closer)
    {script script' : Script} (hs : script.Delivers log .endOfData)
    (hs' : script'.Delivers log' .endOfData) (n : ℕ) :
    let s := (Session.new limits closer script : Session ρ).run (List.replicate n .advance)
    let s' := (Session.new limits' closer' script' : Session ρ).run (List.replicate n .advance)
    s.advance.1 = s'.advance.1 ∧
      (s.advance.1 = true → s.advance.2.stream.bytes = s'.advance.2.stream.bytes) ∧
      s.advance.2.stream.record = s'.advance.2.stream.record ∧
      s.advance.2.stream.err = s'.advance.2.stream.err := by
  intro s s'
  have hread : Log.read (ρ := ρ) limits.maxLine .endOfData log =
      Log.read limits'.maxLine .endOfData log' := by
    rw [Log.read, Log.read, h.lines_eq, h'.lines_eq, hlimit]
  have hstart : (Session.new limits closer script : Session ρ).Parallel
      (Session.new limits' closer' script') := by
    refine ⟨rfl, rfl, Or.inl ⟨_, faces_new closer hl hs, ?_⟩⟩
    rw [hread]
    exact faces_new closer' (hlimit ▸ hl) hs'
  obtain ⟨hanswer, hbytes, hafter⟩ := (hstart.run n).advance
  exact ⟨hanswer, hbytes, hafter.record, hafter.err⟩

/-- Two ways of writing a line as long as the limit and one that is longer by a byte. The first log
has empty lines and no line end after its last line, and comes in two pieces that part a carriage
return from its line feed. -/
theorem line_ends_invisible_limit :
    let a := utf8 "\x7b\"message\":\"a\"\x7d"
    let b := utf8 "\x7b\"message\":\"ab\"\x7d"
    let log := LineEnd.withReturn.bytes ++ (a ++ LineEnd.withReturn.bytes ++
      (LineEnd.bare.bytes ++ b))
    let log' := a ++ LineEnd.bare.bytes ++ (b ++ LineEnd.withReturn.bytes ++ [])
    let script : Script := [.data (log.take 18), .fail ⟨.interrupted, "again"⟩,
      .data (log.drop 18)]
    let s : Session ErrorEvent := .new ⟨15, 3⟩ none script
    let s' : Session ErrorEvent := .new ⟨15, 4096⟩ none [.data log']
    Spells [a, b] log ∧ Spells [a, b] log' ∧ script.Delivers log .endOfData ∧
      a.length = 15 ∧ b.length = 16 ∧
      s.advance.1 = true ∧ s'.advance.1 = true ∧
      s.advance.2.stream.bytes = s'.advance.2.stream.bytes ∧
      (s.run [.advance]).advance.1 = (s'.run [.advance]).advance.1 ∧
      (s.run [.advance]).advance.2.stream.err = some (.lineTooLong 15) ∧
      (s'.run [.advance]).advance.2.stream.err = some (.lineTooLong 15) := by
  intro a b log log' script s s'
  have ha : Plain a := ⟨by decide +kernel, by decide +kernel⟩
  have hb : Plain b := ⟨by decide +kernel, by decide +kernel⟩
  have hspells : Spells [a, b] log :=
    .blank .withReturn (.line .withReturn ha (.blank .bare (.last hb)))
  have hspells' : Spells [a, b] log' := .line .bare ha (.line .withReturn hb .nil)
  have hs : script.Delivers log .endOfData :=
    .data (log.take 18) (.interrupted rfl (.data (log.drop 18) .nil))
  have hs' : Script.Delivers [.data log'] log' .endOfData := .data log' .nil
  obtain ⟨hfirst, hbytes, -⟩ := line_ends_invisible (ρ := ErrorEvent) hspells hspells'
    ⟨15, 3⟩ ⟨15, 4096⟩ rfl (by decide) none none hs hs' 0
  obtain ⟨hsecond, -, -, herr⟩ := line_ends_invisible (ρ := ErrorEvent) hspells hspells'
    ⟨15, 3⟩ ⟨15, 4096⟩ rfl (by decide) none none hs hs' 1
  have htrue : s.advance.1 = true := by decide +kernel
  have hlong : (s.run [.advance]).advance.2.stream.err = some (.lineTooLong 15) := by
    decide +kernel
  exact ⟨hspells, hspells', hs, by decide +kernel, by decide +kernel, htrue,
    hfirst.symm.trans htrue, hbytes htrue, hsecond, hlong, herr.symm.trans hlong⟩

end Session

end EventLog
