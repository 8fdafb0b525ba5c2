import EventLog.Proofs.Record.Display
import EventLog.Proofs.Report

/-!
# Lines of a text report

As text, a report has a line of output for each record. A string in a log may hold a line feed, by
an escape in its line, and a line of output shows it as it is: this breaks the line in two. So a
report has as many lines as records exactly if no line of output shows a line feed.

* `count_logOf`: the line feeds of a log.
* `text_lines`: this, for both kinds of logs, and however they are asked for.
-/

namespace EventLog

open Ascii CommandLine Utf8

/-- A log has a line feed behind each of its documents, apart from those inside. -/
lemma count_logOf (ds : List Bytes) :
    (logOf ds).count lineFeed = ds.length + (ds.map (List.count lineFeed)).sum := by
  induction ds with
  | nil => rfl
  | cons d ds ih =>
    rw [logOf_cons, List.count_append, List.count_cons_self, ih, List.length_cons, List.map_cons,
      List.sum_cons]
    omega

/-- What is shown of the texts of a record decides how many lines a text report has. -/
structure TextLines (ρ : Type) [LogRecord ρ] (kind : LogKind) (wide : Bool)
    (shown : ρ → List Char) : Prop where
  /-- The line of output for a record is a single line if no text that it shows has a line feed, and
  otherwise it is not. -/
  single : ∀ r, '\n' ∉ (LogRecord.line wide r).toList ↔ '\n' ∉ shown r
  /-- A report has a line for each record that the stream goes through, and one more for each line
  feed that is shown. -/
  lines : ∀ {s : Surroundings} {arguments : List String} {limits : Limits} {source : Script},
    Asks s arguments kind (.text wide) limits source →
      let records := (Session.new limits none source : Session ρ).drain.1
      (report s arguments).out.count lineFeed =
        records.length + (records.map fun p => (shown p.2).count '\n').sum
  /-- These are as many lines as records if no line feed is shown, and otherwise they are not. -/
  linePerRecord : ∀ {s : Surroundings} {arguments : List String} {limits : Limits}
    {source : Script}, Asks s arguments kind (.text wide) limits source →
      let records := (Session.new limits none source : Session ρ).drain.1
      (report s arguments).out.count lineFeed = records.length ↔ ∀ p ∈ records, '\n' ∉ shown p.2

section Count

variable {ρ : Type} [LogRecord ρ] {wide : Bool} {shown : ρ → List Char}

/-- The lines of a view, if the line feeds in a line of output are those of the texts it shows. -/
lemma ViewOf.count_lines {records : List (Bytes × ρ)} {failure : Option Failure} {r : Report}
    (hline : ∀ r, (LogRecord.line wide r).toList.count '\n' = (shown r).count '\n')
    (h : ViewOf records failure (.text wide) r) :
    r.out.count lineFeed = records.length + (records.map fun p => (shown p.2).count '\n').sum ∧
      (r.out.count lineFeed = records.length ↔ ∀ p ∈ records, '\n' ∉ shown p.2) := by
  have hbytes : ∀ p : Bytes × ρ,
      (utf8 (LogRecord.line wide p.2)).count lineFeed = (shown p.2).count '\n' := fun p =>
    (count_encode (by decide) _).trans (hline p.2)
  have hcount : r.out.count lineFeed =
      records.length + (records.map fun p => (shown p.2).count '\n').sum := by
    rw [h.texts, count_logOf, List.length_map, List.map_map]
    simp only [Function.comp_def, hbytes]
  refine ⟨hcount, ?_⟩
  rw [hcount, Nat.add_eq_left, List.sum_eq_zero_iff, List.forall_mem_map]
  exact forall₂_congr fun _ _ => List.count_eq_zero

lemma TextLines.of_count {kind : LogKind}
    (hline : ∀ r, (LogRecord.line wide r).toList.count '\n' = (shown r).count '\n')
    (hview : ∀ {s : Surroundings} {arguments : List String} {limits : Limits} {source : Script},
      Asks s arguments kind (.text wide) limits source →
        ViewOf (Session.new limits none source : Session ρ).drain.1
          (Session.new limits none source : Session ρ).drain.2.stream.err (.text wide)
          (report s arguments)) :
    TextLines ρ kind wide shown where
  single r := by
    rw [← List.count_eq_zero, hline, List.count_eq_zero]
  lines hasks := ((hview hasks).count_lines hline).1
  linePerRecord hasks := ((hview hasks).count_lines hline).2

end Count

/-- **Lines and records.** For both kinds of logs, wide or not: the line of output for a record is a
single line, and a text report has as many lines as records, exactly if there is no line feed in the
message, or in the path and what is left of the identity. -/
theorem text_lines (wide : Bool) :
    TextLines ErrorEvent .errors wide (ErrorEvent.shown wide) ∧
      TextLines AuditEvent .audit wide (AuditEvent.shown wide) :=
  ⟨.of_count (ErrorEvent.count_line wide) view_of_errors,
    .of_count (AuditEvent.count_line wide) view_of_audit⟩

/-- An identity with a line feed behind the part that a line shows if it is not wide. -/
theorem text_lines_wide :
    let log := utf8 "\x7b\"request\":[\"/\",\"0123456789abc\\nd\\nef\"]\x7d"
    let s : Surroundings := ⟨fun _ => .absent "", [.data log], none, none⟩
    (report s ["audit"]).out.count lineFeed = 1 ∧
      (report s ["audit", "--wide"]).out.count lineFeed = 3 := by
  intro log s
  let e : AuditEvent := ⟨.epoch, ⟨"/", "0123456789abc\nd\nef"⟩, ⟨0, ⟨0⟩⟩⟩
  have hasks : ∀ wide arguments, CommandLine.parse arguments =
      .ok ⟨.audit, none, .text wide, .empty, 0⟩ →
        Asks s arguments .audit (.text wide) .standard [.data log] := fun _ _ hparse =>
    ⟨_, .standard, hparse, rfl, rfl, rfl, rfl, rfl⟩
  have hrecords : (Session.new .standard none [.data log] : Session AuditEvent).drain.1 =
      [(log, e)] := by
    decide +kernel
  have hnarrow := (text_lines false).2.lines (hasks false ["audit"] (by decide +kernel))
  have hwide := (text_lines true).2.lines (hasks true ["audit", "--wide"] (by decide +kernel))
  rw [hrecords] at hnarrow hwide
  exact ⟨hnarrow.trans (by decide +kernel), hwide.trans (by decide +kernel)⟩

/-- A log of one line and one record, whose report as text has two lines. -/
theorem text_lines_escaped :
    let line := utf8 "\x7b\"message\":\"disk\\nfull\"\x7d"
    let s : Surroundings := ⟨fun _ => .absent "", [.data (line ++ [lineFeed])], none, none⟩
    let e : ErrorEvent := ⟨"disk\nfull"⟩
    lineFeed ∉ line ∧ LogRecord.decode line = .ok e ∧ '\n' ∈ (LogRecord.line false e).toList ∧
      (Session.new .standard none s.input : Session ErrorEvent).drain.1 = [(line, e)] ∧
        (report s ["errors"]).out.count lineFeed = 2 := by
  decide +kernel

end EventLog
