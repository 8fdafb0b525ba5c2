import EventLog.Proofs.Report

/-!
# Reports that are read again

What the program writes on its standard output is a log again. The documents of the records are read
as these records, so that reporting them once more changes nothing. The lines as they stand in the
log are read as the same records too: at most they lose one more carriage return, which is a blank
behind a record and cannot make a line empty.

* `Held.chomp`: what is left of a line when it is read again.
* `read_logOf`: reading lines that records have been read from.
* `report_fed_back`: reports of reports.
-/

namespace EventLog

open Ascii CommandLine Json Utf8

section Lines

variable {ρ : Type} [LogRecord ρ]

/-! ### Lines that are read again -/

/-- A line that a record has been read from still holds the record when a carriage return is taken
from its end. -/
lemma Held.chomp [LawfulRecord ρ] {limit : ℕ} {line : Bytes} {r : ρ} (h : Held limit line r) :
    Held limit (Log.chomp line) r := by
  have hlength := (Log.length_chomp line).1
  have hfree : lineFeed ∉ Log.chomp line := fun hmem =>
    h.free ((Log.isPrefix_chomp line).subset hmem)
  have hdecoded : LogRecord.decode (Log.chomp line) = .ok r := by
    unfold Log.chomp
    split_ifs with hlast
    · -- the byte that is lost is a blank behind the record
      refine LawfulRecord.decode_return ?_
      rw [List.dropLast_append_getLast? _ hlast]
      exact h.decoded
    · exact h.decoded
  -- a line of one carriage return would have been no record to begin with
  have hcontent : Log.chomp line ≠ [] := by
    intro hnil
    rw [hnil] at hdecoded
    exact decode_nil hdecoded
  exact ⟨hcontent, hlength.trans h.within, hfree, hdecoded⟩

/-- **Reading lines again.** A log of lines that records have been read from holds these records and
nothing else. -/
lemma read_logOf [LawfulRecord ρ] {limit : ℕ} {lines : List Bytes} {records : List ρ}
    (h : List.Forall₂ (Held limit) lines records) :
    (Log.read limit .endOfData (logOf lines)).records.map Prod.snd = records ∧
      (Log.read (ρ := ρ) limit .endOfData (logOf lines)).failure = none := by
  induction h with
  | nil => exact ⟨rfl, rfl⟩
  | @cons line r lines records hline _ ih =>
    have hread : Log.judge limit (Log.chomp line) = .ok r :=
      Log.judge_eq_ok.2 ⟨hline.chomp.within, hline.chomp.decoded⟩
    rw [Log.read, logOf_cons, Log.lines_terminated hline.free, if_neg hline.chomp.content,
      Log.readLines, hread]
    exact ⟨congrArg (r :: ·) ih.1, ih.2⟩

/-! ### Views of a log -/

lemma isDocument_unique : Relator.RightUnique (IsDocument (ρ := ρ)) := by
  rintro r _ _ ⟨document, hd, rfl⟩ ⟨document', hd', rfl⟩
  rw [hd] at hd'
  rw [Except.ok.inj hd']

/-- The documents of records are lines that these records are read from, if they are not too
long. -/
lemma held_of_documents [LawfulRecord ρ] {limit : ℕ} {records : List ρ} {texts : List Bytes}
    (h : List.Forall₂ IsDocument records texts)
    (hlength : ∀ line ∈ (logOf texts).splitOn lineFeed, line.length ≤ limit) :
    List.Forall₂ (Held limit) texts records := by
  induction h with
  | nil => exact .nil
  | @cons r text records texts hdocument _ ih =>
    obtain ⟨document, hd, rfl⟩ := hdocument
    have hstands := LawfulRecord.stands hd
    rw [logOf_cons, List.splitOn_append_cons_self_of_not_mem hstands.lineFeed_not_mem] at hlength
    obtain ⟨hwithin, hrest⟩ := List.forall_mem_cons.1 hlength
    exact .cons ⟨hstands.ne_nil, hwithin, hstands.lineFeed_not_mem, hstands.decodes⟩ (ih hrest)

/-- The report shows what a log holds. -/
structure Reporting (ρ : Type) [LogRecord ρ] (format : Format) (limit : ℕ) (log : Bytes)
    (ending : SourceEnd) (r : Report) : Prop where
  /-- The records of the log have been read from their lines. -/
  held : ∀ p ∈ (Log.read (ρ := ρ) limit ending log).records, Held limit p.1 p.2
  /-- These are the records that the report shows. -/
  view : ViewOf (Log.read (ρ := ρ) limit ending log).records
    (Log.read (ρ := ρ) limit ending log).failure format r

/-- A view of what the stream goes through shows what the log holds. -/
lemma reporting_of_view {limits : Limits} {source : Script} {format : Format} {log : Bytes}
    {ending : SourceEnd} {r : Report} (hl : limits.maxLine ≤ 0xFFFFFFFFFFFFFFFD)
    (hsource : source.Delivers log ending)
    (h : ViewOf (Session.new limits none source : Session ρ).drain.1
      (Session.new limits none source : Session ρ).drain.2.stream.err format r) :
    Reporting ρ format limits.maxLine log ending r := by
  have hheld := (Session.new limits none source : Session ρ).drain_held
  obtain ⟨hrecords, hfailure⟩ := Session.drain_new_log (ρ := ρ) limits hl hsource
  rw [hrecords] at hheld h
  rw [hfailure] at h
  exact ⟨hheld, h⟩

section Again

variable [LawfulRecord ρ] {limit limit' : ℕ} {log : Bytes} {ending : SourceEnd} {r r' raw : Report}

/-- A log of lines that records have been read from is reported without a failure, as the documents
of these records. -/
lemma report_of_logOf {lines texts : List Bytes} {records : List ρ}
    (hlines : List.Forall₂ (Held limit) lines records)
    (htexts : List.Forall₂ IsDocument records texts)
    (h : Reporting ρ .json limit (logOf lines) .endOfData r) :
    r.ending.code = 0 ∧ r.out = logOf texts := by
  obtain ⟨hrecords, hfailure⟩ := read_logOf hlines
  obtain ⟨texts', htexts', hout⟩ := h.view.documents
  rw [hrecords] at htexts'
  have hcode := h.view.code
  rw [if_pos hfailure] at hcode
  exact ⟨hcode, hout.trans (congrArg logOf (isDocument_unique.forall₂ htexts' htexts))⟩

/-- **Documents again.** Reporting what has been reported changes nothing. -/
lemma documents_again (h : Reporting ρ .json limit log ending r)
    (hlength : ∀ line ∈ r.out.splitOn lineFeed, line.length ≤ limit')
    (h' : Reporting ρ .json limit' r.out .endOfData r') :
    r'.ending.code = 0 ∧ r'.out = r.out := by
  obtain ⟨texts, htexts, hout⟩ := h.view.documents
  rw [hout] at hlength h' ⊢
  exact report_of_logOf (held_of_documents htexts hlength) htexts h'

/-- **Lines again.** Reporting the lines of the records comes to the same as reporting the log. -/
lemma lines_again (h : Reporting ρ .json limit log ending r)
    (hraw : Reporting ρ .raw limit log ending raw)
    (h' : Reporting ρ .json limit raw.out .endOfData r') :
    r'.ending.code = 0 ∧ r'.out = r.out := by
  obtain ⟨texts, htexts, hout⟩ := h.view.documents
  have hlines : List.Forall₂ (Held limit)
      ((Log.read (ρ := ρ) limit ending log).records.map Prod.fst)
      ((Log.read (ρ := ρ) limit ending log).records.map Prod.snd) := by
    rw [List.forall₂_map_left_iff, List.forall₂_map_right_iff, List.forall₂_same]
    exact hraw.held
  rw [hraw.view.lines] at h'
  rw [hout]
  exact report_of_logOf hlines htexts h'

end Again

end Lines

/-! ### Reports of reports -/

/-- Asked for a log of this kind in this format, with this limit for its lines, the program comes
back with this report. The source hands out the log in any pieces. -/
def Reports (kind : LogKind) (format : Format) (limit : ℕ) (log : Bytes) (ending : SourceEnd)
    (r : Report) : Prop :=
  ∃ s arguments limits source, Asks s arguments kind format limits source ∧
    limits.maxLine = limit ∧ source.Delivers log ending ∧ report s arguments = r

section Reports

variable {kind : LogKind} {format : Format} {limit : ℕ} {log : Bytes} {ending : SourceEnd}
  {r : Report}

lemma reporting_errors (hl : limit ≤ 0xFFFFFFFFFFFFFFFD)
    (h : Reports .errors format limit log ending r) :
    Reporting ErrorEvent format limit log ending r := by
  obtain ⟨s, arguments, limits, source, hasks, rfl, hsource, rfl⟩ := h
  exact reporting_of_view hl hsource (view_of_errors hasks)

lemma reporting_audit (hl : limit ≤ 0xFFFFFFFFFFFFFFFD)
    (h : Reports .audit format limit log ending r) :
    Reporting AuditEvent format limit log ending r := by
  obtain ⟨s, arguments, limits, source, hasks, rfl, hsource, rfl⟩ := h
  exact reporting_of_view hl hsource (view_of_audit hasks)

lemma exists_reports (kind : LogKind) (format : Format) (hl : limit ≤ 0xFFFFFFFFFFFFFFFD)
    {source : Script} (h : source.Delivers log ending) :
    ∃ r, Reports kind format limit log ending r := by
  have hlimit : limit < 0x10000000000000000 := by omega
  obtain ⟨s, arguments, limits, hmax, hasks⟩ := exists_asks kind format hlimit source
  exact ⟨_, s, arguments, limits, source, hasks, hmax, h, rfl⟩

/-- The program can be asked for the documents of a log that is read to its end, and however it is
asked with this limit, it ends without a failure and writes these bytes. -/
def ReportedAs (kind : LogKind) (limit : ℕ) (log out : Bytes) : Prop :=
  (∃ r, Reports kind .json limit log .endOfData r) ∧
    ∀ r, Reports kind .json limit log .endOfData r → r.ending.code = 0 ∧ r.out = out

lemma reportedAs_of_reports {out : Bytes} (hl : limit ≤ 0xFFFFFFFFFFFFFFFD)
    (h : ∀ r, Reports kind .json limit log .endOfData r → r.ending.code = 0 ∧ r.out = out) :
    ReportedAs kind limit log out := by
  have hsource : Script.Delivers [.data log] (log ++ []) .endOfData := .data log .nil
  rw [List.append_nil] at hsource
  exact ⟨exists_reports kind .json hl hsource, h⟩

/-- **What the program writes can be read again.** Let a log of any content be reported as
documents. Reporting these documents again, with any limit that their lines keep, ends without a
failure and writes the same bytes. So does reporting the lines of the log as they are written for
it, with the limit of the log. -/
theorem report_fed_back (h : Reports kind .json limit log ending r)
    (hl : limit ≤ 0xFFFFFFFFFFFFFFFD) :
    (∀ limit' ≤ 0xFFFFFFFFFFFFFFFD, (∀ line ∈ r.out.splitOn lineFeed, line.length ≤ limit') →
        ReportedAs kind limit' r.out r.out) ∧
      ∀ raw, Reports kind .raw limit log ending raw → ReportedAs kind limit raw.out r.out := by
  cases kind with
  | errors =>
    have hr := reporting_errors hl h
    refine ⟨fun limit' hl' hlength => reportedAs_of_reports hl' fun r' h' => ?_,
      fun raw hraw => reportedAs_of_reports hl fun r' h' => ?_⟩
    · exact documents_again hr hlength (reporting_errors hl' h')
    · exact lines_again hr (reporting_errors hl hraw) (reporting_errors hl h')
  | audit =>
    have hr := reporting_audit hl h
    refine ⟨fun limit' hl' hlength => reportedAs_of_reports hl' fun r' h' => ?_,
      fun raw hraw => reportedAs_of_reports hl fun r' h' => ?_⟩
    · exact documents_again hr hlength (reporting_audit hl' h')
    · exact lines_again hr (reporting_audit hl hraw) (reporting_audit hl h')

/-- A log with a record whose line ends with two carriage returns and a line feed, and a line that
is no record. -/
theorem report_fed_back_returns :
    let log := utf8 "[\"a\"]\r\r\nx"
    let s : Surroundings := ⟨fun _ => .absent "", [.data log], none, none⟩
    let r := report s ["errors", "--json"]
    let raw := report s ["errors", "--raw"]
    Reports .errors .json 65536 log .endOfData r ∧ r.ending.code = 1 ∧
      r.out = utf8 "\x7b\"message\":\"a\"\x7d\n" ∧ ReportedAs .errors 15 r.out r.out ∧
      Reports .errors .raw 65536 log .endOfData raw ∧ raw.out = utf8 "[\"a\"]\r\n" ∧
      ReportedAs .errors 65536 raw.out r.out := by
  intro log s r raw
  have hsource : Script.Delivers [.data log] log .endOfData := .data log .nil
  have hr : Reports .errors .json 65536 log .endOfData r :=
    ⟨s, ["errors", "--json"], .standard, [.data log],
      ⟨⟨.errors, none, .json, .empty, 0⟩, .standard, by decide +kernel, rfl, rfl, rfl, rfl, rfl⟩,
      rfl, hsource, rfl⟩
  have hraw : Reports .errors .raw 65536 log .endOfData raw :=
    ⟨s, ["errors", "--raw"], .standard, [.data log],
      ⟨⟨.errors, none, .raw, .empty, 0⟩, .standard, by decide +kernel, rfl, rfl, rfl, rfl, rfl⟩,
      rfl, hsource, rfl⟩
  have hout : r.out = utf8 "\x7b\"message\":\"a\"\x7d\n" := by decide +kernel
  have hlength : ∀ line ∈ r.out.splitOn lineFeed, line.length ≤ 15 := by
    rw [hout]
    decide +kernel
  obtain ⟨hdocuments, hlines⟩ := report_fed_back hr (by decide)
  exact ⟨hr, by decide +kernel, hout, hdocuments 15 (by decide) hlength, hraw, by decide +kernel,
    hlines raw hraw⟩

end Reports

end EventLog
