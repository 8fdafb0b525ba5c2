import EventLog.Proofs.CommandLine
import EventLog.Proofs.Record.Spelling
import EventLog.Proofs.Record.Truncation
import EventLog.Proofs.Stream.Answer
import EventLog.Report

/-!
# Reports of one run

The formats of the program are views of one run: the stream goes through the records of the log,
each with its line, and a format says what is printed for each of them. Nothing else goes to the
standard output, and how the program ends does not depend on the format.

* `ViewOf`: what is printed for some records.
* `Session.drain_held`: the records that a stream goes through have been read from their lines.
* `view_of_logReport`: a report is the view of what the stream goes through.
* `report_views`: this, for both kinds of logs, and however they are asked for.
-/

namespace EventLog

open Ascii CommandLine Json Utf8

/-! ### Records of a log -/

/-- What holds of the records that a log can hold, whatever their kind. -/
class LawfulRecord (ρ : Type) [LogRecord ρ] : Prop where
  /-- A record that has been read can be written. -/
  exists_document : ∀ {line : Bytes} {r : ρ}, LogRecord.decode line = .ok r →
    ∃ document, LogRecord.document r = .ok document
  /-- What is written stands for the record. -/
  stands : ∀ {r : ρ} {document : List Char}, LogRecord.document r = .ok document →
    Stands r (encode document)
  /-- A carriage return at the end of a line makes no difference. -/
  decode_return : ∀ {line : Bytes} {r : ρ},
    LogRecord.decode (line ++ [carriageReturn]) = .ok r → LogRecord.decode line = .ok r

instance : LawfulRecord ErrorEvent where
  exists_document {_ e} _ := ⟨e.document, rfl⟩
  stands := ErrorEvent.stands
  decode_return h :=
    Shape.decode_of_append_blank ErrorEvent.has_slots ErrorEvent.accepts ErrorEvent.admits
      (by decide) h

instance : LawfulRecord AuditEvent where
  exists_document {_ e} h := by
    have hs := Shape.decode_preserves Response.storable_zero AuditEvent.keeps_storable h
    exact ⟨_, e.document_eq.trans (if_pos hs)⟩
  stands := AuditEvent.stands
  decode_return h :=
    Shape.decode_of_append_blank (AuditEvent.has_slots .any)
      (AuditEvent.accepts Style.any_accepted) AuditEvent.admits (by decide) h

section Records

variable {ρ : Type} [LogRecord ρ]

/-- A line that a record has been read from. -/
structure Held (limit : ℕ) (line : Bytes) (r : ρ) : Prop where
  content : line ≠ []
  within : line.length ≤ limit
  free : lineFeed ∉ line
  decoded : LogRecord.decode line = .ok r

/-- **The records of a session** have been read from their lines. -/
lemma Session.drain_held (s : Session ρ) : ∀ p ∈ s.drain.1, Held s.limit p.1 p.2 := by
  fun_induction drain s with
  | case1 s t ht records last hdrain ih =>
    have hopen : s.stream.isOpen := by
      by_contra hclosed
      rw [advance_of_not_open hclosed] at ht
      cases ht
    rw [advance_of_open hopen] at ht
    -- the records that follow keep the limit of this session
    have hlimit : t.limit = s.limit := by
      have hk := s.seek_kept
      rw [ht] at hk
      exact congrArg Limits.maxLine hk.limits
    have hanswer := s.seek_answered
    have hfree := s.seek_line.1
    rw [ht] at hanswer hfree
    rw [hdrain] at ih
    refine List.forall_mem_cons.2 ⟨?_, fun p hp => hlimit ▸ ih p hp⟩
    cases hanswer with
    | record content within decoded eventsRead state => exact ⟨content, within, hfree, decoded⟩
  | case2 s t ht => exact fun p hp => absurd hp List.not_mem_nil

/-- **A session from the beginning of a log** goes through the records that the log holds. -/
lemma Session.drain_new_log (limits : Limits) {source : Script} {log : Bytes} {ending : SourceEnd}
    (hl : limits.maxLine ≤ 0xFFFFFFFFFFFFFFFD) (h : source.Delivers log ending) :
    (Session.new limits none source : Session ρ).drain.1 =
        (Log.readLines limits.maxLine ending (Log.lines limits.maxLine ending log)).records ∧
      (Session.new limits none source : Session ρ).drain.2.stream.err =
        (Log.readLines (ρ := ρ) limits.maxLine ending
          (Log.lines limits.maxLine ending log)).failure := by
  rw [← Session.lines_new (ρ := ρ) limits none h]
  refine Session.drain_lines rfl ?_ h
  show limits.maxLine + 2 ≤ 0xFFFFFFFFFFFFFFFF
  omega

/-! ### What is printed -/

/-- What is printed for a record and its line in each format. -/
inductive Shows (line : Bytes) (r : ρ) : Format → Bytes → Prop
  /-- The line as it stands in the log. -/
  | raw : Shows line r .raw line
  /-- The line of output for the record. -/
  | text (wide : Bool) : Shows line r (.text wide) (utf8 (LogRecord.line wide r))
  /-- The document of the record. -/
  | json {document : List Char} (written : LogRecord.document r = .ok document) :
      Shows line r .json (encode document)

lemma shows_unique {format : Format} :
    Relator.RightUnique fun (p : Bytes × ρ) text => Shows p.1 p.2 format text := by
  rintro p _ _ h h'
  cases h with
  | raw =>
    cases h'
    rfl
  | text wide =>
    cases h'
    rfl
  | json written =>
    cases h' with
    | json written' => rw [Except.ok.inj (written.symm.trans written')]

/-- Nothing but notices. -/
def Told (outputs : List Output) : Prop := ∀ o ∈ outputs, ∃ n : Notice, o = .err (n.line ++ "\n")

/-- The tag of a failure, in bold red. -/
def failureTag : String := "\x1b[1m\x1b[31m[STREAM]\x1b[39m\x1b[0m"

/-- What stands on the standard error output for a failure with this message. -/
def failureText (message : String) : String := failureTag ++ " " ++ message ++ "\n"

/-- The report shows these records and their lines in a format, and it ends with this failure, or
with none. -/
structure ViewOf (records : List (Bytes × ρ)) (failure : Option Failure) (format : Format)
    (r : Report) : Prop where
  /-- There is a line on the standard output for each record, and notices stand before and after all
  of them. The message of the failure comes last, on the standard error output. -/
  printed : ∃ texts before after,
    List.Forall₂ (fun p text => Shows p.1 p.2 format text) records texts ∧
      r.out = logOf texts ∧ Told before ∧ Told after ∧
      r.outputs = before ++ texts.map (fun text => .out (text ++ [lineFeed])) ++ after ++
        (failure.map fun e => Output.err (failureText e.message)).toList
  /-- No other failure is printed. -/
  failures : ∀ message, .err (failureText message) ∈ r.outputs ↔
    failure.map Failure.message = some message
  /-- The exit code tells whether there is a failure. -/
  code : r.ending.code = if failure = none then 0 else 1

/-- A text is what a record is written as. -/
def IsDocument (r : ρ) (text : Bytes) : Prop :=
  ∃ document, LogRecord.document r = .ok document ∧ encode document = text

namespace ViewOf

variable {records : List (Bytes × ρ)} {failure : Option Failure} {format : Format} {r : Report}

lemma documents (h : ViewOf records failure .json r) :
    ∃ texts, List.Forall₂ IsDocument (records.map Prod.snd) texts ∧ r.out = logOf texts := by
  obtain ⟨texts, -, -, hshows, hout, -⟩ := h.printed
  refine ⟨texts, List.forall₂_map_left_iff.2 (hshows.imp ?_), hout⟩
  rintro p _ ⟨⟩
  exact ⟨_, ‹_›, rfl⟩

/-- What goes to the standard output depends on the records and the format alone. -/
lemma out_of_shows {texts : List Bytes} (h : ViewOf records failure format r)
    (hshows : List.Forall₂ (fun p text => Shows p.1 p.2 format text) records texts) :
    r.out = logOf texts := by
  obtain ⟨texts', -, -, hshows', hout, -⟩ := h.printed
  rw [hout, shows_unique.forall₂ hshows' hshows]

lemma lines (h : ViewOf records failure .raw r) : r.out = logOf (records.map Prod.fst) :=
  h.out_of_shows (List.forall₂_map_right_iff.2 (List.forall₂_same.2 fun _ _ => .raw))

lemma texts {wide : Bool} (h : ViewOf records failure (.text wide) r) :
    r.out = logOf (records.map fun p => utf8 (LogRecord.line wide p.2)) :=
  h.out_of_shows (List.forall₂_map_right_iff.2 (List.forall₂_same.2 fun _ _ => .text wide))

lemma last {e : Failure} (h : ViewOf records (some e) format r) :
    r.outputs.getLast? = some (.err (failureText e.message)) := by
  obtain ⟨texts, before, after, -, -, -, -, houtputs⟩ := h.printed
  rw [houtputs]
  exact List.getLast?_concat

end ViewOf

lemma told_append {a b : List Output} (ha : Told a) (hb : Told b) : Told (a ++ b) :=
  List.forall_mem_append.2 ⟨ha, hb⟩

lemma told_outputs (f : Filter) (n : Notice) : Told (n.outputs f) := by
  intro o ho
  unfold Notice.outputs at ho
  split_ifs at ho
  · exact ⟨n, List.mem_singleton.1 ho⟩
  · exact absurd ho List.not_mem_nil

lemma told_flatMap (f : Filter) (ns : List Notice) : Told (ns.flatMap (Notice.outputs f)) := by
  intro o ho
  obtain ⟨n, -, hn⟩ := List.mem_flatMap.1 ho
  exact told_outputs f n o hn

lemma Told.outBytes {outputs : List Output} (h : Told outputs) :
    outputs.flatMap Output.outBytes = [] := by
  rw [List.flatMap_eq_nil_iff]
  intro o ho
  obtain ⟨n, rfl⟩ := h o ho
  rfl

lemma Failure.output_eq (e : Failure) : e.output = .err (failureText e.message) := by
  have htag : tag .red "[STREAM]" = failureTag := by decide +kernel
  rw [output, Output.errLine, htag, failureText]

lemma failureText_inj {a b : String} : failureText a = failureText b ↔ a = b := by
  rw [failureText, failureText, String.append_left_inj, String.append_right_inj]

/-- The text of a failure starts with an escape sequence, a notice with the name of its level. -/
lemma failureText_ne_line (message : String) (n : Notice) :
    failureText message ≠ n.line ++ "\n" := by
  intro h
  have htag : failureTag.toList.head? = some '\x1b' := by decide +kernel
  have hhead := congrArg (fun text : String => text.toList.head?) h
  cases hl : n.level <;> simp [failureText, htag, Notice.line, hl, Level.name] at hhead

lemma exists_shows [LawfulRecord ρ] (f : Filter) (format : Format) {limit : ℕ} {line : Bytes}
    {r : ρ} (h : Held limit line r) :
    ∃ text, Shows line r format text ∧ recordOutputs f format line r = [.outLine text] := by
  cases format with
  | raw => exact ⟨line, .raw, rfl⟩
  | text wide => exact ⟨_, .text wide, rfl⟩
  | json =>
    obtain ⟨document, hd⟩ := LawfulRecord.exists_document h.decoded
    refine ⟨_, .json hd, ?_⟩
    simp only [recordOutputs, hd]

/-- **All records show themselves**, in their order, and nothing else is printed for them. -/
lemma exists_texts [LawfulRecord ρ] (f : Filter) (format : Format) {limit : ℕ}
    {records : List (Bytes × ρ)} (h : ∀ p ∈ records, Held limit p.1 p.2) :
    ∃ texts, List.Forall₂ (fun p text => Shows p.1 p.2 format text) records texts ∧
      (records.flatMap fun (line, r) => recordOutputs f format line r) =
        texts.map .outLine := by
  induction records with
  | nil => exact ⟨[], .nil, rfl⟩
  | cons p records ih =>
    obtain ⟨hp, hrecords⟩ := List.forall_mem_cons.1 h
    obtain ⟨text, hshows, hout⟩ := exists_shows f format hp
    obtain ⟨texts, hall, houts⟩ := ih hrecords
    refine ⟨text :: texts, .cons hshows hall, ?_⟩
    rw [List.flatMap_cons, houts]
    exact congrArg (· ++ texts.map Output.outLine) hout

lemma flatMap_outLine (texts : List Bytes) :
    (texts.map .outLine).flatMap Output.outBytes = logOf texts := by
  rw [List.flatMap_map]
  rfl

omit [LogRecord ρ] in
/-- What is left to say when there are no more records. -/
lemma endReport_eq (f : Filter) (s : Stream ρ) : ∃ after, Told after ∧
    (endReport f s).outputs =
        after ++ (s.err.map fun e => Output.err (failureText e.message)).toList ∧
      (endReport f s).ending.code = if s.err = none then 0 else 1 := by
  refine ⟨s.notices.flatMap (Notice.outputs f) ++ (Notice.finished s.eventsRead).outputs f,
    told_append (told_flatMap f _) (told_outputs f _), ?_⟩
  unfold endReport
  cases s.err with
  | none => exact ⟨(List.append_nil _).symm, rfl⟩
  | some e =>
    refine ⟨?_, rfl⟩
    rw [Option.map_some, Option.toList_some, ← e.output_eq]

/-- **The report of a log** shows what the stream goes through. -/
lemma view_of_logReport [LawfulRecord ρ] (f : Filter) (format : Format) (limits : Limits)
    (source : Script) {before : List Output} (hbefore : Told before) :
    ViewOf (Session.new limits none source : Session ρ).drain.1
      (Session.new limits none source : Session ρ).drain.2.stream.err format
      ((logReport ρ f format limits source).after before) := by
  obtain ⟨texts, hshows, htexts⟩ := exists_texts f format
    (Session.new limits none source : Session ρ).drain_held
  obtain ⟨after, hafter, hend, hcode⟩ :=
    endReport_eq f (Session.new limits none source : Session ρ).drain.2.stream
  generalize hfailure : (Session.new limits none source : Session ρ).drain.2.stream.err = failure
    at hend hcode
  have houtputs : ((logReport ρ f format limits source).after before).outputs =
      before ++ texts.map .outLine ++ after ++
        (failure.map fun e => Output.err (failureText e.message)).toList := by
    simp only [Report.after, logReport, htexts, hend, List.append_assoc]
  have hout : (failure.map fun e => Output.err (failureText e.message)).toList.flatMap
      Output.outBytes = [] := by
    cases failure <;> rfl
  refine ⟨⟨texts, before, after, hshows, ?_, hbefore, hafter, houtputs⟩, fun message => ?_, hcode⟩
  · rw [Report.out, houtputs]
    simp only [List.flatMap_append, hbefore.outBytes, hafter.outBytes, hout, flatMap_outLine,
      List.nil_append, List.append_nil]
  · -- neither a notice nor a line of output is the text of a failure
    have htold : ∀ {outputs : List Output}, Told outputs →
        .err (failureText message) ∉ outputs := by
      intro outputs ht hmem
      obtain ⟨n, hn⟩ := ht _ hmem
      exact failureText_ne_line message n (Output.err.inj hn)
    have hlines : .err (failureText message) ∉ texts.map Output.outLine := by
      intro hmem
      obtain ⟨text, -, htext⟩ := List.mem_map.1 hmem
      cases htext
    rw [houtputs, List.mem_append, List.mem_append, List.mem_append,
      or_iff_right (not_or.2 ⟨not_or.2 ⟨htold hbefore, hlines⟩, htold hafter⟩)]
    cases failure with
    | none => simp
    | some e => simp [failureText_inj, eq_comm]

end Records

/-! ### Asking for a report -/

/-- The command line asks for a log of this kind in this format; the settings are in order, these
limits hold, and this is the source. -/
def Asks (s : Surroundings) (arguments : List String) (kind : LogKind) (format : Format)
    (limits : Limits) (source : Script) : Prop :=
  ∃ (j : Job) (settings : Limits), CommandLine.parse arguments = .ok j ∧ j.kind = kind ∧
    j.format = format ∧ (j.loading s.disk s.settingsDirectory).result = .ok settings ∧
    j.limits settings = limits ∧ j.source s.disk s.input = .ok source

/-- **Every log can be asked for** on the standard input, in every format and with every limit. -/
lemma exists_asks (kind : LogKind) (format : Format) {limit : ℕ} (h : limit < 0x10000000000000000)
    (source : Script) : ∃ s arguments limits,
      limits.maxLine = limit ∧ Asks s arguments kind format limits source :=
  ⟨⟨fun _ => .absent "", source, none, none⟩, request kind format limit,
    { Limits.standard with maxLine := limit }, rfl,
    _, .standard, parse_request kind format h, rfl, rfl, rfl, rfl, rfl⟩

/-- The answer is the report of the log, after a notice about the settings. -/
lemma report_of_asks {s : Surroundings} {arguments : List String} {kind : LogKind}
    {format : Format} {limits : Limits} {source : Script}
    (h : Asks s arguments kind format limits source) :
    ∃ (f : Filter) (before : List Output), Told before ∧
      report s arguments = (match kind with
        | .errors => logReport ErrorEvent f format limits source
        | .audit => logReport AuditEvent f format limits source).after before := by
  obtain ⟨j, settings, hparse, rfl, rfl, hsettings, rfl, hsource⟩ := h
  refine ⟨j.filter s.filter, _, told_outputs (j.filter s.filter)
    (j.loading s.disk s.settingsDirectory).notice, ?_⟩
  simp only [report, hparse, Job.report, hsettings, hsource]
  rfl

lemma view_of_errors {s : Surroundings} {arguments : List String} {format : Format}
    {limits : Limits} {source : Script} (h : Asks s arguments .errors format limits source) :
    ViewOf (Session.new limits none source : Session ErrorEvent).drain.1
      (Session.new limits none source : Session ErrorEvent).drain.2.stream.err format
      (report s arguments) := by
  obtain ⟨f, before, hbefore, hreport⟩ := report_of_asks h
  rw [hreport]
  exact view_of_logReport f format limits source hbefore

lemma view_of_audit {s : Surroundings} {arguments : List String} {format : Format}
    {limits : Limits} {source : Script} (h : Asks s arguments .audit format limits source) :
    ViewOf (Session.new limits none source : Session AuditEvent).drain.1
      (Session.new limits none source : Session AuditEvent).drain.2.stream.err format
      (report s arguments) := by
  obtain ⟨f, before, hbefore, hreport⟩ := report_of_asks h
  rw [hreport]
  exact view_of_logReport f format limits source hbefore

/-- The reports of a log of this kind are views of one run. -/
structure OneRun (ρ : Type) [LogRecord ρ] (kind : LogKind) : Prop where
  /-- In every format the report shows the records that the stream goes through, each with its line,
  and the failure that ends the stream, if one does. -/
  views : ∀ {s : Surroundings} {arguments : List String} {format : Format} {limits : Limits}
    {source : Script}, Asks s arguments kind format limits source →
      ViewOf (Session.new limits none source : Session ρ).drain.1
        (Session.new limits none source : Session ρ).drain.2.stream.err format
        (report s arguments)
  /-- These do not depend on how a source hands out the log, nor on how much is read at once. -/
  alike : ∀ {limits limits' : Limits} {source source' : Script} {log : Bytes} {ending : SourceEnd},
    limits.maxLine = limits'.maxLine → limits.maxLine ≤ 0xFFFFFFFFFFFFFFFD →
      source.Delivers log ending → source'.Delivers log ending →
        (Session.new limits none source : Session ρ).drain.1 =
            (Session.new limits' none source' : Session ρ).drain.1 ∧
          (Session.new limits none source : Session ρ).drain.2.stream.err =
            (Session.new limits' none source' : Session ρ).drain.2.stream.err

lemma drained_alike {ρ : Type} [LogRecord ρ] {limits limits' : Limits} {source source' : Script}
    {log : Bytes} {ending : SourceEnd} (heq : limits.maxLine = limits'.maxLine)
    (hl : limits.maxLine ≤ 0xFFFFFFFFFFFFFFFD) (h : source.Delivers log ending)
    (h' : source'.Delivers log ending) :
    (Session.new limits none source : Session ρ).drain.1 =
        (Session.new limits' none source' : Session ρ).drain.1 ∧
      (Session.new limits none source : Session ρ).drain.2.stream.err =
        (Session.new limits' none source' : Session ρ).drain.2.stream.err := by
  obtain ⟨hr, hf⟩ := Session.drain_new_log (ρ := ρ) limits hl h
  obtain ⟨hr', hf'⟩ := Session.drain_new_log (ρ := ρ) limits' (heq ▸ hl) h'
  rw [← heq] at hr' hf'
  exact ⟨hr.trans hr'.symm, hf.trans hf'.symm⟩

/-- **The formats are views of one run.** For both kinds of logs, all limits and all sources there
is one list of records, each with its line, and one failure or none, and in every format the report
shows these: the lines as they are, the documents of all records, or their lines of output. In every
format the exit code is 0 if there is no failure and 1 if there is one, which is printed last. -/
theorem report_views : OneRun ErrorEvent .errors ∧ OneRun AuditEvent .audit :=
  ⟨⟨view_of_errors, drained_alike⟩, ⟨view_of_audit, drained_alike⟩⟩

/-- An audit log with a record, whose elapsed time is told by a string, and half of another one, as
documents and as it stands, with the same text of the failure; and a log of one error event as text,
without any. -/
theorem report_views_broken :
    let line := utf8 "\x7b\"response\":[404,\"1.5us\"]\x7d"
    let source : Script :=
      [.data (line ++ [carriageReturn, lineFeed]), .data (utf8 "\x7b\"request\":")]
    let s : Surroundings := ⟨fun _ => .absent "", source, none, none⟩
    let e : AuditEvent := ⟨.epoch, ⟨"", ""⟩, ⟨404, ⟨1500⟩⟩⟩
    let document :=
      "\x7b\"time\":\"1970-01-01T00:00:00Z\",\"request\":\x7b\"path\":\"\",\"identity\":\"\"\x7d," ++
        "\"response\":\x7b\"code\":404,\"time\":1500\x7d\x7d"
    let s' : Surroundings := ⟨fun _ => .absent "", [.data (utf8 "[\"a\"]")], none, none⟩
    let text := "\x1b[1m\x1b[31m[STREAM]\x1b[39m\x1b[0m Failed to decode event: " ++
      "EOF while parsing a value at line 1 column 11\n"
    LogRecord.document e = .ok document.toList ∧
      (report s ["audit", "--json"]).out = utf8 document ++ [lineFeed] ∧
      (report s ["audit", "--json"]).outputs.getLast? = some (.err text) ∧
      (report s ["audit", "--json"]).ending.code = 1 ∧
      (report s ["audit", "--raw"]).out = line ++ [lineFeed] ∧
      (report s ["audit", "--raw"]).outputs.getLast? = some (.err text) ∧
      (report s ["audit", "--raw"]).ending.code = 1 ∧
      (report s' ["errors"]).out = utf8 "\x1b[1m\x1b[31m[ERROR]\x1b[39m\x1b[0m a\n" ∧
      (∀ message, .err (failureText message) ∉ (report s' ["errors"]).outputs) ∧
      (report s' ["errors"]).ending.code = 0 := by
  intro line source s e document s' text
  have hjson : Asks s ["audit", "--json"] .audit .json .standard source :=
    ⟨⟨.audit, none, .json, .empty, 0⟩, .standard, by decide +kernel, rfl, rfl, rfl, rfl, rfl⟩
  have hraw : Asks s ["audit", "--raw"] .audit .raw .standard source :=
    ⟨⟨.audit, none, .raw, .empty, 0⟩, .standard, by decide +kernel, rfl, rfl, rfl, rfl, rfl⟩
  have hplain : Asks s' ["errors"] .errors (.text false) .standard [.data (utf8 "[\"a\"]")] :=
    ⟨⟨.errors, none, .text false, .empty, 0⟩, .standard, by decide +kernel, rfl, rfl, rfl, rfl,
      rfl⟩
  have hrecords :
      (Session.new .standard none source : Session AuditEvent).drain.1 = [(line, e)] := by
    decide +kernel
  have hfailure : (Session.new .standard none source : Session AuditEvent).drain.2.stream.err =
      some (.decode ⟨.eofInValue, ⟨1, 11⟩⟩) := by
    decide +kernel
  have htext : failureText (Failure.message (.decode ⟨.eofInValue, ⟨1, 11⟩⟩)) = text := by
    decide +kernel
  have hdocument : LogRecord.document e = .ok document.toList := by decide +kernel
  have hline : utf8 (ErrorEvent.line ⟨"a"⟩) ++ [lineFeed] =
      utf8 "\x1b[1m\x1b[31m[ERROR]\x1b[39m\x1b[0m a\n" := by
    decide +kernel
  have hrecord : (Session.new .standard none [.data (utf8 "[\"a\"]")] :
      Session ErrorEvent).drain.1 = [(utf8 "[\"a\"]", ⟨"a"⟩)] := by
    decide +kernel
  have hnone : (Session.new .standard none [.data (utf8 "[\"a\"]")] :
      Session ErrorEvent).drain.2.stream.err = none := by
    decide +kernel
  have hdocuments := report_views.2.views hjson
  have hlines := report_views.2.views hraw
  have htexts := report_views.1.views hplain
  rw [hrecords, hfailure] at hdocuments hlines
  rw [hrecord, hnone] at htexts
  refine ⟨hdocument, ?_, htext ▸ hdocuments.last, hdocuments.code, hlines.lines,
    htext ▸ hlines.last, hlines.code, htexts.texts.trans hline, fun message hmem => ?_,
    htexts.code⟩
  · have hout := hdocuments.out_of_shows (.cons (.json hdocument) .nil)
    exact hout.trans (List.append_nil _)
  · cases (htexts.failures message).1 hmem

end EventLog
