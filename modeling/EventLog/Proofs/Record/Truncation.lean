import EventLog.Proofs.Record.RoundTrip
import EventLog.Proofs.Stream.Reading

/-!
# Logs that break off

A log is written one record per line, and it may break off anywhere. The records whose documents it
holds completely are read; of a document that it holds in part nothing is read, and the stream ends
with the failure of a line that ends too early.

* `Session.reads_truncated`: this, for both kinds of logs and however the log is handed out.
-/

namespace EventLog

open Ascii Json Utf8

/-- The log that holds the given documents, each with a line feed. -/
def logOf (documents : List Bytes) : Bytes := documents.flatMap (· ++ [lineFeed])

/-- Where in the log that holds them the given documents end. -/
def documentEnds : List Bytes → List ℕ
  | [] => []
  | d :: ds => d.length :: (documentEnds ds).map (d.length + 1 + ·)

lemma logOf_cons (d : Bytes) (ds : List Bytes) :
    logOf (d :: ds) = d ++ lineFeed :: logOf ds := by
  rw [logOf, List.flatMap_cons, List.append_assoc, List.singleton_append]
  rfl

/-- How many documents end within so many bytes. -/
def documentCount (ds : List Bytes) (n : ℕ) : ℕ := (documentEnds ds).countP (· ≤ n)

lemma documentCount_short {d : Bytes} (ds : List Bytes) {n : ℕ} (h : n < d.length) :
    documentCount (d :: ds) n = 0 := by
  simp only [documentCount, documentEnds, List.countP_eq_zero, List.mem_cons, List.mem_map,
    decide_eq_true_eq]
  rintro m (rfl | ⟨k, -, rfl⟩) <;> omega

lemma documentCount_exact (d : Bytes) (ds : List Bytes) :
    documentCount (d :: ds) d.length = 1 := by
  have h : ((documentEnds ds).map (d.length + 1 + ·)).countP (· ≤ d.length) = 0 := by
    simp only [List.countP_eq_zero, List.mem_map, decide_eq_true_eq]
    rintro m ⟨k, -, rfl⟩
    omega
  rw [documentCount, documentEnds, List.countP_cons_of_pos (by simp), h]

lemma documentCount_line (d : Bytes) (ds : List Bytes) (n : ℕ) :
    documentCount (d :: ds) (d.length + 1 + n) = 1 + documentCount ds n := by
  have h : (fun m => decide (d.length + 1 + m ≤ d.length + 1 + n)) = fun m => decide (m ≤ n) := by
    funext m
    simp
  rw [documentCount, documentEnds, List.countP_cons_of_pos (by simp; omega), List.countP_map,
    Nat.add_comm]
  simp only [Function.comp_def, h]
  rfl

/-! ### One line -/

section Stands

variable {ρ : Type} [LogRecord ρ]

/-- A line stands for a record: it is decoded as the record, what is left of it when it breaks off
is decoded as a line that ends too early, and it has no controls. -/
structure Stands (r : ρ) (line : Bytes) : Prop where
  decodes : LogRecord.decode line = .ok r
  cut : ∀ p, CutFrom p line → ∃ e, LogRecord.decode (ρ := ρ) p = .error e ∧ e.cause.category = .eof
  visible : ∀ b ∈ line, space ≤ b

variable {r : ρ} {d : Bytes}

lemma Stands.of_writes {es : List (Entry ρ)} (h : (LogRecord.shape : Shape ρ).Writes es)
    (hr : (LogRecord.shape : Shape ρ).recordOf es = r) : Stands r (encode (textOf es)) where
  decodes := (Shape.decode_text h).trans (congrArg Except.ok hr)
  cut _ hp := Shape.decode_cut h hp
  visible := (Shape.written h).visible

lemma decode_nil : LogRecord.decode [] ≠ .ok r := by
  obtain ⟨f, hf, -⟩ := fromFirst_nil (LogRecord.shape : Shape ρ).readFrom
  have hread : (LogRecord.shape : Shape ρ).read [] = .error f := by
    rw [Shape.read, show (LogRecord.shape : Shape ρ).reader.run [] = .error f from hf]
  intro hd
  rw [LogRecord.decode, Shape.decode, hread] at hd
  cases hd

lemma Stands.ne_nil (h : Stands r d) : d ≠ [] := by
  rintro rfl
  exact decode_nil h.decodes

lemma not_mem_of_visible {b : UInt8} (hb : b < space) (h : ∀ b ∈ d, space ≤ b) : b ∉ d :=
  fun hmem => UInt8.not_lt.2 (h b hmem) hb

lemma Stands.lineFeed_not_mem (h : Stands r d) : lineFeed ∉ d :=
  not_mem_of_visible (by decide) h.visible

lemma Stands.chomp_eq (h : Stands r d) : Log.chomp d = d := by
  refine if_neg fun hlast => ?_
  exact not_mem_of_visible (by decide) h.visible (List.mem_of_getLast? hlast)

end Stands

/-! ### Where a log breaks off -/

/-- A log breaks off before, inside, after or beyond the line feed of its first document. -/
lemma prefix_logOf_cons {d p : Bytes} {ds : List Bytes} (h : p <+: logOf (d :: ds)) :
    CutFrom p d ∨ p = d ∨ ∃ q, p = d ++ lineFeed :: q ∧ q <+: logOf ds := by
  rw [logOf_cons] at h
  obtain ⟨c, hc⟩ := h
  rcases List.append_eq_append_iff.1 hc with ⟨t, rfl, -⟩ | ⟨t, rfl, ht⟩
  · by_cases hp : p = p ++ t
    · exact Or.inr (Or.inl hp)
    · exact Or.inl ⟨List.prefix_append p t, hp⟩
  · rcases List.prefix_cons_iff.1 ⟨c, ht.symm⟩ with rfl | ⟨q, rfl, hq⟩
    · exact Or.inr (Or.inl (List.append_nil d))
    · exact Or.inr (Or.inr ⟨q, rfl, hq⟩)

/-- A log does not break off inside a document. -/
def Complete (ds : List Bytes) (p : Bytes) : Prop :=
  p = [] ∨ p.getLast? = some lineFeed ∨ p.length ∈ documentEnds ds

lemma not_complete_of_short {d p : Bytes} {ds : List Bytes} (hne : p ≠ []) (hfree : lineFeed ∉ p)
    (h : p.length < d.length) : ¬ Complete (d :: ds) p := by
  rintro (hnil | hlast | hmem)
  · exact hne hnil
  · exact hfree (List.mem_of_getLast? hlast)
  · have hcount := documentCount_short ds h
    rw [documentCount, List.countP_eq_zero] at hcount
    exact hcount _ hmem (by simp)

lemma complete_line {d q : Bytes} {ds : List Bytes} :
    Complete (d :: ds) (d ++ lineFeed :: q) ↔ Complete ds q := by
  have hlength : (d ++ lineFeed :: q).length = d.length + 1 + q.length := by
    rw [List.length_append, List.length_cons]
    omega
  have hends : (d ++ lineFeed :: q).length ∈ documentEnds (d :: ds) ↔
      q.length ∈ documentEnds ds := by
    rw [hlength, documentEnds, List.mem_cons, List.mem_map]
    constructor
    · rintro (h | ⟨k, hk, h⟩)
      · omega
      · rwa [show q.length = k by omega]
    · exact fun h => Or.inr ⟨_, h, rfl⟩
  have hlast : (d ++ lineFeed :: q).getLast? = some lineFeed ↔
      q = [] ∨ q.getLast? = some lineFeed := by
    rw [List.getLast?_append]
    cases q with
    | nil => simp
    | cons b q => simp
  rw [Complete, Complete, hends, hlast]
  simp [or_assoc]

/-! ### Reading -/

section Reading

open Log

variable {ρ : Type} [LogRecord ρ] {limit : ℕ}

lemma lines_line {r : ρ} {d : Bytes} (h : Stands r d) (q : Bytes) :
    lines limit .endOfData (d ++ lineFeed :: q) = d :: lines limit .endOfData q := by
  rw [lines, contents_terminated h.lineFeed_not_mem, h.chomp_eq]
  exact List.filter_cons_of_pos (by simpa using h.ne_nil)

lemma readLines_cons_record {r : ρ} {d : Bytes} (h : Stands r d) (hl : d.length ≤ limit)
    (more : List Bytes) : readLines (ρ := ρ) limit .endOfData (d :: more) =
      ⟨(d, r) :: (readLines limit .endOfData more).records,
        (readLines (ρ := ρ) limit .endOfData more).failure⟩ := by
  rw [readLines, judge_eq_ok.2 ⟨hl, h.decodes⟩]

lemma readLines_cons_cut {r : ρ} {d p : Bytes} (h : Stands r d) (hl : d.length ≤ limit)
    (hp : CutFrom p d) : ∃ e, readLines (ρ := ρ) limit .endOfData [p] = ⟨[], some (.decode e)⟩ ∧
      e.cause.category = .eof := by
  obtain ⟨e, he, hc⟩ := h.cut p hp
  have hlen := hp.length_lt
  refine ⟨e, ?_, hc⟩
  rw [readLines, judge, if_neg (by omega), he]
  rfl

/-- What is read of a log of records that breaks off. -/
structure ReadsWhole (records : List ρ) (ds : List Bytes) (p : Bytes) (reading : Reading ρ) :
    Prop where
  records : reading.records.map Prod.snd = records.take (documentCount ds p.length)
  complete : Complete ds p → reading.failure = none
  cut : ¬ Complete ds p → ∃ e, reading.failure = some (.decode e) ∧ e.cause.category = .eof

/-- **Reading a log that breaks off.** The induction is on the documents; the log breaks off inside
the first one, right after it, or after its line feed. -/
lemma readLines_prefix {records : List ρ} {ds : List Bytes} (h : List.Forall₂ Stands records ds)
    (hl : ∀ d ∈ ds, d.length ≤ limit) {p : Bytes} (hp : p <+: logOf ds) :
    ReadsWhole records ds p (readLines limit .endOfData (lines limit .endOfData p)) := by
  induction h generalizing p with
  | nil =>
    obtain rfl := List.prefix_nil.1 hp
    exact ⟨rfl, fun _ => rfl, fun hn => absurd (Or.inl rfl) hn⟩
  | @cons r d records ds hr _ ih =>
    obtain ⟨hld, hlds⟩ := List.forall_mem_cons.1 hl
    rcases prefix_logOf_cons hp with hcut | rfl | ⟨q, rfl, hq⟩
    · -- inside the first document, or before it
      have hlen := hcut.length_lt
      have hfree : lineFeed ∉ p := fun hmem => hr.lineFeed_not_mem (hcut.1.subset hmem)
      rw [lines_tail hfree]
      split_ifs with hnil
      · refine ⟨?_, fun _ => rfl, fun hn => absurd (Or.inl hnil) hn⟩
        rw [documentCount_short ds hlen]
        rfl
      · obtain ⟨e, he, hc⟩ := readLines_cons_cut hr hld hcut
        rw [he]
        refine ⟨?_, fun hcomplete => ?_, fun _ => ⟨e, rfl, hc⟩⟩
        · rw [documentCount_short ds hlen]
          rfl
        · exact absurd hcomplete (not_complete_of_short hnil hfree hlen)
    · -- right after the first document
      rw [lines_tail hr.lineFeed_not_mem, if_neg hr.ne_nil, readLines_cons_record hr hld]
      refine ⟨?_, fun _ => rfl, fun hn => absurd (Or.inr (Or.inr List.mem_cons_self)) hn⟩
      rw [documentCount_exact]
      rfl
    · -- after its line feed
      obtain ⟨h₁, h₂, h₃⟩ := ih hlds hq
      have hlen : (d ++ lineFeed :: q).length = d.length + 1 + q.length := by
        rw [List.length_append, List.length_cons]
        omega
      rw [lines_line hr, readLines_cons_record hr hld]
      refine ⟨?_, fun hc => h₂ (complete_line.1 hc), fun hn => h₃ (mt complete_line.2 hn)⟩
      rw [hlen, documentCount_line, Nat.add_comm, List.take_succ_cons, ← h₁]
      rfl

end Reading

/-! ### Both kinds of logs -/

lemma ErrorEvent.stands {e : ErrorEvent} {text : List Char}
    (h : LogRecord.document e = .ok text) : Stands e (encode text) := by
  obtain rfl := Except.ok.inj h
  exact .of_writes e.writes rfl

lemma AuditEvent.stands {e : AuditEvent} {text : List Char}
    (h : LogRecord.document e = .ok text) : Stands e (encode text) := by
  have hdoc : AuditEvent.document e = .ok text := h
  rw [AuditEvent.document_eq] at hdoc
  split_ifs at hdoc with hs
  obtain rfl := Except.ok.inj hdoc
  exact .of_writes (AuditEvent.writes hs) rfl

/-- Of every log of these records that breaks off, and however it is handed out, a stream reads the
records whose documents the log holds completely. It ends without a failure if the log is empty, or
ends with a line feed or where a document ends; otherwise the last line ends too early. -/
def ReadsTruncated (ρ : Type) [LogRecord ρ] : Prop :=
  ∀ (records : List ρ) (texts : List (List Char)) (p : Bytes) (script : Script) (limits : Limits)
    (closer : Option Closer),
    List.Forall₂ (fun r text => LogRecord.document r = .ok text) records texts →
    p <+: logOf (texts.map encode) → script.Delivers p .endOfData →
    (∀ text ∈ texts, (encode text).length ≤ limits.maxLine) →
    limits.maxLine ≤ 0xFFFFFFFFFFFFFFFD →
    let drained := (Session.new limits closer script : Session ρ).drain
    let ends := documentEnds (texts.map encode)
    drained.1.map Prod.snd = records.take (ends.countP (· ≤ p.length)) ∧
      (p = [] ∨ p.getLast? = some lineFeed ∨ p.length ∈ ends → drained.2.stream.err = none) ∧
      (¬ (p = [] ∨ p.getLast? = some lineFeed ∨ p.length ∈ ends) →
        ∃ e, drained.2.stream.err = some (.decode e) ∧ e.cause.category = .eof)

lemma readsTruncated_of_stands {ρ : Type} [LogRecord ρ]
    (hstands : ∀ (r : ρ) text, LogRecord.document r = .ok text → Stands r (encode text)) :
    ReadsTruncated ρ := by
  intro records texts p script limits closer hdoc hp hs hlen hmax
  have hrecords : List.Forall₂ Stands records (texts.map encode) :=
    List.forall₂_map_right_iff.2 (hdoc.imp hstands)
  have hlen' : ∀ d ∈ texts.map encode, d.length ≤ limits.maxLine := by
    intro d hd
    obtain ⟨text, htext, rfl⟩ := List.mem_map.1 hd
    exact hlen text htext
  obtain ⟨h₁, h₂, h₃⟩ := readLines_prefix hrecords hlen' hp
  have hd := Session.drain_lines (s := (Session.new limits closer script : Session ρ)) rfl
    (by simp only [Session.limit, Session.new, Stream.new, Feed.new]; omega) hs
  rw [Session.lines_new limits closer hs] at hd
  obtain ⟨hd₁, hd₂⟩ := hd
  exact ⟨(congrArg _ hd₁).trans h₁, fun hc => hd₂.trans (h₂ hc), fun hn => hd₂.symm ▸ h₃ hn⟩

/-- **A log that breaks off never yields a wrong record**, be it a log of error events or of audit
events. -/
theorem Session.reads_truncated : ReadsTruncated ErrorEvent ∧ ReadsTruncated AuditEvent :=
  ⟨readsTruncated_of_stands fun _ _ => ErrorEvent.stands,
    readsTruncated_of_stands fun _ _ => AuditEvent.stands⟩

/-- An audit log that is handed out in two pieces and breaks off in the elapsed time of its second
record, between the digits. -/
theorem Session.reads_truncated_number :
    let served : AuditEvent := ⟨.epoch, ⟨"/a", "\u00e9\n"⟩, ⟨200, ⟨1500⟩⟩⟩
    let texts := [textOf served.entries, textOf served.entries]
    let p := (logOf (texts.map encode)).take 215
    let script : Script := [.data (p.take 50), .data (p.drop 50)]
    let drained := (Session.new ⟨109, 8⟩ none script : Session AuditEvent).drain
    p <+: logOf (texts.map encode) ∧ script.Delivers p .endOfData ∧
      (∀ text ∈ texts, (encode text).length ≤ 109) ∧
      p.getLast? = some (byte '5') ∧ drained.1.map Prod.snd = [served] ∧
      ∃ e, drained.2.stream.err = some (.decode e) ∧ e.cause.category = .eof := by
  intro served texts p script drained
  have hp : p <+: logOf (texts.map encode) := List.take_prefix _ _
  have hs : script.Delivers p .endOfData := by
    have h : script.Delivers (p.take 50 ++ (p.drop 50 ++ [])) .endOfData := .data _ (.data _ .nil)
    rwa [List.append_nil, List.take_append_drop] at h
  have hlen : ∀ text ∈ texts, (encode text).length ≤ 109 := by decide +kernel
  have hdoc : List.Forall₂ (fun (r : AuditEvent) text => LogRecord.document r = .ok text)
      [served, served] texts := by
    have h : LogRecord.document served = .ok (textOf served.entries) :=
      served.document_eq.trans (if_pos (by decide))
    exact .cons h (.cons h .nil)
  obtain ⟨h₁, -, h₃⟩ := Session.reads_truncated.2 [served, served] texts p script ⟨109, 8⟩ none hdoc
    hp hs hlen (by decide)
  have hcut : ¬ (p = [] ∨ p.getLast? = some lineFeed ∨
      p.length ∈ documentEnds (texts.map encode)) := by decide +kernel
  refine ⟨hp, hs, hlen, by decide +kernel, h₁.trans ?_, h₃ hcut⟩
  decide +kernel

end EventLog
