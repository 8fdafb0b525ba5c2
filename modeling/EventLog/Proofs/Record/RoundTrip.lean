import EventLog.Proofs.Instant
import EventLog.Proofs.Json.Numbers
import EventLog.Proofs.Json.Objects
import EventLog.Proofs.Json.Preservation
import EventLog.Record.Encoding

/-!
# Records and their documents

A record can be written unless its elapsed time does not fit, and what is written is read as the
record. A record that has been read, in whatever spelling, can always be written.

* `Faithful`: the documents of a kind of record are as good as the records.
* `records_faithful`: this holds of the four kinds of records.
-/

namespace EventLog

open Ascii Json Text Utf8

/-! ### Values of the fields -/

namespace Json

/-- **Instants.** The exact text of an instant is read as the instant. -/
theorem written_instant (t : Instant) : Written .instant (encode (stringText t.exactText)) t := by
  have hrun : ∀ r, Reader.instant.run (quote :: r) = instantFrom quote r := fun r =>
    fromFirst_cons (b := quote) instantFrom r (by decide)
  refine written_of_string ?_ ?_ (fromFirst_nil instantFrom)
  · intro r u h
    rw [hrun, instantFrom, if_pos rfl, h]
    simp only [t.parse_exactText]
  · intro r f h
    rw [hrun, instantFrom, if_pos rfl, h]

end Json

namespace Duration

lemma storable_of_ofSum {negative : Bool} {total : ℕ} {d : Duration}
    (h : ofSum negative total = .ok d) : d.Storable := by
  unfold ofSum at h
  generalize (if negative then -(total : ℤ) else total) = n at h
  simp only at h
  split_ifs at h with hfit
  cases h
  exact hfit

/-- An elapsed time that is read from its text fits. -/
lemma storable_of_parse {s : String} {d : Duration} (h : parse s = .ok d) : d.Storable := by
  simp only [parse, parseChars] at h
  split_ifs at h
  · cases h
    exact ⟨by decide, by decide⟩
  · split at h
    · cases h
    · exact storable_of_ofSum h

/-- **An elapsed time that is read fits**, whether it is written as a number or as a text. -/
theorem storable_of_run {s r : Bytes} {d : Duration} (h : Reader.duration.run s = .ok (d, r)) :
    d.Storable := by
  obtain ⟨b, t, ht⟩ := fromFirst_ok (f := durationFrom) h
  unfold durationFrom at ht
  split_ifs at ht
  · -- a number
    split at ht
    · split_ifs at ht with hfit
      cases ht
      exact hfit
    · cases ht
    · cases ht
  · -- a text
    split at ht
    · split at ht
      · next hparse =>
        cases ht
        exact storable_of_parse hparse
      · cases ht
    · cases ht

end Duration

/-! ### What is written for the fields -/

/-- What is written for the fields of an error event. -/
def ErrorEvent.entries (e : ErrorEvent) : List (Entry ErrorEvent) :=
  [⟨⟨"message", String, .string, fun v e => { e with message := v }⟩, e.message,
    stringText e.message⟩]

/-- What is written for the fields of a request. -/
def Request.entries (r : Request) : List (Entry Request) :=
  [⟨⟨"path", String, .string, fun v r => { r with path := v }⟩, r.path, stringText r.path⟩,
   ⟨⟨"identity", String, .string, fun v r => { r with identity := v }⟩, r.identity,
    stringText r.identity⟩]

/-- What is written for the fields of a response. -/
def Response.entries (r : Response) : List (Entry Response) :=
  [⟨⟨"code", Int64, .code, fun v r => { r with code := v }⟩, r.code, signed r.code.toInt⟩,
   ⟨⟨"time", Duration, .duration, fun v r => { r with elapsed := v }⟩, r.elapsed,
    signed r.elapsed.nanos⟩]

/-- What is written for the fields of an audit event. -/
def AuditEvent.entries (e : AuditEvent) : List (Entry AuditEvent) :=
  [⟨⟨"time", Instant, .instant, fun v e => { e with time := v }⟩, e.time,
    stringText e.time.exactText⟩,
   ⟨⟨"request", Request, Request.shape.reader, fun v e => { e with request := v }⟩, e.request,
    textOf e.request.entries⟩,
   ⟨⟨"response", Response, Response.shape.reader, fun v e => { e with response := v }⟩, e.response,
    textOf e.response.entries⟩]

lemma ErrorEvent.writes (e : ErrorEvent) : ErrorEvent.shape.Writes e.entries where
  fields := rfl
  distinct := by decide
  values := List.forall_mem_singleton.2 (written_string e.message)

lemma Request.writes (r : Request) : Request.shape.Writes r.entries where
  fields := rfl
  distinct := by decide
  values := List.forall_mem_cons.2 ⟨written_string r.path,
    List.forall_mem_singleton.2 (written_string r.identity)⟩

lemma Response.writes {r : Response} (h : r.elapsed.Storable) :
    Response.shape.Writes r.entries where
  fields := rfl
  distinct := by decide
  values := List.forall_mem_cons.2 ⟨written_code r.code,
    List.forall_mem_singleton.2 (written_duration h)⟩

lemma AuditEvent.writes {e : AuditEvent} (h : e.response.elapsed.Storable) :
    AuditEvent.shape.Writes e.entries where
  fields := rfl
  distinct := by decide
  values := List.forall_mem_cons.2 ⟨written_instant e.time, List.forall_mem_cons.2
    ⟨Shape.written e.request.writes,
      List.forall_mem_singleton.2 (Shape.written (Response.writes h))⟩⟩

lemma Response.document_eq (r : Response) : r.document =
    if r.elapsed.Storable then .ok (textOf r.entries) else .error .elapsedOutOfRange := rfl

lemma AuditEvent.document_eq (e : AuditEvent) : e.document =
    if e.response.elapsed.Storable then .ok (textOf e.entries)
    else .error .elapsedOutOfRange := by
  rw [AuditEvent.document, Response.document_eq]
  split_ifs <;> rfl

/-! ### Round trips -/

variable {ρ : Type}

/-- The documents of a kind of record are as good as the records. -/
structure Faithful (shape : Shape ρ) (document : ρ → Except EncodeError (List Char))
    (Encodable : ρ → Prop) : Prop where
  /-- These records have a document, and no others. -/
  encodes : ∀ r, (∃ text, document r = .ok text) ↔ Encodable r
  /-- The document of a record is read as the record. -/
  decodes : ∀ r text, document r = .ok text → shape.decode (encode text) = .ok r
  /-- A record that is read from any text has a document, which is read as the record again. -/
  reencodes : ∀ bytes r, shape.decode bytes = .ok r →
    ∃ text, document r = .ok text ∧ shape.decode (encode text) = .ok r

/-- The documents are faithful if they are what is written for the fields, and every record that is
read has one. -/
lemma Faithful.of_entries {shape : Shape ρ} {document : ρ → Except EncodeError (List Char)}
    {Encodable : ρ → Prop} {entries : ρ → List (Entry ρ)}
    (hok : ∀ r, Encodable r → document r = .ok (textOf (entries r)))
    (herror : ∀ r, ¬ Encodable r → ∃ e, document r = .error e)
    (hwrites : ∀ r, Encodable r → shape.Writes (entries r))
    (hrecord : ∀ r, shape.recordOf (entries r) = r)
    (hread : ∀ bytes r, shape.decode bytes = .ok r → Encodable r) :
    Faithful shape document Encodable := by
  have hencodes : ∀ r, (∃ text, document r = .ok text) ↔ Encodable r := by
    intro r
    constructor
    · rintro ⟨text, ht⟩
      by_contra hn
      obtain ⟨e, he⟩ := herror r hn
      cases ht.symm.trans he
    · exact fun h => ⟨_, hok r h⟩
  have hdecodes : ∀ r text, document r = .ok text → shape.decode (encode text) = .ok r := by
    intro r text ht
    have h := (hencodes r).1 ⟨text, ht⟩
    obtain rfl := Except.ok.inj ((hok r h).symm.trans ht)
    have hd := Shape.decode_text (hwrites r h)
    rwa [hrecord] at hd
  refine ⟨hencodes, hdecodes, fun bytes r hb => ?_⟩
  obtain ⟨text, ht⟩ := (hencodes r).2 (hread bytes r hb)
  exact ⟨text, ht, hdecodes r text ht⟩

lemma Response.keeps_storable :
    ∀ f ∈ Response.shape.fields, f.Keeps fun r => r.elapsed.Storable :=
  List.forall_mem_cons.2 ⟨fun _ _ _ _ _ h => h,
    List.forall_mem_singleton.2 fun _ _ _ h _ _ => Duration.storable_of_run h⟩

lemma Response.storable_zero : Duration.zero.Storable := ⟨by decide, by decide⟩

lemma AuditEvent.keeps_storable :
    ∀ f ∈ AuditEvent.shape.fields, f.Keeps fun e => e.response.elapsed.Storable :=
  List.forall_mem_cons.2 ⟨fun _ _ _ _ _ h => h, List.forall_mem_cons.2 ⟨fun _ _ _ _ _ h => h,
    List.forall_mem_singleton.2 fun _ _ _ h _ _ =>
      Shape.run_preserves Response.storable_zero Response.keeps_storable h⟩⟩

/-- **Records and their documents.** Error events and requests can always be written; responses and
audit events can be written exactly if the elapsed time fits in 64 bits. What is written is read as
the record, and every record that is read can be written. -/
theorem records_faithful :
    Faithful ErrorEvent.shape (fun e => .ok e.document) (fun _ => True) ∧
      Faithful Request.shape (fun r => .ok r.document) (fun _ => True) ∧
      Faithful Response.shape Response.document (fun r => Fits64 r.elapsed.nanos) ∧
      Faithful AuditEvent.shape AuditEvent.document
        (fun e => Fits64 e.response.elapsed.nanos) := by
  refine ⟨?_, ?_, ?_, ?_⟩
  · exact .of_entries (fun _ _ => rfl) (fun _ h => absurd trivial h) (fun e _ => e.writes)
      (fun _ => rfl) (fun _ _ _ => trivial)
  · exact .of_entries (fun _ _ => rfl) (fun _ h => absurd trivial h) (fun r _ => r.writes)
      (fun _ => rfl) (fun _ _ _ => trivial)
  · exact .of_entries (fun r h => r.document_eq.trans (if_pos h))
      (fun r h => ⟨_, r.document_eq.trans (if_neg h)⟩) (fun _ h => Response.writes h)
      (fun _ => rfl)
      (fun _ _ h => Shape.decode_preserves Response.storable_zero Response.keeps_storable h)
  · exact .of_entries (fun e h => e.document_eq.trans (if_pos h))
      (fun e h => ⟨_, e.document_eq.trans (if_neg h)⟩) (fun _ h => AuditEvent.writes h)
      (fun _ => rfl)
      (fun _ _ h => Shape.decode_preserves Response.storable_zero AuditEvent.keeps_storable h)

end EventLog
