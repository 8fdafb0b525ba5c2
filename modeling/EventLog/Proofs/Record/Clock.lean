import EventLog.Proofs.Record.Elapsed

/-!
# Clocks in records

An audit event tells its time by the string that stands for it, and any clock may be used for that.
Whatever clock it is, and however the rest of the event is spelled, the event has the instant in
universal time, and this is what is written for it again.

* `AuditEvent.tellsTime_iff`: what is written for an event tells its time by one string only.
* `AuditEvent.clocks_agree`: events whose times are told by different clocks.
-/

namespace EventLog

open Ascii Json Text Utf8

/-! ### What stands for the time -/

lemma Request.objectText (r : Request) :
    ObjectText (r.entries.map fun e => (e.field.name, encode e.text)) (encode (textOf r.entries)) :=
  objectText_textOf (List.forall_mem_cons.2 ⟨(literal_stringText r.path).valid,
    List.forall_mem_singleton.2 (literal_stringText r.identity).valid⟩)

namespace AuditEvent

variable {e : AuditEvent} {document : List Char}

lemma objectText (h : e.response.elapsed.Storable) :
    ObjectText (e.entries.map fun e => (e.field.name, encode e.text)) (encode (textOf e.entries)) :=
  objectText_textOf (List.forall_mem_cons.2 ⟨(literal_stringText e.time.exactText).valid,
    List.forall_mem_cons.2 ⟨e.request.objectText.valid,
      List.forall_mem_singleton.2 (Response.objectText h).valid⟩⟩)

/-- A document tells the time of an audit event by this string. -/
def TellsTime (document : List Char) (x : String) : Prop :=
  ∃ v, FieldText (slots .any) "time" v (encode document) ∧ Literal x v

/-- **The time in the document of an event** is told by the exact text of the instant, and by
nothing else. -/
lemma tellsTime_iff (h : e.document = .ok document) {x : String} :
    TellsTime document x ↔ x = e.time.exactText := by
  rw [document_eq] at h
  split_ifs at h with hfit
  cases h
  have hmembers : ∀ v, FieldText (slots .any) "time" v (encode (textOf e.entries)) ↔
      v = encode (stringText e.time.exactText) := by
    intro v
    rw [(objectText hfit).fieldText_iff]
    simp [entries]
  constructor
  · rintro ⟨v, hv, hx⟩
    obtain rfl := (hmembers v).1 hv
    exact hx.unique (literal_stringText _)
  · rintro rfl
    exact ⟨_, (hmembers _).2 rfl, literal_stringText _⟩

end AuditEvent

/-! ### Any clock -/

/-- As a clock tells them that is some minutes ahead of universal time: an instant by a string with
one of its texts on this clock, and an elapsed time in every way that is understood. -/
def Style.clock (minutes : ℤ) : Style where
  time i t := ∃ x, i.ClockText minutes x.toList ∧ Literal x t
  elapsed := ElapsedText

lemma Style.clock_accepted (minutes : ℤ) : (Style.clock minutes).Accepted where
  time := {
    valid := fun ⟨_, _, ht⟩ => ht.valid
    run := fun hw ⟨_, hx, ht⟩ hr => accepts_instant.run hw ⟨_, ht, Instant.parse_clockText hx⟩ hr }
  elapsed := accepts_duration

/-- **An event is decoded with its instant**, whatever clock tells it. -/
lemma AuditEvent.decode_clock {e : AuditEvent} {minutes : ℤ} {bytes : Bytes}
    (h : Document (AuditEvent.Text (.clock minutes) e) bytes) :
    AuditEvent.shape.decode bytes = .ok e :=
  Shape.decode_spelled (has_slots (.clock minutes)) (accepts (Style.clock_accepted minutes)) h

/-- **Clocks agree.** Two texts of an audit event, in which any two clocks tell the time, are both
decoded as the event with the instant in universal time. What is written for the event tells this
instant by a clock at universal time, with the letter for it at the end, and by one string only. -/
theorem AuditEvent.clocks_agree {e : AuditEvent} {minutes minutes' : ℤ} {bytes bytes' : Bytes}
    (h : Document (AuditEvent.Text (.clock minutes) e) bytes)
    (h' : Document (AuditEvent.Text (.clock minutes') e) bytes') :
    AuditEvent.shape.decode bytes = .ok e ∧ AuditEvent.shape.decode bytes' = .ok e ∧
      ∃ document x, e.document = .ok document ∧ (∀ y, TellsTime document y ↔ y = x) ∧
        e.time.ClockText 0 x.toList ∧ x.toList.getLast? = some 'Z' := by
  have hd := decode_clock h
  have hstorable : e.response.elapsed.Storable :=
    Shape.decode_preserves Response.storable_zero AuditEvent.keeps_storable hd
  have hdocument := e.document_eq.trans (if_pos hstorable)
  have hlast : e.time.exactText.toList.getLast? = some 'Z' := by
    rw [Instant.exactText, String.toList_ofList, List.getLast?_append, List.getLast?_singleton]
    rfl
  exact ⟨hd, decode_clock h', _, e.time.exactText, hdocument, fun _ => tellsTime_iff hdocument,
    e.time.clockText_exactText, hlast⟩

/-- The middle of the leap second at the end of 2016, on a clock that is in the next year and on one
at universal time, with more digits of the fraction than count. -/
theorem AuditEvent.clocks_agree_leap :
    let e : AuditEvent :=
      ⟨⟨1483228799, 1500000000, by decide, by decide, by decide⟩, ⟨"", ""⟩, ⟨0, ⟨0⟩⟩⟩
    let bytes := utf8 "\x7b\"time\":\"2017-01-01t05:29:60.5+05:30\"\x7d"
    let bytes' := utf8 "[\"2016-12-31 23:59:60.500000000999z\"]"
    AuditEvent.shape.decode bytes = .ok e ∧ AuditEvent.shape.decode bytes' = .ok e ∧
      ∃ document, e.document = .ok document ∧ TellsTime document "2016-12-31T23:59:60.500Z" := by
  intro e bytes bytes'
  have hshort : Instant.SubsecondText e.time.subsecond ['.', '5'] :=
    .digits (by decide +kernel) (by simp) (by decide +kernel)
  have hlong : Instant.SubsecondText e.time.subsecond ('.' :: "500000000999".toList) :=
    .digits (by decide +kernel) (by simp) (by decide +kernel)
  have hclock : e.time.ClockText 330 "2017-01-01t05:29:60.5+05:30".toList := by
    have h : e.time.ClockText 330 _ := .shown (by decide +kernel) (by decide +kernel) (by decide)
      (List.mem_cons_of_mem _ (List.mem_cons_self (a := 't'))) hshort (.ahead (by decide))
    convert h using 1
    decide +kernel
  have hclock' : e.time.ClockText 0 "2016-12-31 23:59:60.500000000999z".toList := by
    have h : e.time.ClockText 0 _ := .shown (by decide +kernel) (by decide +kernel) (by decide)
      (by decide : ' ' ∈ ['T', 't', ' ']) hlong (.universal (c := 'z') rfl (by decide))
    convert h using 1
    decide +kernel
  have hstring := literal_stringText "2017-01-01t05:29:60.5+05:30"
  have hstring' := literal_stringText "2016-12-31 23:59:60.500000000999z"
  have hobject : Document (AuditEvent.Text (.clock 330) e) bytes := by
    have h : e.Text (.clock 330) _ := .object (objectText_single "time" hstring.valid)
      ⟨by decide +kernel, List.forall_mem_cons.2
        ⟨Or.inl ⟨_, List.mem_cons_self, _, hclock, hstring⟩, List.forall_mem_cons.2
          ⟨Or.inr ⟨by decide +kernel, rfl⟩,
            List.forall_mem_singleton.2 (Or.inr ⟨by decide +kernel, rfl⟩)⟩⟩⟩
    convert Document.plain h using 1
    decide +kernel
  have hlist : Document (AuditEvent.Text (.clock 0) e) bytes' := by
    have h : e.Text (.clock 0) _ := .list (listText_single hstring'.valid)
      (.value ⟨_, hclock', hstring'⟩
        (.rest (List.forall_mem_cons.2 ⟨rfl, List.forall_mem_singleton.2 rfl⟩)))
    convert Document.plain h using 1
    decide +kernel
  obtain ⟨hd, hd', document, -, hdocument, -⟩ := clocks_agree hobject hlist
  exact ⟨hd, hd', document, hdocument, (tellsTime_iff hdocument).2 (by decide +kernel)⟩

end EventLog
