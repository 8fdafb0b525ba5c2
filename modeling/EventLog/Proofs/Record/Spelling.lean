import EventLog.Proofs.Json.Unambiguous
import EventLog.Proofs.Record.RoundTrip

/-!
# Records and their spellings

A log may spell a record in many ways: fields in any order or left out, members that no field is
named for, blanks and escapes, lists in place of objects. All of these are read as the record, and a
record is read from nothing else.

* `AuditEvent.Text` and the like: the texts of the four kinds of records.
* `decode_of_text`: every text of a record is decoded as the record.
* `decode_strict`: only such texts are decoded.
-/

namespace EventLog

open Ascii Json

/-! ### The fields and their spellings -/

/-- How instants and elapsed times are spelled. -/
structure Style where
  /-- The spellings of an instant. -/
  time : Instant → Bytes → Prop
  /-- The spellings of an elapsed time. -/
  elapsed : Duration → Bytes → Prop

/-- As they are written: the exact text of an instant in any spelling of a string, and a whole
number of nanoseconds. -/
def Style.written : Style where
  time i := Literal i.exactText
  elapsed d := Numeral d.nanos

/-- In every way that is understood: as strings that tell them, and an elapsed time also as a whole
number of nanoseconds. -/
def Style.any : Style where
  time i t := ∃ x, Literal x t ∧ Instant.parse x = .ok i
  elapsed := ElapsedText

/-- The readers of instants and elapsed times read them in this style. -/
structure Style.Accepted (style : Style) : Prop where
  /-- Instants. -/
  time : Accepts .instant style.time
  /-- Elapsed times. -/
  elapsed : Accepts .duration style.elapsed

lemma Style.written_accepted : Style.written.Accepted where
  time := {
    valid := Literal.valid
    run := fun {i} _ _ _ hw ht hr => accepts_instant.run hw ⟨_, ht, i.parse_exactText⟩ hr }
  elapsed := {
    valid := Numeral.valid
    run := fun hw ht hr => accepts_duration.run hw (Or.inl ht) hr }

lemma Style.any_accepted : Style.any.Accepted where
  time := accepts_instant
  elapsed := accepts_duration

/-- The field of an error event. -/
def ErrorEvent.slots : List (Slot ErrorEvent) :=
  [⟨⟨"message", String, .string, fun v e => { e with message := v }⟩, ErrorEvent.message, Literal⟩]

/-- The texts of an error event. -/
def ErrorEvent.Text : ErrorEvent → Bytes → Prop :=
  RecordText ErrorEvent.slots ErrorEvent.shape.initial

/-- The fields of a request. -/
def Request.slots : List (Slot Request) :=
  [⟨⟨"path", String, .string, fun v r => { r with path := v }⟩, Request.path, Literal⟩,
   ⟨⟨"identity", String, .string, fun v r => { r with identity := v }⟩, Request.identity, Literal⟩]

/-- The texts of a request. -/
def Request.Text : Request → Bytes → Prop :=
  RecordText Request.slots Request.shape.initial

/-- The fields of a response. -/
def Response.slots (style : Style) : List (Slot Response) :=
  [⟨⟨"code", Int64, .code, fun v r => { r with code := v }⟩, Response.code,
    fun c => Numeral c.toInt⟩,
   ⟨⟨"time", Duration, .duration, fun v r => { r with elapsed := v }⟩, Response.elapsed,
    style.elapsed⟩]

/-- The texts of a response. -/
def Response.Text (style : Style) : Response → Bytes → Prop :=
  RecordText (Response.slots style) Response.shape.initial

/-- The fields of an audit event. -/
def AuditEvent.slots (style : Style) : List (Slot AuditEvent) :=
  [⟨⟨"time", Instant, .instant, fun v e => { e with time := v }⟩, AuditEvent.time, style.time⟩,
   ⟨⟨"request", Request, Request.shape.reader, fun v e => { e with request := v }⟩,
    AuditEvent.request, Request.Text⟩,
   ⟨⟨"response", Response, Response.shape.reader, fun v e => { e with response := v }⟩,
    AuditEvent.response, Response.Text style⟩]

/-- The texts of an audit event. -/
def AuditEvent.Text (style : Style) : AuditEvent → Bytes → Prop :=
  RecordText (AuditEvent.slots style) AuditEvent.shape.initial

/-! ### The fields make up the records -/

lemma ErrorEvent.has_slots : ErrorEvent.shape.Has ErrorEvent.slots where
  fields := rfl
  distinct := by decide
  get_set := List.forall_mem_singleton.2 fun _ _ => rfl
  get_set_ne := List.forall_mem_singleton.2 (List.forall_mem_singleton.2 fun h => absurd rfl h)
  ext := by
    intro x r h
    exact congrArg ErrorEvent.mk (h _ List.mem_cons_self)

lemma Request.has_slots : Request.shape.Has Request.slots where
  fields := rfl
  distinct := by decide
  get_set := List.forall_mem_cons.2 ⟨fun _ _ => rfl, List.forall_mem_singleton.2 fun _ _ => rfl⟩
  get_set_ne := by
    intro a ha b hb hne v r
    simp only [slots, List.mem_cons, List.not_mem_nil, or_false] at ha hb
    rcases ha with rfl | rfl <;> rcases hb with rfl | rfl <;> first | rfl | exact absurd rfl hne
  ext := by
    intro x r h
    obtain ⟨hpath, hrest⟩ := List.forall_mem_cons.1 h
    exact congrArg₂ Request.mk hpath (hrest _ List.mem_cons_self)

lemma Response.has_slots (style : Style) : Response.shape.Has (Response.slots style) where
  fields := rfl
  distinct := show ["code", "time"].Nodup by decide
  get_set := List.forall_mem_cons.2 ⟨fun _ _ => rfl, List.forall_mem_singleton.2 fun _ _ => rfl⟩
  get_set_ne := by
    intro a ha b hb hne v r
    simp only [slots, List.mem_cons, List.not_mem_nil, or_false] at ha hb
    rcases ha with rfl | rfl <;> rcases hb with rfl | rfl <;> first | rfl | exact absurd rfl hne
  ext := by
    intro x r h
    obtain ⟨hcode, hrest⟩ := List.forall_mem_cons.1 h
    exact congrArg₂ Response.mk hcode (hrest _ List.mem_cons_self)

lemma AuditEvent.has_slots (style : Style) : AuditEvent.shape.Has (AuditEvent.slots style) where
  fields := rfl
  distinct := show ["time", "request", "response"].Nodup by decide
  get_set := List.forall_mem_cons.2 ⟨fun _ _ => rfl, List.forall_mem_cons.2 ⟨fun _ _ => rfl,
    List.forall_mem_singleton.2 fun _ _ => rfl⟩⟩
  get_set_ne := by
    intro a ha b hb hne v r
    simp only [slots, List.mem_cons, List.not_mem_nil, or_false] at ha hb
    rcases ha with rfl | rfl | rfl <;> rcases hb with rfl | rfl | rfl <;>
      first | rfl | exact absurd rfl hne
  ext := by
    rintro ⟨xt, xq, xr⟩ ⟨rt, rq, rr⟩ h
    obtain ⟨htime, hrest⟩ := List.forall_mem_cons.1 h
    obtain ⟨hrequest, hresponse⟩ := List.forall_mem_cons.1 hrest
    have htime : rt = xt := htime
    have hrequest : rq = xq := hrequest
    have hresponse : rr = xr := hresponse _ List.mem_cons_self
    rw [htime, hrequest, hresponse]

/-! ### The fields are read -/

lemma ErrorEvent.accepts : ∀ slot ∈ ErrorEvent.slots, Accepts slot.field.reader slot.Spells :=
  List.forall_mem_singleton.2 accepts_string

lemma ErrorEvent.admits : ∀ slot ∈ ErrorEvent.slots, Admits slot.field.reader slot.Spells :=
  List.forall_mem_singleton.2 admits_string

lemma Request.accepts : ∀ slot ∈ Request.slots, Accepts slot.field.reader slot.Spells :=
  List.forall_mem_cons.2 ⟨accepts_string, List.forall_mem_singleton.2 accepts_string⟩

lemma Request.admits : ∀ slot ∈ Request.slots, Admits slot.field.reader slot.Spells :=
  List.forall_mem_cons.2 ⟨admits_string, List.forall_mem_singleton.2 admits_string⟩

lemma Response.accepts {style : Style} (h : style.Accepted) :
    ∀ slot ∈ Response.slots style, Accepts slot.field.reader slot.Spells :=
  List.forall_mem_cons.2 ⟨accepts_code, List.forall_mem_singleton.2 h.elapsed⟩

lemma Response.admits : ∀ slot ∈ Response.slots .any, Admits slot.field.reader slot.Spells :=
  List.forall_mem_cons.2 ⟨admits_code, List.forall_mem_singleton.2 admits_duration⟩

lemma AuditEvent.accepts {style : Style} (h : style.Accepted) :
    ∀ slot ∈ AuditEvent.slots style, Accepts slot.field.reader slot.Spells :=
  List.forall_mem_cons.2 ⟨h.time, List.forall_mem_cons.2
    ⟨Shape.accepts Request.has_slots Request.accepts, List.forall_mem_singleton.2
      (Shape.accepts (Response.has_slots style) (Response.accepts h))⟩⟩

lemma AuditEvent.admits : ∀ slot ∈ AuditEvent.slots .any, Admits slot.field.reader slot.Spells :=
  List.forall_mem_cons.2 ⟨admits_instant, List.forall_mem_cons.2
    ⟨Shape.admits Request.has_slots Request.accepts Request.admits, List.forall_mem_singleton.2
      (Shape.admits (Response.has_slots .any) (Response.accepts Style.any_accepted)
        Response.admits)⟩⟩

/-! ### Every text is decoded -/

/-- **Every text of a record is decoded as the record**, for all four kinds of records: the fields
may come in any order, those with their initial value may be left out, other members may stand
between them, strings and keys may be escaped, blanks may stand everywhere, and each record may be a
list of the values of its first fields. -/
theorem decode_of_text :
    (∀ e text, Document (ErrorEvent.Text e) text → ErrorEvent.shape.decode text = .ok e) ∧
      (∀ r text, Document (Request.Text r) text → Request.shape.decode text = .ok r) ∧
      (∀ r text, Document (Response.Text .written r) text →
        Response.shape.decode text = .ok r) ∧
      (∀ e text, Document (AuditEvent.Text .written e) text →
        AuditEvent.shape.decode text = .ok e) := by
  refine ⟨fun e text h => ?_, fun r text h => ?_, fun r text h => ?_, fun e text h => ?_⟩
  · exact Shape.decode_spelled ErrorEvent.has_slots ErrorEvent.accepts h
  · exact Shape.decode_spelled Request.has_slots Request.accepts h
  · exact Shape.decode_spelled (Response.has_slots .written)
      (Response.accepts Style.written_accepted) h
  · exact Shape.decode_spelled (AuditEvent.has_slots .written)
      (AuditEvent.accepts Style.written_accepted) h

/-- An error event as a list with an escaped letter, a request of which nothing is told beside a
number that is too large, a response with its fields in the other order, and an audit event with
this response and no more. -/
theorem decode_of_text_spelled :
    let served : AuditEvent := ⟨.epoch, ⟨"", ""⟩, ⟨-7, ⟨5⟩⟩⟩
    ErrorEvent.shape.decode (utf8 "[\"\\u0041\"]") = .ok ⟨"A"⟩ ∧
      Request.shape.decode (utf8 "\x7b\"x\":[1e999]\x7d") = .ok served.request ∧
      Response.shape.decode (utf8 "\x7b\"time\":5,\"code\":-7\x7d") = .ok served.response ∧
      AuditEvent.shape.decode (utf8 "\x7b\"response\":\x7b\"time\":5,\"code\":-7\x7d\x7d\n") =
        .ok served := by
  intro served
  -- the error event
  have hletter : Literal "A" (utf8 "\"\\u0041\"") := by
    have hhex : HexText (utf8 "0041") 'A'.toNat :=
      .digits (i := 0) (j := 0) (k := 4) (l := 1) rfl rfl rfl rfl
    exact ⟨_, .cons (.number hhex) .nil, by decide +kernel⟩
  have herror : Document (ErrorEvent.Text ⟨"A"⟩) (utf8 "[\"\\u0041\"]") :=
    ⟨[], _, [], .nil, .list ⟨_, .element .nil .nil hletter.valid (.close .nil), rfl⟩
      (.value hletter (.rest fun _ h => absurd h List.not_mem_nil)), .nil, by decide +kernel⟩
  -- the request
  have hnumber : NumberText (utf8 "1e999") :=
    ⟨[], _, by simp, ⟨[byte '1'], [], _, .pos (by decide) (by decide +kernel), Or.inl rfl,
      Or.inr ⟨byte 'e', [], utf8 "999", by decide, by decide,
        ⟨by decide +kernel, by decide +kernel⟩, rfl⟩, rfl⟩, by decide +kernel⟩
  have hlist : ListText [utf8 "1e999"] (utf8 "[1e999]") :=
    ⟨_, .element .nil .nil (.number hnumber) (.close .nil), by decide +kernel⟩
  have hunknown : ObjectText [("x", utf8 "[1e999]")] (utf8 "\x7b\"x\":[1e999]\x7d") :=
    ⟨_, .member .nil .nil (.raw (by simp)) .nil .nil hlist.valid (.close .nil), by decide +kernel⟩
  have hrequest : Document (Request.Text served.request) (utf8 "\x7b\"x\":[1e999]\x7d") := by
    refine ⟨[], _, [], .nil, .object hunknown ⟨by decide +kernel, ?_⟩, .nil, by decide +kernel⟩
    exact List.forall_mem_cons.2 ⟨Or.inr ⟨by decide +kernel, rfl⟩,
      List.forall_mem_singleton.2 (Or.inr ⟨by decide +kernel, rfl⟩)⟩
  -- the response
  have hfive : Numeral 5 (utf8 "5") := ⟨⟨by decide, by decide⟩, by decide +kernel⟩
  have hcode : Numeral (-7) (utf8 "-7") := ⟨⟨by decide, by decide⟩, by decide +kernel⟩
  have hswapped : ObjectText [("time", utf8 "5"), ("code", utf8 "-7")]
      (utf8 "\x7b\"time\":5,\"code\":-7\x7d") :=
    ⟨_, .member .nil .nil (.raw (by simp)) .nil .nil hfive.valid
      (.member .nil .nil (.raw (by simp)) .nil .nil hcode.valid (.close .nil)), by decide +kernel⟩
  have hresponse : served.response.Text .written (utf8 "\x7b\"time\":5,\"code\":-7\x7d") :=
    .object hswapped ⟨by decide +kernel, List.forall_mem_cons.2 ⟨Or.inl ⟨_, by simp, hcode⟩,
      List.forall_mem_singleton.2 (Or.inl ⟨_, by simp, hfive⟩)⟩⟩
  -- the audit event
  have hnested : ObjectText [("response", utf8 "\x7b\"time\":5,\"code\":-7\x7d")]
      (utf8 "\x7b\"response\":\x7b\"time\":5,\"code\":-7\x7d\x7d") :=
    ⟨_, .member .nil .nil (.raw (by simp)) .nil .nil hresponse.valid (.close .nil),
      by decide +kernel⟩
  have haudit : Document (AuditEvent.Text .written served)
      (utf8 "\x7b\"response\":\x7b\"time\":5,\"code\":-7\x7d\x7d\n") := by
    refine ⟨[], _, [lineFeed], .nil, .object hnested ⟨by decide +kernel, ?_⟩,
      List.forall_mem_singleton.2 (by decide), by decide +kernel⟩
    exact List.forall_mem_cons.2 ⟨Or.inr ⟨by decide +kernel, rfl⟩,
      List.forall_mem_cons.2 ⟨Or.inr ⟨by decide +kernel, rfl⟩,
        List.forall_mem_singleton.2 (Or.inl ⟨_, by simp, hresponse⟩)⟩⟩
  exact ⟨decode_of_text.1 _ _ herror, decode_of_text.2.1 _ _ hrequest,
    decode_of_text.2.2.1 _ _ ⟨[], _, [], .nil, hresponse, .nil, by decide +kernel⟩,
    decode_of_text.2.2.2 _ _ haudit⟩

/-! ### Nothing else is decoded -/

/-- A text names the field of an error event twice. -/
def ErrorEvent.Twice : Bytes → Prop := Repeats ErrorEvent.slots fun _ _ => False

/-- A text names a field of a request twice. -/
def Request.Twice : Bytes → Prop := Repeats Request.slots fun _ _ => False

/-- A text names a field of a response twice. -/
def Response.Twice : Bytes → Prop := Repeats (Response.slots .any) fun _ _ => False

/-- A text names a field of an audit event twice, or a field of its request or its response. -/
def AuditEvent.Twice : Bytes → Prop :=
  Repeats (AuditEvent.slots .any) fun key v =>
    (key = "request" ∧ Request.Twice v) ∨ (key = "response" ∧ Response.Twice v)

/-- Records of a kind are decoded from nothing but one record. -/
structure Strict {ρ : Type} (shape : Shape ρ) (Text : ρ → Bytes → Prop) (Twice : Bytes → Prop) :
    Prop where
  /-- What is decoded is a text of the record, perhaps with blanks around it. -/
  text : ∀ bytes r, shape.decode bytes = .ok r → Document (Text r) bytes
  /-- A text that names a field twice is an error, however it spells the names. -/
  once : ∀ bytes, Document Twice bytes → ∃ e, shape.decode bytes = .error e
  /-- Anything but blanks after a record is an error. -/
  alone : ∀ bytes more r, shape.decode bytes = .ok r → ¬ Blanks more →
    ∃ e, shape.decode (bytes ++ more) = .error e

lemma Strict.of_slots {ρ : Type} {shape : Shape ρ} {slots : List (Slot ρ)}
    {inside : String → Bytes → Prop} (h : shape.Has slots)
    (ha : ∀ slot ∈ slots, Accepts slot.field.reader slot.Spells)
    (hb : ∀ slot ∈ slots, Admits slot.field.reader slot.Spells)
    (hin : ∀ slot ∈ slots, ∀ (y : slot.field.Value) (v : Bytes),
      slot.Spells y v → ¬ inside slot.field.name v) :
    Strict shape (RecordText slots shape.initial) (Repeats slots inside) where
  text _ _ hd := Shape.document_of_decode h ha hb hd
  once _ ht := Shape.decode_repeats h ha hb hin ht
  alone _ _ _ hd hmore :=
    Shape.decode_append h ha (Shape.document_of_decode h ha hb hd) hmore

lemma Request.not_twice {r : Request} {t : Bytes} (h : r.Text t) : ¬ Request.Twice t :=
  h.not_repeats fun _ _ _ _ _ => id

lemma Response.not_twice {r : Response} {t : Bytes} (h : r.Text .any t) : ¬ Response.Twice t :=
  h.not_repeats fun _ _ _ _ _ => id

/-- **Nothing but one record is decoded**, for all four kinds of records: what is decoded is a text
of the record, no field is named twice, and nothing follows. -/
theorem decode_strict :
    Strict ErrorEvent.shape ErrorEvent.Text ErrorEvent.Twice ∧
      Strict Request.shape Request.Text Request.Twice ∧
      Strict Response.shape (Response.Text .any) Response.Twice ∧
      Strict AuditEvent.shape (AuditEvent.Text .any) AuditEvent.Twice := by
  refine ⟨?_, ?_, ?_, ?_⟩
  · exact .of_slots ErrorEvent.has_slots ErrorEvent.accepts ErrorEvent.admits
      fun _ _ _ _ _ => id
  · exact .of_slots Request.has_slots Request.accepts Request.admits fun _ _ _ _ _ => id
  · exact .of_slots (Response.has_slots .any) (Response.accepts Style.any_accepted)
      Response.admits fun _ _ _ _ _ => id
  · refine .of_slots (AuditEvent.has_slots .any) (AuditEvent.accepts Style.any_accepted)
      AuditEvent.admits (List.forall_mem_cons.2 ⟨?_, List.forall_mem_cons.2 ⟨?_,
        List.forall_mem_singleton.2 ?_⟩⟩)
    · -- an instant is no record
      rintro i v - (⟨hname, -⟩ | ⟨hname, -⟩)
      · exact absurd hname (by decide)
      · exact absurd hname (by decide)
    · rintro r v hv (⟨-, htwice⟩ | ⟨hname, -⟩)
      · exact Request.not_twice hv htwice
      · exact absurd hname (by decide)
    · rintro r v hv (⟨hname, -⟩ | ⟨-, htwice⟩)
      · exact absurd hname (by decide)
      · exact Response.not_twice hv htwice

/-- The message of an error event twice, with an escape in one of the names; two requests on one
line; an elapsed time that is told by a string; and a status code twice inside an audit event. -/
theorem decode_strict_refused :
    (∃ e, ErrorEvent.shape.decode (utf8 "\x7b\"message\":1,\"\\u006dessage\":2\x7d") = .error e) ∧
      (∃ e, Request.shape.decode (utf8 "[\"/\"]" ++ utf8 " \x7b\x7d") = .error e) ∧
      Document (Response.Text .any ⟨200, ⟨1500⟩⟩) (utf8 "[200,\"1.5us\"]") ∧
      (∃ e, AuditEvent.shape.decode (utf8 "\x7b\"response\":\x7b\"code\":1,\"code\":1\x7d\x7d") =
        .error e) := by
  have hone : Numeral 1 (utf8 "1") := ⟨⟨by decide, by decide⟩, by decide +kernel⟩
  have htwo : Numeral 2 (utf8 "2") := ⟨⟨by decide, by decide⟩, by decide +kernel⟩
  have hescaped : Literal "message" (utf8 "\"\\u006dessage\"") := by
    have hhex : HexText (utf8 "006d") 'm'.toNat :=
      .digits (i := 0) (j := 0) (k := 6) (l := 13) rfl rfl rfl rfl
    have htext : CharsText ('m' :: "essage".toList) _ := .cons (.number hhex) (.raw (by simp))
    exact ⟨_, htext, by decide +kernel⟩
  have hmessages : ObjectText [("message", utf8 "1"), ("message", utf8 "2")]
      (utf8 "\x7b\"message\":1,\"\\u006dessage\":2\x7d") :=
    ⟨_, .member .nil .nil (.raw (by simp)) .nil .nil hone.valid
      (.member .nil .nil hescaped .nil .nil htwo.valid (.close .nil)), by decide +kernel⟩
  have hcodes : ObjectText [("code", utf8 "1"), ("code", utf8 "1")]
      (utf8 "\x7b\"code\":1,\"code\":1\x7d") :=
    ⟨_, .member .nil .nil (.raw (by simp)) .nil .nil hone.valid
      (.member .nil .nil (.raw (by simp)) .nil .nil hone.valid (.close .nil)), by decide +kernel⟩
  have hresponse : ObjectText [("response", utf8 "\x7b\"code\":1,\"code\":1\x7d")]
      (utf8 "\x7b\"response\":\x7b\"code\":1,\"code\":1\x7d\x7d") :=
    ⟨_, .member .nil .nil (.raw (by simp)) .nil .nil hcodes.valid (.close .nil), by decide +kernel⟩
  refine ⟨decode_strict.1.once _ ⟨[], _, [], .nil, .here hmessages (by decide +kernel), .nil, ?_⟩,
    decode_strict.2.1.alone _ _ ⟨"/", ""⟩ (by decide +kernel) ?_,
    decode_strict.2.2.1.text _ _ (by decide +kernel),
    decode_strict.2.2.2.once _ ⟨[], _, [], .nil, .member hresponse List.mem_cons_self
      (by decide +kernel) (Or.inr ⟨rfl, .here hcodes (by decide +kernel)⟩), .nil, ?_⟩⟩
  · decide +kernel
  · exact fun h => absurd (h openObject (by decide +kernel)) (by decide)
  · decide +kernel

end EventLog
