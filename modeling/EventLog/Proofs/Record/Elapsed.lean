import EventLog.Proofs.Duration.Grammar
import EventLog.Proofs.Record.Spelling

/-!
# Elapsed times as numbers and as strings

A whole number of nanoseconds may stand in a record as a number or, with the unit behind it, as a
string. Both are read alike, and both are read exactly if the number fits in 64 bits, although a
number is held to that range when it is read and a string only after its parts are added up.

A number with a fraction or an exponent is not a whole number to the reader, whatever its value is,
and neither is a zero with a minus sign. None of these is an elapsed time.

* `Json.FieldText`, `Json.RecordText.spelled`: what stands for a field in a text.
* `Json.Floating`: numbers that are no whole numbers.
* `Response.decode_timed`: a response and what stands for its elapsed time.
* `Response.elapsed_spellings`: the two spellings agree, and the other numbers are refused.
-/

namespace EventLog

open Ascii Json Text Utf8

namespace Json

variable {ρ : Type}

/-! ### What stands for a field -/

/-- A text in which `v` stands for the value of a field: as a member with its name, or as the
element at its place. -/
inductive FieldText (slots : List (Slot ρ)) (key : String) (v t : Bytes) : Prop
  | member {ms : List (String × Bytes)} (text : ObjectText ms t) (mem : (key, v) ∈ ms)
  | element {vs : List Bytes} (text : ListText vs t) (mem : (key, v) ∈ (names slots).zip vs)

lemma FieldText.valid {slots : List (Slot ρ)} {key : String} {v t : Bytes}
    (h : FieldText slots key v t) : Valid .value t := by
  cases h with
  | member text mem => exact text.valid
  | element text mem => exact text.valid

/-- What stands for a field in an object is the value of a member with its name. -/
lemma ObjectText.fieldText_iff {slots : List (Slot ρ)} {ms : List (String × Bytes)} {key : String}
    {v t : Bytes} (h : ObjectText ms t) : FieldText slots key v t ↔ (key, v) ∈ ms := by
  constructor
  · intro hv
    cases hv with
    | member text mem => exact h.unique text ▸ mem
    | element text mem => exact (h.not_list text).elim
  · exact .member h

/-- What stands for a field in the text of a record is a spelling of its value. -/
lemma RecordText.spelled {shape : Shape ρ} {slots : List (Slot ρ)} (h : shape.Has slots)
    {slot : Slot ρ} (hslot : slot ∈ slots) {x r : ρ} {v t : Bytes} (ht : RecordText slots x r t)
    (hv : FieldText slots slot.field.name v t) : slot.Spells (slot.get r) v := by
  cases ht with
  | object text told => exact told.spelled hslot (text.fieldText_iff.1 hv)
  | list text filled =>
    cases hv with
    | member text' mem => exact (text'.not_list text).elim
    | element text' mem =>
      obtain rfl := text.unique text'
      obtain ⟨other, hother, hname, hspells⟩ := filled.spelled mem
      obtain rfl := h.eq_of_name hother hslot hname
      exact hspells

/-! ### Written objects -/

lemma members_membersBytes {es : List (Entry ρ)} (h : ∀ e ∈ es, Valid .value (encode e.text))
    (first : Bool) :
    Members first (es.map fun e => (e.field.name, encode e.text)) (membersBytes first es) := by
  induction es generalizing first with
  | nil => exact .close (w := []) .nil
  | cons e es ih =>
    obtain ⟨he, hes⟩ := List.forall_mem_cons.1 h
    have hkey := literal_stringText e.field.name
    rw [encode_stringText] at hkey
    have hmember : Members first _ _ := .member .nil .nil hkey .nil .nil he (ih hes false)
    simpa [membersBytes, Entry.bytes] using hmember

lemma objectText_textOf {es : List (Entry ρ)} (h : ∀ e ∈ es, Valid .value (encode e.text)) :
    ObjectText (es.map fun e => (e.field.name, encode e.text)) (encode (textOf es)) :=
  ⟨_, members_membersBytes h true, encode_objectText es⟩

lemma objectText_single (key : String) {v : Bytes} (h : Valid .value v) :
    ObjectText [(key, v)]
      (openObject :: (encode (stringText key) ++ colon :: (v ++ [closeObject]))) :=
  ⟨_, .member .nil .nil (literal_stringText key) .nil .nil h (.close .nil), rfl⟩

lemma listText_single {v : Bytes} (h : Valid .value v) :
    ListText [v] (openList :: (v ++ [closeList])) :=
  ⟨_, .element .nil .nil h (.close .nil), rfl⟩

/-! ### Whole numbers and other numbers -/

/-- A number with a fraction or an exponent, or a zero with a minus sign. -/
inductive Floating : Bytes → Prop
  | point {sign whole fraction exponent : Bytes} (sign_mem : sign ∈ [[], [minus]])
      (row : WholeRow whole) (fraction_text : FractionText fraction)
      (exponent_text : ExponentText exponent) (some_part : fraction ≠ [] ∨ exponent ≠ []) :
      Floating (sign ++ (whole ++ (fraction ++ exponent)))
  | zero : Floating [minus, Ascii.zero]

lemma Floating.number {t : Bytes} (h : Floating t) : NumberText t := by
  cases h with
  | point sign_mem row fraction_text exponent_text some_part =>
    exact ⟨_, _, sign_mem, ⟨_, _, _, row, fraction_text, exponent_text, rfl⟩, rfl⟩
  | zero => exact ⟨[minus], _, by simp, unsigned_of_wholeRow .zero, rfl⟩

lemma leadsNumber_of_mem_signed {n : ℤ} (h : Fits64 n) :
    ∀ b ∈ encode (signed n), LeadsNumber b := by
  obtain ⟨negative, ds, hds, hrow, -⟩ := encode_signed h
  have hdigits : ∀ b ∈ ds, Ascii.isDigit b := by
    cases hrow with
    | zero => exact List.forall_mem_singleton.2 (by decide)
    | pos first digits => exact digits
  rw [hds]
  refine List.forall_mem_append.2 ⟨?_, fun b hb => Or.inr (hdigits b hb)⟩
  cases negative with
  | true => exact List.forall_mem_singleton.2 (Or.inl rfl)
  | false => exact fun b hb => absurd hb List.not_mem_nil

/-- A fraction or an exponent has a mark in it that no whole number has. -/
lemma exists_mark {fraction exponent : Bytes} (hf : FractionText fraction)
    (he : ExponentText exponent) (h : fraction ≠ [] ∨ exponent ≠ []) :
    ∃ b ∈ fraction ++ exponent, ¬ LeadsNumber b := by
  have hletters : ∀ b ∈ [byte 'e', byte 'E'], ¬ LeadsNumber b :=
    List.forall_mem_cons.2 ⟨by decide, List.forall_mem_singleton.2 (by decide)⟩
  rcases hf with rfl | ⟨ds, -, rfl⟩
  · rcases he with rfl | ⟨e, sign, ds, hletter, -, -, rfl⟩
    · simp at h
    · exact ⟨e, by simp, hletters e hletter⟩
  · exact ⟨point, by simp, by decide⟩

/-- No whole number is written like one of these. -/
lemma Floating.not_numeral {t : Bytes} (h : Floating t) (n : ℤ) : ¬ Numeral n t := by
  rintro ⟨hfit, ht⟩
  cases h with
  | point sign_mem row fraction_text exponent_text some_part =>
    obtain ⟨b, hb, hmark⟩ := exists_mark fraction_text exponent_text some_part
    refine hmark (leadsNumber_of_mem_signed hfit b ?_)
    rw [← ht]
    exact List.mem_append_right _ (List.mem_append_right _ hb)
  | zero =>
    -- the text of zero has no sign
    obtain ⟨negative, ds, hds, hrow, -, -, hint⟩ := encode_signed hfit
    rw [hds] at ht
    cases negative with
    | true =>
      obtain rfl : [Ascii.zero] = ds := (List.cons.inj ht).2
      exact absurd hint (by decide)
    | false =>
      obtain ⟨b, r, rfl, -, hb⟩ := hrow.first
      exact hb (List.cons.inj ht).1.symm

lemma NumberText.first {t : Bytes} (h : NumberText t) : ∃ b s, t = b :: s ∧ LeadsNumber b := by
  obtain ⟨sign, s, hsign, ⟨whole, fraction, exponent, hrow, -, -, rfl⟩, rfl⟩ := h
  obtain ⟨b, r, rfl, hb, -⟩ := hrow.first
  rcases List.mem_cons.1 hsign with rfl | hsign
  · exact ⟨b, _, rfl, Or.inr hb⟩
  · rw [List.mem_singleton.1 hsign]
    exact ⟨minus, _, rfl, Or.inl rfl⟩

/-- **No elapsed time** is spelled like one of these. -/
lemma Floating.not_elapsedText {t : Bytes} (h : Floating t) (d : Duration) : ¬ ElapsedText d t := by
  rintro (hnumeral | ⟨x, hx, -⟩)
  · exact h.not_numeral _ hnumeral
  · obtain ⟨b, s, rfl, hb⟩ := h.number.first
    exact hx.not_leadsNumber hb

end Json

/-! ### Whole numbers of nanoseconds -/

namespace Duration

/-- A whole number of nanoseconds is read from a string exactly if it fits. -/
lemma parse_signed (n : ℤ) : parse (String.ofList (signed n ++ ['n', 's'])) =
    if Fits64 n then .ok ⟨n⟩ else .error .overflow := by
  have hone : ∀ k, AmountsText [Amount.ofNat k .nanosecond] (digits k ++ ['n', 's']) := by
    intro k
    have hunit : AmountText (Amount.ofNat k .nanosecond) (digits k ++ ['n', 's']) :=
      .whole rfl (List.mem_singleton.2 rfl)
    simpa using AmountsText.cons hunit .nil
  have hnanos : ∀ k, (Amount.ofNat k .nanosecond).nanos = k := by
    intro k
    show value (digits k) * 1 + value [] * 1 / 10 ^ 0 = k
    rw [value_digits, Nat.mul_one]
    rfl
  cases n with
  | ofNat k =>
    have hplain : [] ∈ signs false := List.mem_cons_self
    have hspells : Spells false [Amount.ofNat k .nanosecond]
        (String.ofList (signed (Int.ofNat k) ++ ['n', 's'])) :=
      .amounts hplain (hone k) String.toList_ofList
    rw [parse_of_spells hspells, ofAmounts, signedSum, List.map_cons, hnanos]
    simp
  | negSucc k =>
    have hspells : Spells true [Amount.ofNat (k + 1) .nanosecond]
        (String.ofList (signed (Int.negSucc k) ++ ['n', 's'])) :=
      .amounts (List.mem_singleton.2 rfl) (hone (k + 1)) String.toList_ofList
    rw [parse_of_spells hspells, ofAmounts, signedSum, List.map_cons, hnanos]
    simp [Int.negSucc_eq]

end Duration

namespace Json

/-- Of the numbers only the one with its nanoseconds spells an elapsed time. -/
lemma elapsedText_number {n : ℤ} {d : Duration} :
    ElapsedText d (encode (signed n)) ↔ Fits64 n ∧ d = ⟨n⟩ := by
  constructor
  · rintro (⟨hfit, he⟩ | ⟨x, hx, -⟩)
    · obtain rfl := signed_injective (encode_injective he)
      exact ⟨hfit, rfl⟩
    · obtain ⟨b, s, hs, hb⟩ := (numberText_signed n).first
      rw [hs] at hx
      exact absurd hb hx.not_leadsNumber
  · rintro ⟨hfit, rfl⟩
    exact Or.inl ⟨hfit, rfl⟩

/-- Of the strings with a whole number of nanoseconds only the one with its own does. -/
lemma elapsedText_string {n : ℤ} {t : Bytes}
    (ht : Literal (String.ofList (signed n ++ ['n', 's'])) t) {d : Duration} :
    ElapsedText d t ↔ Fits64 n ∧ d = ⟨n⟩ := by
  have hparse := Duration.parse_signed n
  constructor
  · rintro (hnumeral | ⟨x, hx, hd⟩)
    · obtain ⟨b, s, rfl, hb⟩ := (hnumeral.2 ▸ numberText_signed d.nanos : NumberText t).first
      exact absurd hb ht.not_leadsNumber
    · rw [← hx.unique ht, hd] at hparse
      split_ifs at hparse with hfit
      exact ⟨hfit, Except.ok.inj hparse⟩
  · rintro ⟨hfit, rfl⟩
    rw [if_pos hfit] at hparse
    exact Or.inr ⟨_, ht, hparse⟩

end Json

/-! ### Responses -/

namespace Response

/-- The text of a response with this status code, in which `v` stands for the elapsed time. -/
inductive TimedText (code : Int64) (v t : Bytes) : Prop
  /-- An object with any other members. Without a member for the code the code is zero. -/
  | object {ms : List (String × Bytes)} (text : ObjectText ms t)
      (once : (namedKeys (slots .any) ms).Nodup) (time : ("time", v) ∈ ms)
      (status : (∃ u, ("code", u) ∈ ms ∧ Numeral code.toInt u) ∨
        ("code" ∉ ms.map Prod.fst ∧ code = 0))
  /-- A list. -/
  | list {u : Bytes} (text : ListText [u, v] t) (status : Numeral code.toInt u)

variable {code : Int64} {d : Duration} {r : Response} {v t bytes : Bytes}

lemma TimedText.field (h : TimedText code v t) : FieldText (slots .any) "time" v t := by
  cases h with
  | object text once time status => exact .member text time
  | list text status => exact .element text (List.mem_cons_of_mem _ List.mem_cons_self)

lemma TimedText.written {u : Bytes} (hu : Numeral code.toInt u) (hv : Valid .value v) :
    TimedText code v (openList :: (u ++ comma :: (v ++ [closeList]))) :=
  .list ⟨_, .element .nil .nil hu.valid (.element .nil .nil hv (.close .nil)), rfl⟩ hu

lemma TimedText.text (h : TimedText code v t) (hv : ElapsedText d v) :
    Response.Text .any ⟨code, d⟩ t := by
  cases h with
  | object text once time status =>
    exact .object text ⟨once, List.forall_mem_cons.2 ⟨status, List.forall_mem_singleton.2
      (Or.inl ⟨v, time, hv⟩)⟩⟩
  | list text status => exact .list text (.value status (.value hv (.rest fun _ h =>
      absurd h List.not_mem_nil)))

lemma elapsedText_of_text (h : r.Text .any t) (hv : FieldText (slots .any) "time" v t) :
    ElapsedText r.elapsed v :=
  RecordText.spelled (has_slots .any) (List.mem_cons_of_mem _ List.mem_cons_self) h hv

lemma elapsedText_of_decode (hd : shape.decode bytes = .ok r)
    (h : Document (FieldText (slots .any) "time" v) bytes) : ElapsedText r.elapsed v := by
  have hdocument := Shape.document_of_decode (has_slots .any) (accepts Style.any_accepted) admits hd
  obtain ⟨t, htext, hfield⟩ := hdocument.both h RecordText.valid FieldText.valid
  exact elapsedText_of_text htext hfield

/-- **A response is decoded exactly if what stands for its elapsed time spells one.** -/
lemma decode_timed (h : Document (TimedText code v) bytes) :
    shape.decode bytes = .ok r ↔ ElapsedText r.elapsed v ∧ r = ⟨code, r.elapsed⟩ := by
  obtain ⟨w, t, w', hw, ht, hw', htext⟩ := h
  have hdecode : ∀ {d}, ElapsedText d v → shape.decode bytes = .ok ⟨code, d⟩ := fun hd =>
    Shape.decode_spelled (has_slots .any) (accepts Style.any_accepted)
      ⟨w, t, w', hw, ht.text hd, hw', htext⟩
  constructor
  · intro hd
    have hv := elapsedText_of_decode hd ⟨w, t, w', hw, ht.field, hw', htext⟩
    exact ⟨hv, Except.ok.inj (hd.symm.trans (hdecode hv))⟩
  · rintro ⟨hv, hr⟩
    rw [hr]
    exact hdecode hv

lemma numeral_code (code : Int64) : Numeral code.toInt (encode (signed code.toInt)) :=
  ⟨⟨code.le_toInt, code.toInt_lt⟩, rfl⟩

lemma objectText (h : r.elapsed.Storable) :
    ObjectText (r.entries.map fun e => (e.field.name, encode e.text)) (encode (textOf r.entries)) :=
  have htime : Numeral r.elapsed.nanos (encode (signed r.elapsed.nanos)) := ⟨h, rfl⟩
  objectText_textOf (List.forall_mem_cons.2 ⟨(numeral_code r.code).valid,
    List.forall_mem_singleton.2 htime.valid⟩)

lemma timedText_document {n : ℤ} (code : Int64) (h : Fits64 n) :
    ∃ document, Response.document ⟨code, ⟨n⟩⟩ = .ok document ∧
      TimedText code (encode (signed n)) (encode document) := by
  have honce : ["code", "time"].Nodup := by decide
  refine ⟨_, (document_eq _).trans (if_pos h), .object (objectText h) (honce.filter _) ?_ ?_⟩
  · exact List.mem_cons_of_mem _ List.mem_cons_self
  · exact Or.inl ⟨_, List.mem_cons_self, numeral_code code⟩

end Response

lemma AuditEvent.elapsedText_of_decode {e : AuditEvent} {v bytes : Bytes}
    (hd : AuditEvent.shape.decode bytes = .ok e)
    (h : Document (fun t => ∃ u, FieldText (AuditEvent.slots .any) "response" u t ∧
      FieldText (Response.slots .any) "time" v u) bytes) :
    ElapsedText e.response.elapsed v := by
  have hdocument := Shape.document_of_decode (AuditEvent.has_slots .any)
    (AuditEvent.accepts Style.any_accepted) AuditEvent.admits hd
  obtain ⟨t, htext, u, hresponse, htime⟩ := hdocument.both h RecordText.valid
    fun ⟨_, hu, _⟩ => hu.valid
  have hr : e.response.Text .any u := RecordText.spelled (AuditEvent.has_slots .any)
    (List.mem_cons_of_mem _ (List.mem_cons_of_mem _ List.mem_cons_self)) htext hresponse
  exact Response.elapsedText_of_text hr htime

/-- **Elapsed times as numbers and as strings.** Of the texts of a response that tell a whole number
of nanoseconds as a number and as a string, the one is decoded exactly if the other is, which is if
the number fits in 64 bits. Both are decoded as the same response, and what is written for it has
the number again. No other number is taken for an elapsed time, neither in a response by itself nor
in that of an audit event. -/
theorem Response.elapsed_spellings :
    (∀ (n : ℤ) (code : Int64) (string bytes bytes' : Bytes),
      Literal (String.ofList (signed n ++ ['n', 's'])) string →
      Document (TimedText code (encode (signed n))) bytes →
      Document (TimedText code string) bytes' →
        ((∃ r, Response.shape.decode bytes = .ok r) ↔ Fits64 n) ∧
        ((∃ r, Response.shape.decode bytes' = .ok r) ↔ Fits64 n) ∧
        (Fits64 n → Response.shape.decode bytes = .ok ⟨code, ⟨n⟩⟩ ∧
          Response.shape.decode bytes' = .ok ⟨code, ⟨n⟩⟩ ∧
          ∃ document, Response.document ⟨code, ⟨n⟩⟩ = .ok document ∧
            TimedText code (encode (signed n)) (encode document))) ∧
      ∀ v, Floating v →
        (∀ bytes, Document (FieldText (Response.slots .any) "time" v) bytes →
          ∃ e, Response.shape.decode bytes = .error e) ∧
        ∀ bytes, Document (fun t => ∃ u, FieldText (AuditEvent.slots .any) "response" u t ∧
            FieldText (Response.slots .any) "time" v u) bytes →
          ∃ e, AuditEvent.shape.decode bytes = .error e := by
  constructor
  · intro n code string bytes bytes' hstring hbytes hbytes'
    have hiff : ∀ r, Response.shape.decode bytes = .ok r ↔ Fits64 n ∧ r = ⟨code, ⟨n⟩⟩ := by
      intro r
      rw [decode_timed hbytes, elapsedText_number, and_assoc]
      refine and_congr_right fun _ => ⟨?_, ?_⟩
      · rintro ⟨hn, hr⟩
        rwa [hn] at hr
      · rintro rfl
        exact ⟨rfl, rfl⟩
    have hiff' : ∀ r, Response.shape.decode bytes' = .ok r ↔ Fits64 n ∧ r = ⟨code, ⟨n⟩⟩ := by
      intro r
      rw [← hiff, decode_timed hbytes', decode_timed hbytes, elapsedText_string hstring,
        elapsedText_number]
    refine ⟨?_, ?_, fun h => ⟨(hiff _).2 ⟨h, rfl⟩, (hiff' _).2 ⟨h, rfl⟩,
      timedText_document code h⟩⟩
    · simp [hiff]
    · simp [hiff']
  · intro v hv
    refine ⟨fun bytes h => ?_, fun bytes h => ?_⟩
    · cases hd : Response.shape.decode bytes with
      | error e => exact ⟨e, rfl⟩
      | ok r => exact absurd (elapsedText_of_decode hd h) (hv.not_elapsedText _)
    · cases hd : AuditEvent.shape.decode bytes with
      | error e => exact ⟨e, rfl⟩
      | ok e => exact absurd (AuditEvent.elapsedText_of_decode hd h) (hv.not_elapsedText _)

/-- The least elapsed time in both spellings, the number after the greatest one in both, and the
number one with an exponent. -/
theorem Response.elapsed_spellings_limits :
    let least : Response := ⟨-1, ⟨-0x8000000000000000⟩⟩
    Response.shape.decode (utf8 "\x7b\"time\":-9223372036854775808,\"code\":-1\x7d") = .ok least ∧
      Response.shape.decode (utf8 "[-1,\"-9223372036854775808ns\"]") = .ok least ∧
      (¬ ∃ r, Response.shape.decode (utf8 "[-1,9223372036854775808]") = .ok r) ∧
      (¬ ∃ r, Response.shape.decode (utf8 "[-1,\"9223372036854775808ns\"]") = .ok r) ∧
      ∃ e, AuditEvent.shape.decode (utf8 "\x7b\"response\":\x7b\"time\":1e0\x7d\x7d") =
        .error e := by
  intro least
  have hcode : Numeral (-1 : Int64).toInt (utf8 "-1") := ⟨⟨by decide, by decide⟩, by decide +kernel⟩
  have hnumber : ∀ n : ℤ, Valid .value (encode (signed n)) := fun n => .number (numberText_signed n)
  have hlist : ∀ v t, Valid .value v →
      openList :: (utf8 "-1" ++ comma :: (v ++ [closeList])) = t →
        Document (TimedText (-1) v) t := by
    rintro v t hv rfl
    exact .plain (.written hcode hv)
  have hstring (n : ℤ) := literal_stringText (String.ofList (signed n ++ ['n', 's']))
  have hmembers : ObjectText [("time", encode (signed (-0x8000000000000000))), ("code", utf8 "-1")]
      (utf8 "\x7b\"time\":-9223372036854775808,\"code\":-1\x7d") :=
    ⟨_, .member .nil .nil (.raw (by simp)) .nil .nil (hnumber _)
      (.member .nil .nil (.raw (by simp)) .nil .nil hcode.valid (.close .nil)), by decide +kernel⟩
  have hobject : Document (TimedText (-1) (encode (signed (-0x8000000000000000))))
      (utf8 "\x7b\"time\":-9223372036854775808,\"code\":-1\x7d") :=
    .plain (.object hmembers (by decide +kernel) List.mem_cons_self (Or.inl ⟨_, by simp, hcode⟩))
  have hone : Floating (utf8 "1e0") := by
    have hrow : WholeRow [byte '1'] := .pos (by decide) (by decide +kernel)
    have hzero : DigitRow [Ascii.zero] :=
      ⟨List.cons_ne_nil _ _, List.forall_mem_singleton.2 (by decide)⟩
    have hexponent : ExponentText (utf8 "e0") :=
      Or.inr ⟨byte 'e', [], _, by decide, by decide, hzero, by decide⟩
    have htext : utf8 "1e0" = [] ++ ([byte '1'] ++ ([] ++ utf8 "e0")) := by decide +kernel
    rw [htext]
    exact .point List.mem_cons_self hrow (Or.inl rfl) hexponent (Or.inr (by decide))
  have htime := objectText_single "time" (.number hone.number)
  have hnested := objectText_single "response" htime.valid
  have hrefused := (elapsed_spellings.2 _ hone).2 _
    (.plain ⟨_, .member hnested List.mem_cons_self, .member htime List.mem_cons_self⟩)
  have hbytes : openObject :: (encode (stringText "response") ++ colon ::
      ((openObject :: (encode (stringText "time") ++ colon :: (utf8 "1e0" ++ [closeObject]))) ++
        [closeObject])) = utf8 "\x7b\"response\":\x7b\"time\":1e0\x7d\x7d" := by decide +kernel
  rw [hbytes] at hrefused
  have hfits : Fits64 (-0x8000000000000000) := by decide
  have hnot : ¬ Fits64 0x8000000000000000 := by decide
  obtain ⟨-, -, hread⟩ := elapsed_spellings.1 _ (-1) _ _ _ (hstring _) hobject
    (hlist _ (utf8 "[-1,\"-9223372036854775808ns\"]") (hstring _).valid (by decide +kernel))
  obtain ⟨hlong, hlong', -⟩ := elapsed_spellings.1 0x8000000000000000 (-1) _ _ _ (hstring _)
    (hlist _ (utf8 "[-1,9223372036854775808]") (hnumber _) (by decide +kernel))
    (hlist _ (utf8 "[-1,\"9223372036854775808ns\"]") (hstring _).valid (by decide +kernel))
  exact ⟨(hread hfits).1, (hread hfits).2.1, mt hlong.1 hnot, mt hlong'.1 hnot, hrefused⟩

end EventLog
