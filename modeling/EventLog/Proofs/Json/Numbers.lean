import EventLog.Proofs.Json.Written
import EventLog.Proofs.Text.Digits

/-!
# Whole numbers, written and read

A whole number is written as a row of digits that does not start with a zero unless it is one
(`WholeRow`), perhaps after a minus sign. If such a row breaks off, what is left of it is again such
a row, for a smaller number, or nothing.

* `Json.scanNumber_signed`: a written number is read back.
* `Json.scanNumber_cut`: a number that breaks off is a number or ends too early.
* `Json.written_of_number`: both, for readers that start with a number.
-/

namespace EventLog.Json

open Ascii Text Utf8

/-! ### The value of a row of digits -/

/-- The number that digits make when they are appended to a number. -/
def amount (n : ℕ) (ds : Bytes) : ℕ :=
  ds.foldl (fun n d => n * 10 + digitValue d) n

lemma amount_cons (n : ℕ) (d : UInt8) (ds : Bytes) :
    amount n (d :: ds) = amount (n * 10 + digitValue d) ds := by
  rw [amount, List.foldl_cons, amount]

lemma amount_append (n : ℕ) (ds es : Bytes) : amount n (ds ++ es) = amount (amount n ds) es :=
  List.foldl_append

lemma le_amount (n : ℕ) (ds : Bytes) : n ≤ amount n ds := by
  induction ds generalizing n with
  | nil => exact Nat.le_refl n
  | cons d ds ih =>
    have h := ih (n * 10 + digitValue d)
    rw [amount_cons]
    omega

lemma amount_le_of_prefix {ds es : Bytes} (n : ℕ) (h : ds <+: es) : amount n ds ≤ amount n es := by
  obtain ⟨t, rfl⟩ := h
  rw [amount_append]
  exact le_amount _ t

/-- Digits that make a number within 64 bits are all gathered. -/
lemma absorb_eq {n : ℕ} {ds : Bytes} (h : amount n ds < 0x10000000000000000) :
    absorb n ds = (amount n ds, []) := by
  induction ds generalizing n with
  | nil => rfl
  | cons d ds ih =>
    rw [amount_cons] at h ⊢
    have hm := le_amount (n * 10 + digitValue d) ds
    rw [absorb, if_pos (by omega), ih h]

lemma amount_encode {cs : List Char} (h : ∀ c ∈ cs, c.isDigit) (n : ℕ) :
    amount n (encode cs) = Nat.ofDigitChars 10 cs n := by
  induction cs generalizing n with
  | nil => rfl
  | cons c cs ih =>
    obtain ⟨hc, hcs⟩ := List.forall_mem_cons.1 h
    obtain ⟨hb, -, hv⟩ := byte_of_isDigit hc
    rw [encode_cons, hb, List.singleton_append, amount_cons, ih hcs, Nat.ofDigitChars_cons, hv,
      Nat.mul_comm]
    rfl

lemma amount_digits (n : ℕ) : amount 0 (encode (digits n)) = n :=
  (amount_encode (fun _ => isDigit_of_mem_digits) 0).trans (value_digits n)

lemma isDigit_of_mem_encode {cs : List Char} (h : ∀ c ∈ cs, c.isDigit) :
    ∀ b ∈ encode cs, Ascii.isDigit b := by
  induction cs with
  | nil => exact fun b hb => absurd hb List.not_mem_nil
  | cons c cs ih =>
    obtain ⟨hc, hcs⟩ := List.forall_mem_cons.1 h
    obtain ⟨hb, hd, -⟩ := byte_of_isDigit hc
    rw [encode_cons, hb, List.singleton_append]
    exact List.forall_mem_cons.2 ⟨hd, ih hcs⟩

/-! ### Rows of digits -/

/-- A row of digits as a whole number is written. -/
inductive WholeRow : Bytes → Prop
  /-- The number zero. -/
  | zero : WholeRow [Ascii.zero]
  /-- Any other number. -/
  | pos {b : UInt8} {ds : Bytes} (first : b ≠ Ascii.zero)
      (digits : ∀ d ∈ b :: ds, Ascii.isDigit d) : WholeRow (b :: ds)

lemma wholeRow_digits (n : ℕ) : WholeRow (encode (digits n)) := by
  rcases Nat.eq_zero_or_pos n with rfl | hn
  · rw [digits_zero]
    exact .zero
  · have hall := isDigit_of_mem_encode fun c => isDigit_of_mem_digits (n := n) (c := c)
    obtain ⟨c, cs, hcs, hc⟩ := digits_pos hn
    have hdigit : c.isDigit :=
      isDigit_of_mem_digits (n := n) (by rw [hcs]; exact List.mem_cons_self)
    rw [hcs, encode_cons, (byte_of_isDigit hdigit).1] at hall ⊢
    refine .pos (fun hz => hc ?_) hall
    have hnat := toNat_of_isDigit hdigit
    have heq : c.toNat = 0x30 := by
      have := congrArg UInt8.toNat hz
      rwa [toNat_byte (by omega)] at this
    rw [← Char.ofNat_toNat c, heq]

lemma digitValue_pos {b : UInt8} (hd : Ascii.isDigit b) (hb : b ≠ Ascii.zero) :
    0 < digitValue b := by
  simp only [Ascii.isDigit, Bool.and_eq_true, decide_eq_true_eq, UInt8.le_iff_toNat_le] at hd
  have hle : 0x30 ≤ b.toNat := hd.1
  have hne : b.toNat ≠ 0x30 := fun h => hb (UInt8.toNat_inj.1 h)
  rw [digitValue]
  omega

/-- A row that breaks off is nothing or again a row; the latter, if it is not zero, for a number
that is not zero. -/
lemma WholeRow.of_prefix {p ds : Bytes} (h : WholeRow ds) (hp : p <+: ds) :
    p = [] ∨ (WholeRow p ∧ (0 < amount 0 ds → 0 < amount 0 p)) := by
  cases h with
  | zero =>
    rcases List.prefix_cons_iff.1 hp with rfl | ⟨t, rfl, ht⟩
    · exact Or.inl rfl
    · rw [List.prefix_nil.1 ht]
      exact Or.inr ⟨.zero, id⟩
  | @pos b ds first digits =>
    rcases List.prefix_cons_iff.1 hp with rfl | ⟨t, rfl, ht⟩
    · exact Or.inl rfl
    · refine Or.inr ⟨.pos first fun d hd => digits d (hp.subset hd), fun _ => ?_⟩
      have hpos := digitValue_pos (digits b List.mem_cons_self) first
      have hle := le_amount (0 * 10 + digitValue b) t
      rw [amount_cons]
      omega

/-- The first byte of a number. -/
abbrev LeadsNumber (b : UInt8) : Prop := b = minus ∨ Ascii.isDigit b

lemma WholeRow.first {ds : Bytes} (h : WholeRow ds) :
    ∃ b r, ds = b :: r ∧ Ascii.isDigit b ∧ b ≠ minus := by
  have hne : ∀ b : UInt8, Ascii.isDigit b → b ≠ minus := by
    rintro b hb rfl
    exact absurd hb (by decide)
  cases h with
  | zero => exact ⟨_, _, rfl, by decide, by decide⟩
  | pos first digits =>
    have hb := digits _ List.mem_cons_self
    exact ⟨_, _, rfl, hb, hne _ hb⟩

/-- A text with which no number goes on. -/
def NumberEnds : Bytes → Prop
  | [] => True
  | b :: _ => Ascii.isDigit b = false ∧ b ≠ point ∧ isExponentLetter b = false

lemma Delimited.numberEnds {rest : Bytes} (h : Delimited rest) : NumberEnds rest := by
  cases rest with
  | nil => trivial
  | cons b r =>
    rcases h with rfl | rfl
    · exact ⟨by decide, by decide, by decide⟩
    · exact ⟨by decide, by decide, by decide⟩

lemma NumberEnds.stops {rest : Bytes} (h : NumberEnds rest) : Stops Ascii.isDigit rest := by
  cases rest with
  | nil => trivial
  | cons b r => exact h.1

lemma scanTail_ends {negative : Bool} {ds rest : Bytes} (h : NumberEnds rest) :
    scanTail negative ds rest = ofDigits negative ds rest := by
  cases rest with
  | nil => rfl
  | cons b r =>
    obtain ⟨-, hp, he⟩ := h
    rw [scanTail, if_neg hp, he, if_neg (by decide)]

/-- A row is read to its end as the number that its digits make, if the number fits. -/
lemma scanUnsigned_row {negative : Bool} {ds rest : Bytes} (h : WholeRow ds)
    (hfit : amount 0 ds < 0x10000000000000000) (hint : isInteger negative (amount 0 ds))
    (hrest : NumberEnds rest) :
    scanUnsigned negative (ds ++ rest) =
      .ok (.integer (if negative then -(amount 0 ds : ℤ) else amount 0 ds), rest) := by
  have htail : scanTail negative ds rest =
      .ok (.integer (if negative then -(amount 0 ds : ℤ) else amount 0 ds), rest) := by
    simp only [scanTail_ends hrest, ofDigits, absorb_eq hfit, hint, and_self, if_true]
  cases h with
  | zero =>
    have hstart : startsDigit rest = false := by
      cases rest with
      | nil => rfl
      | cons b r => exact hrest.1
    rw [List.singleton_append, scanUnsigned, if_pos rfl, hstart]
    exact htail
  | @pos b ds first digits =>
    obtain ⟨hb, hds⟩ := List.forall_mem_cons.1 digits
    obtain ⟨ht, hd⟩ := span_append hds hrest.stops
    rw [List.cons_append, scanUnsigned, if_neg first, if_pos hb, ht, hd]
    exact htail

/-! ### Whole numbers -/

/-- What is written for a number that fits: a row of digits, after a minus sign if the number is
negative. -/
lemma encode_signed {n : ℤ} (h : Fits64 n) :
    ∃ (negative : Bool) (ds : Bytes), encode (signed n) = (if negative then [minus] else []) ++ ds ∧
      WholeRow ds ∧ (if negative then -(amount 0 ds : ℤ) else amount 0 ds) = n ∧
      amount 0 ds ≤ 0x8000000000000000 ∧ isInteger negative (amount 0 ds) := by
  obtain ⟨h₁, h₂⟩ := h
  cases n with
  | ofNat m =>
    refine ⟨false, encode (digits m), rfl, wholeRow_digits m, ?_, ?_, rfl⟩
    · rw [amount_digits]
      rfl
    · rw [amount_digits]
      have hm : (m : ℤ) < 0x8000000000000000 := h₂
      omega
  | negSucc m =>
    have hm : m + 1 ≤ 0x8000000000000000 := by omega
    refine ⟨true, encode (digits (m + 1)), rfl, wholeRow_digits (m + 1), ?_, ?_, ?_⟩
    · rw [amount_digits]
      rfl
    · rwa [amount_digits]
    · rw [amount_digits]
      simp [isInteger, hm]

/-- Whatever is left of a number is a number that fits, unless nothing is left or just a sign. -/
lemma scanNumber_row {negative : Bool} {ds rest : Bytes} (h : WholeRow ds)
    (hle : amount 0 ds ≤ 0x8000000000000000) (hint : isInteger negative (amount 0 ds))
    (hrest : NumberEnds rest) :
    scanNumber ((if negative then [minus] else []) ++ ds ++ rest) =
      .ok (.integer (if negative then -(amount 0 ds : ℤ) else amount 0 ds), rest) := by
  have hscan := scanUnsigned_row h (by omega) hint hrest
  cases negative with
  | true => exact hscan
  | false =>
    obtain ⟨b, r, rfl, -, hb⟩ := h.first
    simp only [Bool.false_eq_true, if_false, List.nil_append, List.cons_append] at hscan ⊢
    rw [scanNumber, if_neg hb]
    exact hscan

/-- **A written number is read back.** -/
theorem scanNumber_signed {n : ℤ} (h : Fits64 n) {rest : Bytes} (hrest : NumberEnds rest) :
    scanNumber (encode (signed n) ++ rest) = .ok (.integer n, rest) := by
  obtain ⟨negative, ds, hds, hrow, hval, hle, hint⟩ := encode_signed h
  rw [hds, scanNumber_row hrow hle hint hrest, hval]

lemma leadsNumber_signed (negative : Bool) {ds : Bytes} (h : WholeRow ds) :
    ∃ b r, (if negative then [minus] else []) ++ ds = b :: r ∧ LeadsNumber b := by
  cases negative with
  | true => exact ⟨minus, ds, rfl, Or.inl rfl⟩
  | false =>
    obtain ⟨b, r, rfl, hb, -⟩ := h.first
    exact ⟨b, r, rfl, Or.inr hb⟩

/-- Fewer digits of a number that fits make one that fits. -/
lemma fits_of_prefix {negative : Bool} {p ds : Bytes} (hp : p <+: ds)
    (hpos : 0 < amount 0 ds → 0 < amount 0 p)
    (h : Fits64 (if negative then -(amount 0 ds : ℤ) else amount 0 ds))
    (hint : isInteger negative (amount 0 ds)) :
    Fits64 (if negative then -(amount 0 p : ℤ) else amount 0 p) ∧
      isInteger negative (amount 0 p) := by
  have hle := amount_le_of_prefix 0 hp
  obtain ⟨h₁, h₂⟩ := h
  cases negative with
  | true =>
    simp only [isInteger, Bool.not_true, Bool.false_or, Bool.and_eq_true, decide_eq_true_eq,
      if_true, Fits64] at *
    omega
  | false =>
    simp only [Bool.false_eq_true, if_false] at h₂
    exact ⟨⟨by simp only [Bool.false_eq_true, if_false]; omega,
      by simp only [Bool.false_eq_true, if_false]; omega⟩, rfl⟩

/-- **A number that breaks off** ends too early, or is another number that fits. -/
theorem scanNumber_cut {n : ℤ} (h : Fits64 n) {p : Bytes} (hp : CutFrom p (encode (signed n))) :
    p = [] ∨ (∃ b r, p = b :: r ∧ LeadsNumber b) ∧
      (Breaks (scanNumber p) ∨ ∃ m, Fits64 m ∧ scanNumber p = .ok (.integer m, [])) := by
  obtain ⟨negative, ds, hds, hrow, rfl, hle, hint⟩ := encode_signed h
  rw [hds] at hp
  have hsign : ∀ q, q <+: ds → q ≠ [] → p = (if negative then [minus] else []) ++ q →
      (∃ b r, p = b :: r ∧ LeadsNumber b) ∧
        (Breaks (scanNumber p) ∨ ∃ m, Fits64 m ∧ scanNumber p = .ok (.integer m, [])) := by
    rintro q hq hne rfl
    obtain ⟨hrow', hpos⟩ := (hrow.of_prefix hq).resolve_left hne
    obtain ⟨hfit, hint'⟩ := fits_of_prefix hq hpos h hint
    have hle' := amount_le_of_prefix 0 hq
    have hscan := scanNumber_row hrow' (by omega) hint' (show NumberEnds [] from trivial)
    rw [List.append_nil] at hscan
    exact ⟨leadsNumber_signed negative hrow', Or.inr ⟨_, hfit, hscan⟩⟩
  cases negative with
  | true =>
    rcases hp.cons_cases with rfl | ⟨q, rfl, hq⟩
    · exact Or.inl rfl
    · by_cases hne : q = []
      · -- only the sign is left
        subst hne
        exact Or.inr ⟨⟨minus, [], rfl, Or.inl rfl⟩, Or.inl ⟨_, rfl, rfl⟩⟩
      · -- some digits are left after the sign
        exact Or.inr (hsign q hq.1 hne rfl)
  | false =>
    by_cases hne : p = []
    · exact Or.inl hne
    · exact Or.inr (hsign p hp.1 hne rfl)

lemma visible_signed (n : ℤ) : ∀ b ∈ encode (signed n), space ≤ b := by
  have hrow : ∀ m, ∀ b ∈ encode (digits m), space ≤ b := by
    intro m b hb
    have hd := isDigit_of_mem_encode (fun c => isDigit_of_mem_digits (n := m) (c := c)) b hb
    simp only [Ascii.isDigit, Bool.and_eq_true, decide_eq_true_eq] at hd
    exact UInt8.le_trans (by decide) hd.1
  cases n with
  | ofNat m => exact hrow m
  | negSucc m =>
    intro b hb
    rcases List.mem_cons.1 hb with rfl | hb
    · decide
    · exact hrow (m + 1) b hb

lemma written_of_number {α : Type} {reader : Reader α} {f : ℤ → α} {n : ℤ} (h : Fits64 n)
    (hrun : ∀ b r m t, LeadsNumber b → Fits64 m → scanNumber (b :: r) = .ok (.integer m, t) →
      reader.run (b :: r) = .ok (f m, t))
    (hcut : ∀ b r e, LeadsNumber b → scanNumber (b :: r) = .error e →
      reader.run (b :: r) = .error e)
    (hnil : Breaks (reader.run [])) : Written reader (encode (signed n)) (f n) where
  run rest hrest := by
    obtain ⟨negative, ds, hds, hrow, -⟩ := encode_signed h
    obtain ⟨b, r, hbr, hb⟩ := leadsNumber_signed negative hrow
    have hscan := scanNumber_signed h hrest.numberEnds
    rw [hds, hbr] at hscan ⊢
    exact hrun b (r ++ rest) n rest hb h hscan
  cut p hp := by
    rcases scanNumber_cut h hp with rfl | ⟨⟨b, r, rfl, hb⟩, ⟨e, he, hc⟩ | ⟨m, hm, hscan⟩⟩
    · exact Or.inl hnil
    · exact Or.inl ⟨e, hcut b r e hb he, hc⟩
    · exact Or.inr ⟨f m, hrun b r m [] hb hm hscan⟩
  visible := visible_signed n

lemma isBlank_of_leadsNumber {b : UInt8} (h : LeadsNumber b) : isBlank b = false := by
  rcases h with rfl | h
  · decide
  · simp only [Ascii.isDigit, Bool.and_eq_true, decide_eq_true_eq, UInt8.le_iff_toNat_le] at h
    have hle : 0x30 ≤ b.toNat := h.1
    have hne : ∀ c : UInt8, c.toNat < 0x30 → b ≠ c := by
      rintro c hc rfl
      exact absurd hle (Nat.not_le.2 hc)
    simp only [isBlank, Bool.or_eq_false_iff, beq_eq_false_iff_ne]
    exact ⟨⟨⟨hne _ (by decide), hne _ (by decide)⟩, hne _ (by decide)⟩, hne _ (by decide)⟩

/-- **Status codes.** What is written for a code is read as the code. -/
theorem written_code (c : Int64) : Written .code (encode (signed c.toInt)) c := by
  have hfit : Fits64 c.toInt := ⟨c.le_toInt, c.toInt_lt⟩
  have hrun : ∀ b r, LeadsNumber b → Reader.code.run (b :: r) = codeFrom b r := fun b r hb =>
    fromFirst_cons codeFrom r (isBlank_of_leadsNumber hb)
  suffices h : Written .code (encode (signed c.toInt)) (Int64.ofInt c.toInt) by
    rwa [Int64.ofInt_toInt] at h
  refine written_of_number (f := Int64.ofInt) hfit ?_ ?_ (fromFirst_nil codeFrom)
  · intro b r m t hb hm hs
    rw [hrun b r hb, codeFrom, if_pos hb, hs]
    simp only [if_pos hm]
  · intro b r e hb hs
    rw [hrun b r hb, codeFrom, if_pos hb, hs]

/-- **Elapsed times.** What is written for an elapsed time that fits is read as that time. -/
theorem written_duration {d : Duration} (h : d.Storable) :
    Written .duration (encode (signed d.nanos)) d := by
  have hrun : ∀ b r, LeadsNumber b → Reader.duration.run (b :: r) = durationFrom b r :=
    fun b r hb => fromFirst_cons durationFrom r (isBlank_of_leadsNumber hb)
  refine written_of_number (f := Duration.mk) h ?_ ?_ (fromFirst_nil durationFrom)
  · intro b r m t hb hm hs
    rw [hrun b r hb, durationFrom, if_pos hb, hs]
    simp only [if_pos hm]
  · intro b r e hb hs
    rw [hrun b r hb, durationFrom, if_pos hb, hs]

end EventLog.Json
