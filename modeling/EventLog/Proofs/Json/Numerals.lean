import EventLog.Proofs.Json.Grammar

/-!
# Numbers and what they stand for

A whole number is read from the one text that is written for it and from no other, and a number that
nobody wants to know is passed over exactly if it is well formed. A number ends where no number goes
on (`NumberEnds`), so what is read of it is all of it.

* `Json.scanNumber_integer`: whole numbers that are read.
* `Json.skipUnsigned_sound`, `Json.skipUnsigned_complete`: numbers that are passed over.
-/

namespace EventLog.Json

open Ascii Utf8 Text

/-! ### Whole numbers that are read -/

lemma absorb_nil {n m : ℕ} {ds : Bytes} (h : absorb n ds = (m, [])) : m = amount n ds := by
  induction ds generalizing n with
  | nil => exact (Prod.mk.inj h).1.symm
  | cons d ds ih =>
    simp only [absorb] at h
    split_ifs at h with hm
    · rw [amount_cons]
      exact ih h
    · cases (Prod.mk.inj h).2

lemma ofScientific_float {negative : Bool} {digits : ℕ} {power : ℤ} {s r : Bytes} {n : ℤ} :
    ofScientific negative digits power s ≠ .ok (.integer n, r) := by
  unfold ofScientific
  split <;> exact fun h => nomatch h

lemma scanExponent_float {negative : Bool} {digits : ℕ} {power : ℤ} {s r : Bytes} {n : ℤ} :
    scanExponent negative digits power s ≠ .ok (.integer n, r) := by
  simp only [scanExponent]
  split
  · exact nofun
  · split
    · split
      · exact ofScientific_float
      · split
        · exact fun h => nomatch h
        · exact nofun
    · exact nofun

/-- Of the ways to go on after the whole part, only the end makes a whole number. -/
lemma scanTail_integer {negative : Bool} {whole s r : Bytes} {n : ℤ}
    (h : scanTail negative whole s = .ok (.integer n, r)) :
    ofDigits negative whole s = .ok (.integer n, r) := by
  cases s with
  | nil => exact h
  | cons b s =>
    simp only [scanTail] at h
    split_ifs at h
    · simp only [scanFraction] at h
      split_ifs at h
      cases hs : s.dropWhile Ascii.isDigit with
      | nil =>
        rw [hs] at h
        exact absurd h ofScientific_float
      | cons c t =>
        rw [hs] at h
        simp only [scanPower] at h
        split_ifs at h
        · exact absurd h scanExponent_float
        · exact absurd h ofScientific_float
    · exact absurd h scanExponent_float
    · exact h

lemma ofDigits_integer {negative : Bool} {whole s r : Bytes} {n : ℤ}
    (h : ofDigits negative whole s = .ok (.integer n, r)) :
    s = r ∧ isInteger negative (amount 0 whole) ∧
      n = if negative then -(amount 0 whole : ℤ) else amount 0 whole := by
  rcases ha : absorb 0 whole with ⟨m, beyond⟩
  simp only [ofDigits, ha] at h
  split_ifs at h with hm hneg
  · obtain ⟨rfl, hint⟩ := hm
    obtain rfl := absorb_nil ha
    cases h
    exact ⟨rfl, hint, (if_pos hneg).symm⟩
  · obtain ⟨rfl, hint⟩ := hm
    obtain rfl := absorb_nil ha
    cases h
    exact ⟨rfl, hint, (if_neg hneg).symm⟩
  · exact absurd h ofScientific_float

/-- The part of a number before its fraction is a row of digits without zeros in front. -/
lemma wholeRow_takeWhile {b : UInt8} {s : Bytes} (hb : Ascii.isDigit b) (hz : b ≠ zero) :
    WholeRow (b :: s.takeWhile Ascii.isDigit) :=
  .pos hz (List.forall_mem_cons.2 ⟨hb, fun _ hd => List.mem_takeWhile_imp hd⟩)

lemma scanUnsigned_integer {negative : Bool} {s r : Bytes} {n : ℤ}
    (h : scanUnsigned negative s = .ok (.integer n, r)) :
    ∃ ds, WholeRow ds ∧ s = ds ++ r ∧ isInteger negative (amount 0 ds) ∧
      n = if negative then -(amount 0 ds : ℤ) else amount 0 ds := by
  cases s with
  | nil => cases h
  | cons b s =>
    simp only [scanUnsigned] at h
    split_ifs at h with hz hd hd
    · obtain ⟨rfl, hint⟩ := ofDigits_integer (scanTail_integer h)
      exact ⟨[b], hz ▸ .zero, rfl, hint⟩
    · obtain ⟨hr, hint⟩ := ofDigits_integer (scanTail_integer h)
      refine ⟨_, wholeRow_takeWhile hd hz, ?_, hint⟩
      rw [← hr, List.cons_append, List.takeWhile_append_dropWhile]

lemma encodeChar_digitValue {d : UInt8} (h : Ascii.isDigit d) :
    String.utf8EncodeChar (Nat.digitChar (digitValue d)) = [d] := by
  have hall : ∀ k < 10, String.utf8EncodeChar (Nat.digitChar k) = [UInt8.ofNat (0x30 + k)] := by
    decide
  simp only [Ascii.isDigit, Bool.and_eq_true, decide_eq_true_eq, UInt8.le_iff_toNat_le] at h
  have h₁ : 0x30 ≤ d.toNat := h.1
  have h₂ : d.toNat ≤ 0x39 := h.2
  rw [digitValue, hall _ (by omega), show 0x30 + (d.toNat - 0x30) = d.toNat by omega,
    UInt8.ofNat_toNat]

lemma digitValue_lt {d : UInt8} (h : Ascii.isDigit d) : digitValue d < 10 := by
  simp only [Ascii.isDigit, Bool.and_eq_true, decide_eq_true_eq, UInt8.le_iff_toNat_le] at h
  have h₂ : d.toNat ≤ 0x39 := h.2
  rw [digitValue]
  omega

lemma digits_snoc {n k : ℕ} (hn : 0 < n) (hk : k < 10) :
    digits (n * 10 + k) = digits n ++ [Nat.digitChar k] := by
  rw [digits, Nat.toDigits_of_base_le (by decide) (by omega),
    show (n * 10 + k) / 10 = n by omega, show (n * 10 + k) % 10 = k by omega]
  rfl

lemma WholeRow.eq_digits {ds : Bytes} (h : WholeRow ds) : ds = encode (digits (amount 0 ds)) := by
  cases h with
  | zero => decide
  | @pos b ds first hall =>
    -- from the right, since the last digit is what the division by ten leaves
    induction ds using List.reverseRecOn with
    | nil =>
      obtain ⟨hb, -⟩ := List.forall_mem_cons.1 hall
      have hdig : digits (amount 0 [b]) = [Nat.digitChar (digitValue b)] := by
        rw [amount_cons, Nat.zero_mul, Nat.zero_add]
        exact Nat.toDigits_of_lt_base (digitValue_lt hb)
      rw [hdig, encode_cons, encodeChar_digitValue hb]
      rfl
    | append_singleton ds d ih =>
      have hds : ∀ x ∈ b :: ds, Ascii.isDigit x := fun x hx => hall x (by
        rw [← List.cons_append]
        exact List.mem_append_left _ hx)
      have hd : Ascii.isDigit d := hall d (by simp)
      have hpos : 0 < amount 0 (b :: ds) := by
        have hb := digitValue_pos (hds b List.mem_cons_self) first
        have hle := le_amount (0 * 10 + digitValue b) ds
        rw [amount_cons]
        omega
      have hsum : amount 0 (b :: (ds ++ [d])) = amount 0 (b :: ds) * 10 + digitValue d := by
        rw [← List.cons_append, amount_append, amount_cons]
        rfl
      rw [hsum, digits_snoc hpos (digitValue_lt hd), encode_append, ← ih hds, encode_cons,
        encodeChar_digitValue hd]
      simp

/-- **A whole number is read from no other text** than the one that is written for it. -/
theorem scanNumber_integer {s r : Bytes} {n : ℤ} (h : scanNumber s = .ok (.integer n, r)) :
    s = encode (signed n) ++ r := by
  cases s with
  | nil => cases h
  | cons b s =>
    simp only [scanNumber] at h
    split_ifs at h with hb
    · obtain ⟨ds, hds, rfl, hint, rfl⟩ := scanUnsigned_integer h
      obtain ⟨k, hk⟩ : ∃ k, amount 0 ds = k + 1 := by
        simp only [isInteger, Bool.not_true, Bool.false_or, Bool.and_eq_true,
          decide_eq_true_eq] at hint
        exact ⟨amount 0 ds - 1, by omega⟩
      have hsigned : signed (if true then -(amount 0 ds : ℤ) else amount 0 ds) =
          '-' :: digits (amount 0 ds) := by
        rw [if_pos rfl, hk]
        rfl
      have hminus : String.utf8EncodeChar '-' = [minus] := by decide
      rw [hsigned, encode_cons, hminus, ← hds.eq_digits, hb]
      rfl
    · obtain ⟨ds, hds, hs, -, rfl⟩ := scanUnsigned_integer h
      rw [hs]
      exact congrArg (· ++ r) hds.eq_digits

/-! ### Numbers that are passed over -/

lemma takeWhile_digits {ds r : Bytes} (h : ∀ d ∈ ds, Ascii.isDigit d) (hr : NumberEnds r) :
    (ds ++ r).dropWhile Ascii.isDigit = r := by
  refine (span_append h ?_).2
  cases r with
  | nil => trivial
  | cons b r => exact hr.1

lemma exponentSign_sound (s : Bytes) :
    ∃ sign ∈ ([[], [plus], [minus]] : List Bytes), s = sign ++ (exponentSign s).2 := by
  cases s with
  | nil => exact ⟨[], by simp, rfl⟩
  | cons b s =>
    simp only [exponentSign]
    split_ifs with hp hm
    · exact ⟨[plus], by simp, by rw [hp]; rfl⟩
    · exact ⟨[minus], by simp, by rw [hm]; rfl⟩
    · exact ⟨[], by simp, rfl⟩

lemma exponentSign_append {sign s : Bytes} {d : UInt8} (hd : Ascii.isDigit d)
    (h : sign ∈ ([[], [plus], [minus]] : List Bytes)) :
    (exponentSign (sign ++ d :: s)).2 = d :: s := by
  have hne : ∀ c : UInt8, Ascii.isDigit c = false → d ≠ c := by
    rintro c hc rfl
    rw [hd] at hc
    cases hc
  simp only [List.mem_cons, List.not_mem_nil, or_false] at h
  rcases h with rfl | rfl | rfl
  · rw [List.nil_append, exponentSign, if_neg (hne plus (by decide)),
      if_neg (hne minus (by decide))]
  · rfl
  · rfl

lemma digitRow_takeWhile {b : UInt8} {s : Bytes} (hb : Ascii.isDigit b) :
    DigitRow (b :: s.takeWhile Ascii.isDigit) :=
  ⟨List.cons_ne_nil _ _, List.forall_mem_cons.2 ⟨hb, fun _ hd => List.mem_takeWhile_imp hd⟩⟩

lemma isExponentLetter_iff {b : UInt8} : isExponentLetter b ↔ b ∈ [byte 'e', byte 'E'] := by
  simp [isExponentLetter]

lemma skipExponent_sound {s r : Bytes} (h : skipExponent s = .ok r) :
    ∃ t, ExponentText t ∧ s = t ++ r := by
  cases s with
  | nil =>
    cases h
    exact ⟨[], Or.inl rfl, rfl⟩
  | cons b s =>
    simp only [skipExponent] at h
    split_ifs at h with he
    · obtain ⟨sign, hsign, hs⟩ := exponentSign_sound s
      rcases ht : (exponentSign s).2 with _ | ⟨d, t⟩
      · rw [ht] at h
        cases h
      · rw [ht] at h hs
        simp only [skipExponentDigits] at h
        split_ifs at h with hd
        cases h
        refine ⟨_, Or.inr ⟨b, sign, _, isExponentLetter_iff.1 he, hsign,
          digitRow_takeWhile (s := t) hd, rfl⟩, ?_⟩
        rw [hs, List.cons_append, List.append_assoc, List.cons_append,
          List.takeWhile_append_dropWhile]
    · cases h
      exact ⟨[], Or.inl rfl, rfl⟩

lemma skipExponent_complete {t r : Bytes} (h : ExponentText t) (hr : NumberEnds r) :
    skipExponent (t ++ r) = .ok r := by
  rcases h with rfl | ⟨e, sign, ds, he, hsign, ⟨hne, hds⟩, rfl⟩
  · cases r with
    | nil => rfl
    | cons b r => exact if_neg (by rw [hr.2.2]; exact Bool.false_ne_true)
  · obtain ⟨d, ds, rfl⟩ := List.exists_cons_of_ne_nil hne
    obtain ⟨hd, hds⟩ := List.forall_mem_cons.1 hds
    rw [List.cons_append, skipExponent, if_pos (isExponentLetter_iff.2 he), List.append_assoc,
      List.cons_append, exponentSign_append hd hsign, skipExponentDigits, if_pos hd,
      takeWhile_digits hds hr]

lemma skipFraction_sound {s r : Bytes} (h : skipFraction s = .ok r) :
    ∃ f e, FractionText f ∧ ExponentText e ∧ s = f ++ (e ++ r) := by
  cases s with
  | nil =>
    cases h
    exact ⟨[], [], Or.inl rfl, Or.inl rfl, rfl⟩
  | cons b s =>
    simp only [skipFraction] at h
    split_ifs at h with hp hd
    · rcases s with _ | ⟨d, s⟩
      · cases hd
      · obtain ⟨e, he, hs⟩ := skipExponent_sound h
        rw [List.dropWhile_cons_of_pos (p := Ascii.isDigit) hd] at hs
        refine ⟨_, e, Or.inr ⟨_, digitRow_takeWhile (s := s) hd, rfl⟩, he, ?_⟩
        rw [← hs, hp, List.cons_append, List.cons_append, List.takeWhile_append_dropWhile]
    · obtain ⟨e, he, hs⟩ := skipExponent_sound h
      exact ⟨[], e, Or.inl rfl, he, hs⟩

lemma exponent_first {e r : Bytes} (h : ExponentText e) (hr : NumberEnds r) :
    Stops Ascii.isDigit (e ++ r) ∧ Stops (· == point) (e ++ r) := by
  have hletters : ∀ b ∈ [byte 'e', byte 'E'], Ascii.isDigit b = false ∧ (b == point) = false :=
    List.forall_mem_cons.2 ⟨by decide, List.forall_mem_singleton.2 (by decide)⟩
  rcases h with rfl | ⟨b, sign, ds, hb, -, -, rfl⟩
  · cases r with
    | nil => exact ⟨trivial, trivial⟩
    | cons b r => exact ⟨hr.1, beq_false_of_ne hr.2.1⟩
  · exact hletters b hb

lemma skipFraction_complete {f e r : Bytes} (hf : FractionText f) (he : ExponentText e)
    (hr : NumberEnds r) : skipFraction (f ++ (e ++ r)) = .ok r := by
  obtain ⟨hdigit, hpoint⟩ := exponent_first he hr
  have hskip := skipExponent_complete he hr
  rcases hf with rfl | ⟨ds, ⟨hne, hds⟩, rfl⟩
  · rw [List.nil_append]
    rcases hs : e ++ r with _ | ⟨b, s⟩
    · rw [hs] at hskip
      exact hskip
    · rw [hs] at hskip hpoint
      rw [skipFraction, if_neg (beq_eq_false_iff_ne.1 hpoint), hskip]
  · obtain ⟨d, ds, rfl⟩ := List.exists_cons_of_ne_nil hne
    have hstart : startsDigit (d :: ds ++ (e ++ r)) := hds d List.mem_cons_self
    rw [List.cons_append, skipFraction, if_pos rfl, if_pos hstart, (span_append hds hdigit).2,
      hskip]

lemma fraction_first {f e r : Bytes} (hf : FractionText f) (he : ExponentText e)
    (hr : NumberEnds r) : Stops Ascii.isDigit (f ++ (e ++ r)) := by
  rcases hf with rfl | ⟨ds, -, rfl⟩
  · exact (exponent_first he hr).1
  · exact (by decide : Ascii.isDigit point = false)

lemma skipUnsigned_sound {s r : Bytes} (h : skipUnsigned s = .ok r) :
    ∃ t, UnsignedText t ∧ s = t ++ r := by
  cases s with
  | nil => cases h
  | cons b s =>
    simp only [skipUnsigned] at h
    split_ifs at h with hz hd hd
    · obtain ⟨f, e, hf, he, rfl⟩ := skipFraction_sound h
      exact ⟨_, ⟨[b], f, e, hz ▸ .zero, hf, he, rfl⟩, by simp⟩
    · obtain ⟨f, e, hf, he, hs⟩ := skipFraction_sound h
      refine ⟨_, ⟨_, f, e, wholeRow_takeWhile (s := s) hd hz, hf, he, rfl⟩, ?_⟩
      rw [List.append_assoc, List.append_assoc, ← hs, List.cons_append,
        List.takeWhile_append_dropWhile]

lemma skipUnsigned_complete {t r : Bytes} (h : UnsignedText t) (hr : NumberEnds r) :
    skipUnsigned (t ++ r) = .ok r := by
  obtain ⟨whole, f, e, hw, hf, he, rfl⟩ := h
  have hskip := skipFraction_complete hf he hr
  have hstop := fraction_first hf he hr
  rw [List.append_assoc, List.append_assoc]
  cases hw with
  | zero =>
    have hstart : startsDigit (f ++ (e ++ r)) = false := by
      rcases hs : f ++ (e ++ r) with _ | ⟨b, s⟩
      · rfl
      · rw [hs] at hstop
        exact hstop
    rw [List.singleton_append, skipUnsigned, if_pos rfl, hstart, if_neg Bool.false_ne_true, hskip]
  | @pos b ds first digits =>
    obtain ⟨hb, hds⟩ := List.forall_mem_cons.1 digits
    rw [List.cons_append, skipUnsigned, if_neg first, if_pos hb, (span_append hds hstop).2, hskip]

/-! ### Numbers of a record -/

lemma unsigned_of_wholeRow {ds : Bytes} (h : WholeRow ds) : UnsignedText ds :=
  ⟨ds, [], [], h, Or.inl rfl, Or.inl rfl, by simp⟩

lemma numberText_signed (n : ℤ) : NumberText (encode (signed n)) := by
  have hminus : String.utf8EncodeChar '-' = [minus] := by decide
  cases n with
  | ofNat m => exact ⟨[], _, by simp, unsigned_of_wholeRow (wholeRow_digits m), rfl⟩
  | negSucc m =>
    refine ⟨[minus], _, by simp, unsigned_of_wholeRow (wholeRow_digits (m + 1)), ?_⟩
    rw [← hminus]
    rfl

end EventLog.Json
