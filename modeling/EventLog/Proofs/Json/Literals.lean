import EventLog.Proofs.Json.Grammar

/-!
# Strings and what they stand for

A string is read from exactly the texts that its characters have. The reader undoes the escapes byte
by byte and asks for characters at the end, so its result is first known as a row of bytes
(`Pieces`); these come from characters one by one, since an escape never stands for a part of a
character.

* `Json.scanText_eq_ok`: strings that are read.
* `Json.skipText_eq_ok`: strings that are passed over.
-/

namespace EventLog.Json

open Ascii Utf8

/-! ### Escapes -/

lemma hexValue?_lt {b : UInt8} {n : ℕ} (h : hexValue? b = some n) : n < 16 := by
  simp only [hexValue?] at h
  split_ifs at h <;> cases h <;> omega

lemma HexText.lt {ds : Bytes} {n : ℕ} (h : HexText ds n) : n < 0x10000 := by
  cases h with
  | digits first second third fourth =>
    have h₁ := hexValue?_lt first
    have h₂ := hexValue?_lt second
    have h₃ := hexValue?_lt third
    have h₄ := hexValue?_lt fourth
    omega

lemma scanHex_eq_ok {s r : Bytes} {n : ℕ} :
    scanHex s = .ok (n, r) ↔ ∃ ds, HexText ds n ∧ s = ds ++ r := by
  constructor
  · intro h
    unfold scanHex at h
    split at h
    · next a b c d t =>
      split at h
      · next ha hb hc hd =>
        cases h
        exact ⟨_, .digits ha hb hc hd, rfl⟩
      · cases h
    · cases h
  · rintro ⟨ds, ⟨first, second, third, fourth⟩, rfl⟩
    simp only [List.cons_append, List.nil_append, scanHex, first, second, third, fourth]

lemma shortEscape?_of_mem : ∀ p ∈ shortEscapes, shortEscape? p.1 = some (byte p.2) ∧
    String.utf8EncodeChar p.2 = [byte p.2] := by
  decide

lemma mem_of_shortEscape? {e b : UInt8} (h : shortEscape? e = some b) :
    ∃ c, (e, c) ∈ shortEscapes ∧ b = byte c := by
  unfold shortEscape? at h
  split_ifs at h with h₁ h₂ h₃ h₄ h₅ h₆ h₇ h₈ <;> subst_vars <;> cases h
  · exact ⟨'"', by decide, rfl⟩
  · exact ⟨'\\', by decide, rfl⟩
  · exact ⟨'/', by decide, rfl⟩
  · exact ⟨'\x08', by decide, rfl⟩
  · exact ⟨'\x0c', by decide, rfl⟩
  · exact ⟨'\n', by decide, rfl⟩
  · exact ⟨'\r', by decide, rfl⟩
  · exact ⟨'\t', by decide, rfl⟩

lemma not_surrogate (c : Char) :
    isHighSurrogate c.toNat = false ∧ isLowSurrogate c.toNat = false := by
  have h := c.valid
  simp only [UInt32.isValidChar, Nat.isValidChar, toNat_val] at h
  simp only [isHighSurrogate, isLowSurrogate, Bool.and_eq_false_iff, decide_eq_false_iff_not]
  omega

lemma toNat_ofNat {n : ℕ} (h : n.isValidChar) : (Char.ofNat n).toNat = n := by
  rw [Char.toNat_ofNat, if_pos h]

lemma expectPair_eq_ok {c : Char} {s r : Bytes} : expectPair c s = .ok r ↔ s = byte c :: r := by
  constructor
  · intro h
    unfold expectPair at h
    split at h
    · cases h
    · split_ifs at h with hb
      cases h
      rw [hb]
  · rintro rfl
    exact if_pos rfl

lemma bind_eq_ok {α β : Type} {x : Except Fault α} {f : α → Except Fault β} {b : β} :
    x >>= f = .ok b ↔ ∃ a, x = .ok a ∧ f a = .ok b := by
  cases x with
  | error e => exact ⟨nofun, fun ⟨_, h, _⟩ => nomatch h⟩
  | ok a => exact ⟨fun h => ⟨a, rfl, h⟩, fun ⟨_, h, h'⟩ => by cases h; exact h'⟩

/-- An escape by number is one number, or two that are surrogates. -/
lemma scanUnicode_sound {s r : Bytes} {c : Char} (h : scanUnicode s = .ok (c, r)) :
    ∃ e, CharText c (backslash :: byte 'u' :: e) ∧ s = e ++ r := by
  obtain ⟨⟨n, r₁⟩, h₁, hrest⟩ := bind_eq_ok.1 h
  obtain ⟨ds, hds, rfl⟩ := scanHex_eq_ok.1 h₁
  have hlt := hds.lt
  simp only at hrest
  split_ifs at hrest with hlow hhigh
  · -- the first of two surrogates
    obtain ⟨r₂, h₂, hrest⟩ := bind_eq_ok.1 hrest
    obtain ⟨r₃, h₃, hrest⟩ := bind_eq_ok.1 hrest
    obtain ⟨⟨m, r₄⟩, h₄, hlast⟩ := bind_eq_ok.1 hrest
    obtain rfl := expectPair_eq_ok.1 h₂
    obtain rfl := expectPair_eq_ok.1 h₃
    obtain ⟨es, hes, rfl⟩ := scanHex_eq_ok.1 h₄
    simp only at hlast
    split_ifs at hlast with hm
    obtain ⟨rfl, rfl⟩ := Prod.mk.inj (Except.ok.inj hlast)
    simp only [isHighSurrogate, isLowSurrogate, Bool.and_eq_true, decide_eq_true_eq] at hhigh hm
    refine ⟨ds ++ byte '\\' :: byte 'u' :: es, .pair hds hes hhigh hm ?_, by simp⟩
    exact toNat_ofNat (Or.inr (by omega))
  · -- a character by itself
    obtain ⟨rfl, rfl⟩ := Prod.mk.inj (Except.ok.inj hrest)
    simp only [isHighSurrogate, isLowSurrogate, Bool.and_eq_true, decide_eq_true_eq] at hhigh hlow
    have hv : n.isValidChar := by
      rw [Nat.isValidChar]
      omega
    refine ⟨ds, .number ?_, rfl⟩
    rwa [toNat_ofNat hv]

lemma scanUnicode_number {c : Char} {ds : Bytes} (h : HexText ds c.toNat) (r : Bytes) :
    scanUnicode (ds ++ r) = .ok (c, r) := by
  obtain ⟨hhigh, hlow⟩ := not_surrogate c
  refine bind_eq_ok.2 ⟨(c.toNat, r), scanHex_eq_ok.2 ⟨ds, h, rfl⟩, ?_⟩
  simp only [hhigh, hlow, Bool.false_eq_true, if_false, Char.ofNat_toNat]
  rfl

lemma scanUnicode_pair {c : Char} {ds es : Bytes} {high low : ℕ} (hd : HexText ds high)
    (he : HexText es low) (hhigh : 0xD800 ≤ high ∧ high ≤ 0xDBFF)
    (hlow : 0xDC00 ≤ low ∧ low ≤ 0xDFFF)
    (hc : c.toNat = 0x10000 + (high - 0xD800) * 0x400 + (low - 0xDC00)) (r : Bytes) :
    scanUnicode (ds ++ (backslash :: byte 'u' :: es) ++ r) = .ok (c, r) := by
  have h₁ : isLowSurrogate high = false := by
    simp only [isLowSurrogate, Bool.and_eq_false_iff, decide_eq_false_iff_not]
    omega
  have h₂ : isHighSurrogate high = true := by simp [isHighSurrogate, hhigh]
  have h₃ : isLowSurrogate low = true := by simp [isLowSurrogate, hlow]
  refine bind_eq_ok.2 ⟨_, scanHex_eq_ok.2 ⟨ds, hd, List.append_assoc _ _ _⟩, ?_⟩
  simp only [h₁, h₂, Bool.false_eq_true, if_false, if_true]
  refine bind_eq_ok.2 ⟨_, expectPair_eq_ok.2 rfl, bind_eq_ok.2 ⟨_, expectPair_eq_ok.2 rfl, ?_⟩⟩
  refine bind_eq_ok.2 ⟨_, scanHex_eq_ok.2 ⟨es, he, rfl⟩, ?_⟩
  simp only [h₃, if_true, ← hc, Char.ofNat_toNat]
  rfl

lemma scanEscape_sound {s r bs : Bytes} (h : scanEscape s = .ok (bs, r)) :
    ∃ c e, CharText c (backslash :: e) ∧ s = e ++ r ∧ bs = String.utf8EncodeChar c := by
  unfold scanEscape at h
  split at h
  · cases h
  · next b t =>
    split at h
    · next b' hb =>
      cases h
      obtain ⟨c, hc, rfl⟩ := mem_of_shortEscape? hb
      exact ⟨c, [b], .short hc, rfl, (shortEscape?_of_mem _ hc).2.symm⟩
    · split_ifs at h with hu
      obtain ⟨⟨c, r'⟩, h₁, hrest⟩ := bind_eq_ok.1 h
      obtain ⟨e, he, rfl⟩ := scanUnicode_sound h₁
      obtain ⟨rfl, rfl⟩ := Prod.mk.inj (Except.ok.inj hrest)
      exact ⟨c, b :: e, hu ▸ he, rfl, rfl⟩

/-- Whatever is written for a character, the reader comes to the bytes of the character. -/
lemma CharText.scan {c : Char} {t : Bytes} (h : CharText c t) (before s : Bytes) :
    scanBytes before (t ++ s) = scanBytes ((String.utf8EncodeChar c).reverse ++ before) s := by
  cases h with
  | raw quote backslash visible =>
    exact scanBytes_plains (plain_encodeChar quote backslash (by omega)) before s
  | short escape =>
    obtain ⟨he, hb⟩ := shortEscape?_of_mem _ escape
    rw [hb]
    exact scanBytes_escape (scanEscape_short he s) before
  | number hex => exact scanBytes_escape (scanEscape_number (scanUnicode_number hex s)) before
  | pair first second isHigh isLow sum =>
    exact scanBytes_escape
      (scanEscape_number (scanUnicode_pair first second isHigh isLow sum s)) before

/-! ### Strings that are read -/

/-- The inside of a string in pieces, single bytes and escapes, and the bytes that it stands for. -/
inductive Pieces : Bytes → Bytes → Prop
  | nil : Pieces [] []
  | raw {b : UInt8} {t m : Bytes} (plain : Plain b) (tail : Pieces t m) : Pieces (b :: t) (b :: m)
  | escape {c : Char} {e t m : Bytes} (text : CharText c (backslash :: e)) (tail : Pieces t m) :
      Pieces (backslash :: (e ++ t)) (String.utf8EncodeChar c ++ m)

lemma scanBytes_sound {before s bs r : Bytes} (h : scanBytes before s = .ok (bs, r)) :
    ∃ t m, Pieces t m ∧ s = t ++ quote :: r ∧ bs = before.reverse ++ m := by
  fun_induction scanBytes before s with
  | case1 => cases h
  | case2 before t =>
    cases h
    exact ⟨[], [], .nil, rfl, by simp⟩
  | case3 before t cs u hu _ ih =>
    obtain ⟨v, m, hv, rfl, rfl⟩ := ih h
    obtain ⟨c, e, hc, rfl, rfl⟩ := scanEscape_sound hu
    exact ⟨_, _, .escape hc hv, by simp, by simp⟩
  | case4 => cases h
  | case5 => cases h
  | case6 before b t hq hb hs ih =>
    obtain ⟨v, m, hv, rfl, rfl⟩ := ih h
    exact ⟨b :: v, b :: m, .raw ⟨hq, hb, UInt8.not_lt.1 hs⟩ hv, rfl, by simp⟩

/-- Continuation bytes do not come from escapes. -/
lemma Pieces.continuation {t k m : Bytes} (h : Pieces t (k ++ m))
    (hk : ∀ x ∈ k, 0x80 ≤ x.toNat ∧ x.toNat < 0xC0) : ∃ v, t = k ++ v ∧ Pieces v m := by
  induction k generalizing t with
  | nil => exact ⟨t, rfl, h⟩
  | cons x k ih =>
    obtain ⟨hx, hk⟩ := List.forall_mem_cons.1 hk
    generalize hm : x :: k ++ m = m' at h
    cases h with
    | nil => cases hm
    | raw plain tail =>
      obtain ⟨rfl, rfl⟩ := List.cons.inj hm
      obtain ⟨v, rfl, hv⟩ := ih tail hk
      exact ⟨v, rfl, hv⟩
    | @escape c _ _ _ text tail =>
      -- a character starts with another kind of byte
      obtain ⟨b, l, hc, hb, -⟩ := encodeChar_cases c
      rw [hc] at hm
      obtain ⟨rfl, -⟩ := List.cons.inj hm
      omega

lemma Pieces.first {t m : Bytes} {c : Char} (h : Pieces t (String.utf8EncodeChar c ++ m)) :
    ∃ u v, CharText c u ∧ Pieces v m ∧ t = u ++ v := by
  obtain ⟨b, k, hc, -, hk⟩ := encodeChar_cases c
  generalize hm : String.utf8EncodeChar c ++ m = m' at h
  cases h with
  | nil => simp [hc] at hm
  | @raw b' t m' plain tail =>
    rw [hc] at hm
    obtain ⟨rfl, rfl⟩ := List.cons.inj hm
    obtain ⟨v, rfl, hv⟩ := Pieces.continuation tail hk
    refine ⟨b :: k, v, ?_, hv, rfl⟩
    have hraw : c ≠ '"' ∧ c ≠ '\\' ∧ 0x20 ≤ c.toNat := by
      by_cases hlt : c.toNat < 0x80
      · rw [encodeChar_ascii hlt] at hc
        obtain ⟨rfl, -⟩ := List.cons.inj hc
        refine ⟨fun h => plain.1 (h ▸ rfl), fun h => plain.2.1 (h ▸ rfl), ?_⟩
        have hs := UInt8.le_iff_toNat_le.1 plain.2.2
        rwa [toNat_byte (by omega)] at hs
      · refine ⟨?_, ?_, by omega⟩ <;> rintro rfl <;> exact hlt (by decide)
    rw [← hc]
    exact .raw hraw.1 hraw.2.1 hraw.2.2
  | @escape d e t m' text tail =>
    have h₁ := next?_encodeChar c m
    rw [hm, next?_encodeChar] at h₁
    obtain ⟨rfl, rfl⟩ := Prod.mk.inj (Option.some.inj h₁)
    exact ⟨_, _, text, tail, rfl⟩

lemma Pieces.charsText {t : Bytes} {cs : List Char} (h : Pieces t (encode cs)) :
    CharsText cs t := by
  induction cs generalizing t with
  | nil =>
    generalize hm : encode [] = m at h
    cases h with
    | nil => exact .nil
    | raw plain tail => cases hm
    | @escape c _ _ _ text tail =>
      obtain ⟨b, k, hc, -⟩ := encodeChar_cases c
      rw [hc] at hm
      cases hm
  | cons c cs ih =>
    obtain ⟨u, v, hu, hv, rfl⟩ := h.first
    exact .cons hu (ih hv)

lemma CharsText.scan {cs : List Char} {t : Bytes} (h : CharsText cs t) (before r : Bytes) :
    scanBytes before (t ++ quote :: r) = .ok (before.reverse ++ encode cs, r) := by
  induction h generalizing before with
  | nil => rw [List.nil_append, scanBytes_quote, encode_nil, List.append_nil]
  | cons head tail ih =>
    rw [List.append_assoc, head.scan, ih, List.reverse_append, List.reverse_reverse,
      List.append_assoc, encode_cons]

lemma CharsText.raw {cs : List Char} (h : ∀ c ∈ cs, c ≠ '"' ∧ c ≠ '\\' ∧ 0x20 ≤ c.toNat) :
    CharsText cs (encode cs) := by
  induction cs with
  | nil => exact .nil
  | cons c cs ih =>
    obtain ⟨⟨hq, hb, hv⟩, hcs⟩ := List.forall_mem_cons.1 h
    exact .cons (.raw hq hb hv) (ih hcs)

/-- A text without marks and controls is spelled by itself, in quotes. -/
lemma Literal.raw {x : String} (h : ∀ c ∈ x.toList, c ≠ '"' ∧ c ≠ '\\' ∧ 0x20 ≤ c.toNat) :
    Literal x (quote :: (utf8 x ++ [quote])) :=
  ⟨_, .raw h, rfl⟩

/-- **A string is read from exactly the texts of its characters**, after its opening quote. -/
theorem scanText_eq_ok {s r : Bytes} {x : String} :
    scanText s = .ok (x, r) ↔ ∃ t, CharsText x.toList t ∧ s = t ++ quote :: r := by
  constructor
  · intro h
    unfold scanText at h
    split at h
    · cases h
    · next bs r' hs =>
      split at h
      · next cs hcs =>
        cases h
        obtain ⟨t, m, ht, rfl, hm⟩ := scanBytes_sound hs
        obtain rfl : bs = m := hm
        rw [encode_of_decode hcs] at ht
        exact ⟨t, by rw [String.toList_ofList]; exact ht.charsText, rfl⟩
      · cases h
  · rintro ⟨t, ht, rfl⟩
    simp only [scanText, ht.scan, List.reverse_nil, List.nil_append, decode_encode,
      String.ofList_toList]

/-! ### Strings that are passed over -/

lemma skipEscape_eq_ok {s r : Bytes} : skipEscape s = .ok r ↔
    (∃ e c, (e, c) ∈ shortEscapes ∧ s = e :: r) ∨
      ∃ ds n, HexText ds n ∧ s = byte 'u' :: (ds ++ r) := by
  constructor
  · intro h
    unfold skipEscape at h
    split at h
    · cases h
    · next b t =>
      split_ifs at h with hshort hu
      · cases h
        obtain ⟨b', hb⟩ := Option.isSome_iff_exists.1 hshort
        obtain ⟨c, hc, -⟩ := mem_of_shortEscape? hb
        exact Or.inl ⟨b, c, hc, rfl⟩
      · cases ht : scanHex t with
        | error e =>
          rw [ht] at h
          cases h
        | ok p =>
          rw [ht] at h
          cases h
          obtain ⟨ds, hds, rfl⟩ := scanHex_eq_ok.1 ht
          exact Or.inr ⟨ds, p.1, hds, by rw [hu]⟩
  · rintro (⟨e, c, hc, rfl⟩ | ⟨ds, n, hds, rfl⟩)
    · have hb := (shortEscape?_of_mem _ hc).1
      simp only [skipEscape, hb, Option.isSome_some, if_true]
    · have hu : shortEscape? (byte 'u') = none := by decide
      simp only [skipEscape, hu, scanHex_eq_ok.2 ⟨ds, hds, rfl⟩]
      rfl

/-- **A string is passed over exactly if its inside is well formed**, after its opening quote. -/
theorem skipText_eq_ok {s r : Bytes} :
    skipText s = .ok r ↔ ∃ t, StringBody t ∧ s = t ++ quote :: r := by
  constructor
  · intro h
    fun_induction skipText s with
    | case1 => cases h
    | case2 t =>
      cases h
      exact ⟨[], .nil, rfl⟩
    | case3 t u hu _ ih =>
      obtain ⟨v, hv, rfl⟩ := ih h
      rcases skipEscape_eq_ok.1 hu with ⟨e, c, hc, rfl⟩ | ⟨ds, n, hds, rfl⟩
      · exact ⟨_, .short hc hv, rfl⟩
      · exact ⟨_, .number hds hv, by simp⟩
    | case4 => cases h
    | case5 => cases h
    | case6 b t hq hb hs ih =>
      obtain ⟨v, hv, rfl⟩ := ih h
      exact ⟨b :: v, .raw ⟨hq, hb, UInt8.not_lt.1 hs⟩ hv, rfl⟩
  · rintro ⟨t, ht, rfl⟩
    have hescape : ∀ {u v : Bytes}, skipEscape u = .ok v →
        skipText (backslash :: u) = skipText v := by
      intro u v hu
      rw [skipText, if_neg (by decide), if_pos rfl]
      split
      · next w hw => rw [Except.ok.inj (hu.symm.trans hw)]
      · next e hw => cases hu.symm.trans hw
    induction ht with
    | nil =>
      rw [List.nil_append, skipText, if_pos rfl]
    | raw plain tail ih =>
      rw [List.cons_append, skipText, if_neg plain.1, if_neg plain.2.1,
        if_neg (UInt8.not_lt.2 plain.2.2), ih]
    | short escape tail ih =>
      rw [List.cons_append, List.cons_append,
        hescape (skipEscape_eq_ok.2 (Or.inl ⟨_, _, escape, rfl⟩)), ih]
    | number hex tail ih =>
      rw [List.cons_append, List.cons_append, List.append_assoc,
        hescape (skipEscape_eq_ok.2 (Or.inr ⟨_, _, hex, rfl⟩)), ih]

lemma StringBody.plains {bs s : Bytes} (hb : ∀ b ∈ bs, Plain b) (h : StringBody s) :
    StringBody (bs ++ s) := by
  induction bs with
  | nil => exact h
  | cons b bs ih =>
    obtain ⟨hb, hbs⟩ := List.forall_mem_cons.1 hb
    exact .raw hb (ih hbs)

lemma CharsText.body {cs : List Char} {t : Bytes} (h : CharsText cs t) : StringBody t := by
  induction h with
  | nil => exact .nil
  | cons head tail ih =>
    cases head with
    | raw quote backslash visible =>
      exact .plains (plain_encodeChar quote backslash (by omega)) ih
    | short escape => exact .short escape ih
    | number hex => exact .number hex ih
    | pair first second isHigh isLow sum =>
      rw [List.cons_append, List.cons_append, List.append_assoc]
      exact .number first (.number second ih)

end EventLog.Json
