import EventLog.Json.Printer
import EventLog.Proofs.Json.Written

/-!
# Strings, written and read

A character is written in one of three ways (`Escaped`), and what the reader of strings does is
decided by these: it comes to the bytes of the character, or, if the text breaks off, to the end of
the text.

* `Json.scanText_stringText`: a written string is read back.
* `Json.scanText_cut`: a string that breaks off is one that ends too early.
* `Json.written_string`: both, for the reader of strings.
-/

namespace EventLog.Json

open Ascii Utf8

/-- A byte that stands for itself inside a string. -/
def Plain (b : UInt8) : Prop := b ≠ quote ∧ b ≠ backslash ∧ space ≤ b

/-- The bytes of a character inside a string. -/
inductive Escaped (c : Char) : Bytes → Prop
  /-- An escape of two bytes. -/
  | short {e b : UInt8} (escape : shortEscape? e = some b) (visible : space ≤ e)
      (bytes : String.utf8EncodeChar c = [b]) : Escaped c [backslash, e]
  /-- An escape of a control by its number. -/
  | number {h l : UInt8} (control : c.toNat < 0x20) (high : hexValue? h = some (c.toNat / 16))
      (low : hexValue? l = some (c.toNat % 16)) (visible : space ≤ h ∧ space ≤ l) :
      Escaped c [backslash, byte 'u', zero, zero, h, l]
  /-- The character itself. -/
  | plain (bytes : ∀ b ∈ String.utf8EncodeChar c, Plain b) : Escaped c (String.utf8EncodeChar c)

lemma hexDigit_byte : ∀ n < 16, String.utf8EncodeChar (hexDigit n) = [byte (hexDigit n)] ∧
    hexValue? (byte (hexDigit n)) = some n ∧ space ≤ byte (hexDigit n) := by
  decide

/-- A character that is neither a control nor one of the two marks stands for itself. -/
lemma plain_encodeChar {c : Char} (hq : c ≠ '"') (hb : c ≠ '\\') (hs : ¬ c.toNat < 0x20) :
    ∀ b ∈ String.utf8EncodeChar c, Plain b := by
  have hne : ∀ d : Char, c ≠ d → c.toNat ≠ d.toNat := by
    intro d hd he
    exact hd (by rw [← Char.ofNat_toNat c, he, Char.ofNat_toNat])
  have hq' : c.toNat ≠ 0x22 := hne '"' hq
  have hb' : c.toNat ≠ 0x5C := hne '\\' hb
  have hplain : ∀ b : UInt8, b.toNat ≠ 0x22 → b.toNat ≠ 0x5C → 0x20 ≤ b.toNat → Plain b := by
    intro b h₁ h₂ h₃
    refine ⟨?_, ?_, UInt8.le_iff_toNat_le.2 h₃⟩
    · rintro rfl
      exact h₁ rfl
    · rintro rfl
      exact h₂ rfl
  intro b hmem
  by_cases hc : c.toNat < 0x80
  · rw [encodeChar_ascii hc, List.mem_singleton] at hmem
    have hbyte : b.toNat = c.toNat := by
      rw [hmem]
      exact toNat_byte (by omega)
    exact hplain b (by omega) (by omega) (by omega)
  · have h := le_of_mem_encodeChar (Nat.not_lt.1 hc) hmem
    exact hplain b (by omega) (by omega) (by omega)

lemma escaped_escapedChar (c : Char) : Escaped c (encode (escapedChar c)) := by
  have hchar : ∀ n, c.toNat = n → c = Char.ofNat n := by
    rintro n rfl
    exact (Char.ofNat_toNat c).symm
  unfold escapedChar
  split_ifs with h₁ h₂ h₃ h₄ h₅ h₆ h₇ h₈
  · subst h₁
    exact .short (b := quote) (by decide) (by decide) (by decide)
  · subst h₂
    exact .short (b := backslash) (by decide) (by decide) (by decide)
  · obtain rfl := hchar _ h₃
    exact .short (b := 0x08) (by decide) (by decide) (by decide)
  · subst h₄
    exact .short (b := tab) (by decide) (by decide) (by decide)
  · subst h₅
    exact .short (b := lineFeed) (by decide) (by decide) (by decide)
  · obtain rfl := hchar _ h₆
    exact .short (b := 0x0C) (by decide) (by decide) (by decide)
  · subst h₇
    exact .short (b := carriageReturn) (by decide) (by decide) (by decide)
  · -- a control without a short escape
    obtain ⟨hh, hh', hh''⟩ := hexDigit_byte (c.toNat / 16) (by omega)
    obtain ⟨hl, hl', hl''⟩ := hexDigit_byte (c.toNat % 16) (by omega)
    simp only [encode_cons, hh, hl, encode_nil]
    exact .number h₈ hh' hl' ⟨hh'', hl''⟩
  · -- any other character
    rw [encode_cons, encode_nil, List.append_nil]
    exact .plain (plain_encodeChar h₁ h₂ h₈)

/-! ### Bytes up to the quote -/

lemma scanBytes_nil (before : Bytes) : Breaks (scanBytes before []) :=
  ⟨.at .eofInString [], by rw [scanBytes], rfl⟩

lemma scanBytes_quote (before r : Bytes) :
    scanBytes before (quote :: r) = .ok (before.reverse, r) := by
  rw [scanBytes, if_pos rfl]

lemma scanBytes_plain {b : UInt8} (h : Plain b) (before r : Bytes) :
    scanBytes before (b :: r) = scanBytes (b :: before) r := by
  obtain ⟨h₁, h₂, h₃⟩ := h
  rw [scanBytes, if_neg h₁, if_neg h₂, if_neg (UInt8.not_lt.2 h₃)]

lemma scanBytes_plains {bs : Bytes} (h : ∀ b ∈ bs, Plain b) (before s : Bytes) :
    scanBytes before (bs ++ s) = scanBytes (bs.reverse ++ before) s := by
  induction bs generalizing before with
  | nil => rfl
  | cons b bs ih =>
    obtain ⟨hb, hbs⟩ := List.forall_mem_cons.1 h
    rw [List.cons_append, scanBytes_plain hb, ih hbs, List.reverse_cons, List.append_assoc]
    rfl

lemma scanBytes_escape {r t bs : Bytes} (h : scanEscape r = .ok (bs, t)) (before : Bytes) :
    scanBytes before (backslash :: r) = scanBytes (bs.reverse ++ before) t := by
  rw [scanBytes, if_neg (by decide), if_pos rfl]
  split
  · next bs' t' h' =>
    obtain ⟨rfl, rfl⟩ := Prod.mk.inj (Except.ok.inj (h.symm.trans h'))
    rfl
  · next e h' => cases h.symm.trans h'

lemma scanBytes_escape_error {r : Bytes} {f : Fault} (h : scanEscape r = .error f)
    (before : Bytes) : scanBytes before (backslash :: r) = .error f := by
  rw [scanBytes, if_neg (by decide), if_pos rfl]
  split
  · next bs' t' h' => cases h.symm.trans h'
  · next e h' => rw [Except.error.inj (h.symm.trans h')]

lemma scanEscape_short {e b : UInt8} (h : shortEscape? e = some b) (r : Bytes) :
    scanEscape (e :: r) = .ok ([b], r) := by
  simp only [scanEscape, h]

lemma scanEscape_number {s t : Bytes} {c : Char} (h : scanUnicode s = .ok (c, t)) :
    scanEscape (byte 'u' :: s) = .ok (String.utf8EncodeChar c, t) := by
  have hu : shortEscape? (byte 'u') = none := by decide
  simp only [scanEscape, hu, h]
  rfl

lemma scanHex_breaks {s : Bytes} (h : s.length < 4) : Breaks (scanHex s) := by
  unfold scanHex
  split
  · simp only [List.length_cons] at h
    omega
  · exact ⟨_, rfl, rfl⟩

lemma scanEscape_breaks {s : Bytes} (h : s.length < 4) : Breaks (scanEscape (byte 'u' :: s)) := by
  have hu : shortEscape? (byte 'u') = none := by decide
  obtain ⟨f, hf, he⟩ := scanHex_breaks h
  refine ⟨f, ?_, he⟩
  simp only [scanEscape, hu, scanUnicode, hf]
  rfl

lemma scanUnicode_control {c : Char} {h l : UInt8} (hc : c.toNat < 0x20)
    (hh : hexValue? h = some (c.toNat / 16)) (hl : hexValue? l = some (c.toNat % 16)) (r : Bytes) :
    scanUnicode (zero :: zero :: h :: l :: r) = .ok (c, r) := by
  have hz : hexValue? zero = some 0 := by decide
  have hn : ((0 * 16 + 0) * 16 + c.toNat / 16) * 16 + c.toNat % 16 = c.toNat := by omega
  have hhigh : isHighSurrogate c.toNat = false := by simp [isHighSurrogate]; omega
  have hlow : isLowSurrogate c.toNat = false := by simp [isLowSurrogate]; omega
  simp only [scanUnicode, scanHex, hz, hh, hl, hn, bind, Except.bind, hhigh, hlow,
    Bool.false_eq_true, if_false, Char.ofNat_toNat]
  rfl

namespace Escaped

variable {c : Char} {bs : Bytes}

lemma scan (h : Escaped c bs) (before s : Bytes) :
    scanBytes before (bs ++ s) = scanBytes ((String.utf8EncodeChar c).reverse ++ before) s := by
  cases h with
  | short escape visible bytes =>
    rw [bytes]
    exact scanBytes_escape (scanEscape_short escape s) before
  | number control high low visible =>
    exact scanBytes_escape (scanEscape_number (scanUnicode_control control high low s)) before
  | plain bytes => exact scanBytes_plains bytes before s

/-- If the text breaks off inside the character, it ends too early. -/
lemma cut (h : Escaped c bs) (before : Bytes) {p : Bytes} (hp : CutFrom p bs) :
    Breaks (scanBytes before p) := by
  cases h with
  | short escape visible bytes =>
    rcases hp.cons_cases with rfl | ⟨q, rfl, hq⟩
    · exact scanBytes_nil before
    · rcases hq.cons_cases with rfl | ⟨r, -, hr⟩
      · exact ⟨_, scanBytes_escape_error rfl before, rfl⟩
      · exact absurd hr CutFrom.not_nil
  | number control high low visible =>
    rcases hp.cons_cases with rfl | ⟨q, rfl, hq⟩
    · exact scanBytes_nil before
    · rcases hq.cons_cases with rfl | ⟨r, rfl, hr⟩
      · exact ⟨_, scanBytes_escape_error rfl before, rfl⟩
      · -- fewer than four digits are left
        obtain ⟨f, hf, he⟩ := scanEscape_breaks hr.length_lt
        exact ⟨f, scanBytes_escape_error hf before, he⟩
  | plain bytes =>
    -- the bytes that are left stand for themselves, and then the text ends
    have h := scanBytes_plains (fun b hb => bytes b (hp.1.subset hb)) before []
    rw [List.append_nil] at h
    rw [h]
    exact scanBytes_nil _

lemma visible (h : Escaped c bs) : ∀ b ∈ bs, space ≤ b := by
  cases h with
  | short escape visible bytes => simpa using And.intro (show space ≤ backslash by decide) visible
  | number control high low visible =>
    have hmarks : space ≤ backslash ∧ space ≤ byte 'u' ∧ space ≤ zero := by decide
    simpa using And.intro hmarks.1 (And.intro hmarks.2.1 (And.intro hmarks.2.2 visible))
  | plain bytes => exact fun b hb => (bytes b hb).2.2

end Escaped

/-! ### Whole strings -/

/-- The bytes inside the quotes of a string. -/
def innerBytes (cs : List Char) : Bytes := encode (cs.flatMap escapedChar)

lemma innerBytes_cons (c : Char) (cs : List Char) :
    innerBytes (c :: cs) = encode (escapedChar c) ++ innerBytes cs := by
  rw [innerBytes, List.flatMap_cons, encode_append]
  rfl

lemma encode_stringText (s : String) :
    encode (stringText s) = quote :: (innerBytes s.toList ++ [quote]) := by
  rw [stringText, List.cons_append, encode_cons, encode_append]
  rfl

lemma scanBytes_inner (cs : List Char) (before r : Bytes) :
    scanBytes before (innerBytes cs ++ quote :: r) = .ok (before.reverse ++ encode cs, r) := by
  induction cs generalizing before with
  | nil => rw [innerBytes, List.flatMap_nil, encode_nil, List.nil_append, scanBytes_quote,
      List.append_nil]
  | cons c cs ih =>
    rw [innerBytes_cons, List.append_assoc, (escaped_escapedChar c).scan, ih, List.reverse_append,
      List.reverse_reverse, List.append_assoc, encode_cons]

lemma scanBytes_inner_cut (cs : List Char) (before : Bytes) {p : Bytes}
    (hp : CutFrom p (innerBytes cs ++ [quote])) : Breaks (scanBytes before p) := by
  induction cs generalizing before p with
  | nil =>
    rcases hp.cons_cases with rfl | ⟨q, -, hq⟩
    · exact scanBytes_nil before
    · exact absurd hq CutFrom.not_nil
  | cons c cs ih =>
    rw [innerBytes_cons, List.append_assoc] at hp
    rcases hp.append_cases with hp | ⟨q, rfl, hq⟩
    · exact (escaped_escapedChar c).cut before hp
    · rw [(escaped_escapedChar c).scan]
      exact ih _ hq

lemma visible_innerBytes (cs : List Char) : ∀ b ∈ innerBytes cs, space ≤ b := by
  induction cs with
  | nil => exact fun b hb => absurd hb List.not_mem_nil
  | cons c cs ih =>
    rw [innerBytes_cons]
    exact List.forall_mem_append.2 ⟨(escaped_escapedChar c).visible, ih⟩

/-- **A written string is read back**, after its opening quote. -/
theorem scanText_stringText (s : String) (r : Bytes) :
    scanText (innerBytes s.toList ++ quote :: r) = .ok (s, r) := by
  simp only [scanText, scanBytes_inner, List.reverse_nil, List.nil_append, decode_encode,
    String.ofList_toList]

/-- **A string that breaks off** is one that ends too early. -/
theorem scanText_cut (s : String) {p : Bytes} (hp : CutFrom p (innerBytes s.toList ++ [quote])) :
    Breaks (scanText p) := by
  obtain ⟨f, hf, he⟩ := scanBytes_inner_cut s.toList [] hp
  exact ⟨f, by rw [scanText, hf], he⟩

lemma visible_stringText (s : String) : ∀ b ∈ encode (stringText s), space ≤ b := by
  have hq : space ≤ quote := by decide
  rw [encode_stringText]
  exact List.forall_mem_cons.2 ⟨hq, List.forall_mem_append.2
    ⟨visible_innerBytes _, List.forall_mem_singleton.2 hq⟩⟩

/-- A value that is read from a string. The reader goes on with what the string says, so that it is
enough to know what it makes of the string. -/
lemma written_of_string {α : Type} {reader : Reader α} {s : String} {v : α}
    (hrun : ∀ r t, scanText r = .ok (s, t) → reader.run (quote :: r) = .ok (v, t))
    (hcut : ∀ r f, scanText r = .error f → reader.run (quote :: r) = .error f)
    (hnil : Breaks (reader.run [])) : Written reader (encode (stringText s)) v where
  run rest _ := by
    rw [encode_stringText, List.cons_append, List.append_assoc]
    exact hrun _ _ (scanText_stringText s rest)
  cut p hp := by
    rw [encode_stringText] at hp
    rcases hp.cons_cases with rfl | ⟨q, rfl, hq⟩
    · exact Or.inl hnil
    · obtain ⟨f, hf, he⟩ := scanText_cut s hq
      exact Or.inl ⟨f, hcut _ f hf, he⟩
  visible := visible_stringText s

/-- **Strings.** What is written for a string is read as the string. -/
theorem written_string (s : String) : Written .string (encode (stringText s)) s := by
  have hrun : ∀ r, Reader.string.run (quote :: r) = scanText r := fun r =>
    (fromFirst_cons stringFrom r (by decide)).trans (if_pos rfl)
  refine written_of_string ?_ ?_ (fromFirst_nil stringFrom)
  · intro r t h
    rw [hrun, h]
  · intro r f h
    rw [hrun, h]

end EventLog.Json
