import EventLog.Text.Ascii
import EventLog.Text.Utf8
import Mathlib

/-!
# Characters and their bytes

The UTF-8 form of a text is read back as that text. A character below `80` is a single byte, and the
bytes of any other character are all above that, so that the marks of a document, which are ASCII,
do not occur inside a character.

* `Utf8.next?_encodeChar`: the first character of a text.
* `Utf8.decode_encode`: a whole text.
* `Utf8.encode_of_decode`: no other bytes are read as that text.
-/

namespace EventLog.Utf8

open Ascii

@[simp] lemma encode_nil : encode [] = [] := rfl

@[simp] lemma encode_cons (c : Char) (cs : List Char) :
    encode (c :: cs) = String.utf8EncodeChar c ++ encode cs := rfl

@[simp] lemma encode_append (cs ds : List Char) : encode (cs ++ ds) = encode cs ++ encode ds :=
  List.flatMap_append

/-! ### Single characters -/

lemma toNat_val (c : Char) : c.val.toNat = c.toNat := rfl

/-- A character below `80` is its own byte. -/
lemma encodeChar_ascii {c : Char} (h : c.toNat < 0x80) : String.utf8EncodeChar c = [byte c] := by
  have hle : c.toNat ≤ 0x7F := Nat.le_of_lt_succ h
  simp only [String.utf8EncodeChar, toNat_val, if_pos hle, byte]

lemma toNat_byte {n : ℕ} (h : n < 0x100) : (UInt8.ofNat n).toNat = n :=
  UInt8.toNat_ofNat_of_lt' h

lemma le_of_mem_encodeChar {c : Char} (h : 0x80 ≤ c.toNat) {b : UInt8}
    (hb : b ∈ String.utf8EncodeChar c) : 0x80 ≤ b.toNat := by
  have hbyte : ∀ n, 0x80 ≤ n → n < 0x100 → 0x80 ≤ (UInt8.ofNat n).toNat := by
    intro n h₁ h₂
    rw [toNat_byte h₂]
    exact h₁
  have hlt : ¬ c.toNat ≤ 0x7F := by omega
  simp only [String.utf8EncodeChar, toNat_val, if_neg hlt] at hb
  split at hb
  · simp only [List.mem_cons, List.not_mem_nil, or_false] at hb
    rcases hb with rfl | rfl <;> exact hbyte _ (by omega) (by omega)
  · split at hb
    · simp only [List.mem_cons, List.not_mem_nil, or_false] at hb
      rcases hb with rfl | rfl | rfl <;> exact hbyte _ (by omega) (by omega)
    · simp only [List.mem_cons, List.not_mem_nil, or_false] at hb
      rcases hb with rfl | rfl | rfl | rfl <;> exact hbyte _ (by omega) (by omega)

/-- The byte of another character is not among those of a character. -/
lemma byte_not_mem_encodeChar {c d : Char} (hc : c.toNat < 0x80) (h : d ≠ c) :
    byte c ∉ String.utf8EncodeChar d := by
  have hbyte : (byte c).toNat = c.toNat := toNat_byte (by omega)
  intro hmem
  by_cases hd : d.toNat < 0x80
  · have hd' : (byte d).toNat = d.toNat := toNat_byte (by omega)
    rw [encodeChar_ascii hd, List.mem_singleton] at hmem
    exact h (Char.toNat_inj.1 (by rw [← hd', ← hmem, hbyte]))
  · have hle := le_of_mem_encodeChar (not_lt.1 hd) hmem
    omega

/-- As often as a character below `80` is in a text, its byte is among the bytes. -/
lemma count_encode {c : Char} (hc : c.toNat < 0x80) (cs : List Char) :
    (encode cs).count (byte c) = cs.count c := by
  induction cs with
  | nil => rfl
  | cons d cs ih =>
    rw [encode_cons, List.count_append, ih]
    by_cases h : d = c
    · subst h
      rw [encodeChar_ascii hc, List.count_singleton_self, List.count_cons_self, Nat.add_comm]
    · rw [List.count_eq_zero_of_not_mem (byte_not_mem_encodeChar hc h), List.count_cons_of_ne h,
        Nat.zero_add]

/-! ### Reading a character back -/

lemma toNat_lt (c : Char) : c.toNat < 0x110000 := by
  have h := c.valid
  simp only [UInt32.isValidChar, Nat.isValidChar, toNat_val] at h
  omega

/-- The first byte of a character is no continuation byte, and all others are. -/
lemma encodeChar_cases (c : Char) : ∃ b k, String.utf8EncodeChar c = b :: k ∧
    (b.toNat < 0x80 ∨ 0xC0 ≤ b.toNat) ∧ ∀ x ∈ k, 0x80 ≤ x.toNat ∧ x.toNat < 0xC0 := by
  have hmax := toNat_lt c
  have hcont : ∀ n, 0x80 ≤ (UInt8.ofNat (n % 64 + 0x80)).toNat ∧
      (UInt8.ofNat (n % 64 + 0x80)).toNat < 0xC0 := by
    intro n
    rw [toNat_byte (by omega)]
    omega
  have hlead : ∀ n, 0xC0 ≤ n → n < 0x100 → 0xC0 ≤ (UInt8.ofNat n).toNat := by
    intro n h₁ h₂
    rwa [toNat_byte h₂]
  simp only [String.utf8EncodeChar, toNat_val]
  split_ifs with h₁ h₂ h₃
  · exact ⟨_, [], rfl, Or.inl (by rw [toNat_byte (by omega)]; omega), by simp⟩
  · refine ⟨_, _, rfl, Or.inr (hlead _ (by omega) (by omega)), ?_⟩
    exact List.forall_mem_singleton.2 (hcont _)
  · refine ⟨_, _, rfl, Or.inr (hlead _ (by omega) (by omega)), ?_⟩
    exact List.forall_mem_cons.2 ⟨hcont _, List.forall_mem_singleton.2 (hcont _)⟩
  · refine ⟨_, _, rfl, Or.inr (hlead _ (by omega) (by omega)), ?_⟩
    exact List.forall_mem_cons.2 ⟨hcont _, List.forall_mem_cons.2
      ⟨hcont _, List.forall_mem_singleton.2 (hcont _)⟩⟩

/-- A continuation byte adds its six bits. -/
lemma extend?_cons (more value n : ℕ) (s : Bytes) (hn : n < 0x40) :
    extend? (more + 1) value (UInt8.ofNat (n + 0x80) :: s) = extend? more (value * 64 + n) s := by
  have h : (UInt8.ofNat (n + 0x80)).toNat = n + 0x80 := toNat_byte (by omega)
  rw [extend?, h, if_pos (by omega), Nat.add_sub_cancel]

/-- The first byte tells how many bytes follow, which make up the number of the character. -/
lemma next?_of_lead {b : UInt8} {lead : Lead} {s t : Bytes} {c : Char} (hb : lead? b = some lead)
    (ht : extend? lead.more lead.bits s = some (c.toNat, t)) (hl : lead.least ≤ c.toNat) :
    next? (b :: s) = some (c, t) := by
  have hv : c.toNat.isValidChar := c.valid
  simp only [next?, hb, ht, Option.bind_some, if_pos (And.intro hl hv), Char.ofNat_toNat]

/-- **A character is read back.** -/
theorem next?_encodeChar (c : Char) (s : Bytes) :
    next? (String.utf8EncodeChar c ++ s) = some (c, s) := by
  have hmax := toNat_lt c
  simp only [String.utf8EncodeChar, toNat_val]
  split_ifs with h₁ h₂ h₃ <;> simp only [List.cons_append, List.nil_append]
  · -- one byte
    have hb : lead? (UInt8.ofNat c.toNat) = some ⟨0, c.toNat, 0⟩ := by
      rw [lead?, toNat_byte (by omega), if_pos (by omega)]
    exact next?_of_lead hb rfl (Nat.zero_le _)
  · -- two bytes: the first one holds five bits
    have hb : lead? (UInt8.ofNat (c.toNat / 64 % 32 + 0xC0)) = some ⟨1, c.toNat / 64, 0x80⟩ := by
      simp only [lead?, toNat_byte (show c.toNat / 64 % 32 + 0xC0 < 0x100 by omega)]
      rw [if_neg (by omega), if_neg (by omega), if_pos (by omega), Nat.add_sub_cancel,
        Nat.mod_eq_of_lt (by omega)]
    refine next?_of_lead hb ?_ (by simp only; omega)
    rw [extend?_cons _ _ _ _ (by omega), extend?,
      show c.toNat / 64 * 64 + c.toNat % 64 = c.toNat by omega]
  · -- three bytes: the first one holds four bits
    have hb : lead? (UInt8.ofNat (c.toNat / 4096 % 16 + 0xE0)) =
        some ⟨2, c.toNat / 4096, 0x800⟩ := by
      simp only [lead?, toNat_byte (show c.toNat / 4096 % 16 + 0xE0 < 0x100 by omega)]
      rw [if_neg (by omega), if_neg (by omega), if_neg (by omega), if_pos (by omega),
        Nat.add_sub_cancel, Nat.mod_eq_of_lt (by omega)]
    refine next?_of_lead hb ?_ (by simp only; omega)
    rw [extend?_cons _ _ _ _ (by omega), extend?_cons _ _ _ _ (by omega), extend?,
      show (c.toNat / 4096 * 64 + c.toNat / 64 % 64) * 64 + c.toNat % 64 = c.toNat by omega]
  · -- four bytes: the first one holds three bits
    have hb : lead? (UInt8.ofNat (c.toNat / 262144 % 8 + 0xF0)) =
        some ⟨3, c.toNat / 262144, 0x10000⟩ := by
      simp only [lead?, toNat_byte (show c.toNat / 262144 % 8 + 0xF0 < 0x100 by omega)]
      rw [if_neg (by omega), if_neg (by omega), if_neg (by omega), if_neg (by omega),
        if_pos (by omega), Nat.add_sub_cancel, Nat.mod_eq_of_lt (by omega)]
    refine next?_of_lead hb ?_ (by simp only; omega)
    rw [extend?_cons _ _ _ _ (by omega), extend?_cons _ _ _ _ (by omega),
      extend?_cons _ _ _ _ (by omega), extend?,
      show ((c.toNat / 262144 * 64 + c.toNat / 4096 % 64) * 64 + c.toNat / 64 % 64) * 64 +
        c.toNat % 64 = c.toNat by omega]

/-! ### Reading a text back -/

lemma decodeAfter_encode (before cs : List Char) :
    decodeAfter before (encode cs) = (before.reverse ++ cs, []) := by
  induction cs generalizing before with
  | nil =>
    rw [decodeAfter, encode_nil, next?]
    simp only [List.append_nil]
  | cons c cs ih =>
    rw [decodeAfter, encode_cons, next?_encodeChar]
    simp only
    rw [ih, List.reverse_cons, List.append_assoc, List.singleton_append]

/-- **A text is read back.** -/
theorem decode_encode (cs : List Char) : decode (encode cs) = (cs, []) :=
  decodeAfter_encode [] cs

lemma encode_injective : Function.Injective encode := by
  intro cs ds h
  have hdecode := congrArg decode h
  rw [decode_encode, decode_encode] at hdecode
  exact congrArg Prod.fst hdecode

/-! ### Bytes that are read as characters -/

lemma extend?_succ {more value v : ℕ} {s r : Bytes} (h : extend? (more + 1) value s = some (v, r)) :
    ∃ b t, s = b :: t ∧ 0x80 ≤ b.toNat ∧ b.toNat < 0xC0 ∧
      extend? more (value * 64 + (b.toNat - 0x80)) t = some (v, r) := by
  cases s with
  | nil => cases h
  | cons b t =>
    rw [extend?] at h
    split_ifs at h with hb
    exact ⟨b, t, rfl, hb.1, hb.2, h⟩

lemma ofNat_eq {b : UInt8} {n : ℕ} (h : n = b.toNat) : UInt8.ofNat n = b := by
  rw [h, UInt8.ofNat_toNat]

lemma lead?_cases {b : UInt8} {lead : Lead} (h : lead? b = some lead) :
    (b.toNat < 0x80 ∧ lead = ⟨0, b.toNat, 0⟩) ∨
      (0xC0 ≤ b.toNat ∧ b.toNat < 0xE0 ∧ lead = ⟨1, b.toNat - 0xC0, 0x80⟩) ∨
      (0xE0 ≤ b.toNat ∧ b.toNat < 0xF0 ∧ lead = ⟨2, b.toNat - 0xE0, 0x800⟩) ∨
      (0xF0 ≤ b.toNat ∧ b.toNat < 0xF8 ∧ lead = ⟨3, b.toNat - 0xF0, 0x10000⟩) := by
  simp only [lead?] at h
  split_ifs at h with h₁ h₂ h₃ h₄ h₅ <;> cases h
  · exact Or.inl ⟨h₁, rfl⟩
  · exact Or.inr (Or.inl ⟨by omega, h₃, rfl⟩)
  · exact Or.inr (Or.inr (Or.inl ⟨by omega, h₄, rfl⟩))
  · exact Or.inr (Or.inr (Or.inr ⟨by omega, h₅, rfl⟩))

/-- **What is read as a character** is its UTF-8 form. -/
theorem encodeChar_of_next? {s r : Bytes} {c : Char} (h : next? s = some (c, r)) :
    s = String.utf8EncodeChar c ++ r := by
  cases s with
  | nil => cases h
  | cons b s =>
    simp only [next?, Option.bind_eq_some_iff, Option.ite_none_right_eq_some, Option.some.injEq,
      Prod.mk.injEq] at h
    obtain ⟨lead, hlead, ⟨value, t⟩, ht, ⟨hleast, hvalid⟩, rfl, rfl⟩ := h
    have hc : (Char.ofNat value).toNat = value := by
      rw [Char.toNat_ofNat, if_pos hvalid]
    have hmax := toNat_lt (Char.ofNat value)
    rw [hc] at hmax
    simp only [String.utf8EncodeChar, toNat_val, hc]
    rcases lead?_cases hlead with ⟨hb, rfl⟩ | ⟨h₁, h₂, rfl⟩ | ⟨h₁, h₂, rfl⟩ | ⟨h₁, h₂, rfl⟩
    · -- one byte
      simp only [extend?, Option.some.injEq, Prod.mk.injEq] at ht
      obtain ⟨rfl, rfl⟩ := ht
      rw [if_pos (by omega), ofNat_eq rfl]
      rfl
    · obtain ⟨c₁, t₁, rfl, hl₁, hu₁, ht⟩ := extend?_succ ht
      simp only [extend?, Option.some.injEq, Prod.mk.injEq] at ht
      obtain ⟨rfl, rfl⟩ := ht
      simp only at hleast
      rw [if_neg (by omega), if_pos (by omega), ofNat_eq (b := b) (by omega),
        ofNat_eq (b := c₁) (by omega)]
      rfl
    · obtain ⟨c₁, t₁, rfl, hl₁, hu₁, ht⟩ := extend?_succ ht
      obtain ⟨c₂, t₂, rfl, hl₂, hu₂, ht⟩ := extend?_succ ht
      simp only [extend?, Option.some.injEq, Prod.mk.injEq] at ht
      obtain ⟨rfl, rfl⟩ := ht
      simp only at hleast
      rw [if_neg (by omega), if_neg (by omega), if_pos (by omega), ofNat_eq (b := b) (by omega),
        ofNat_eq (b := c₁) (by omega), ofNat_eq (b := c₂) (by omega)]
      rfl
    · obtain ⟨c₁, t₁, rfl, hl₁, hu₁, ht⟩ := extend?_succ ht
      obtain ⟨c₂, t₂, rfl, hl₂, hu₂, ht⟩ := extend?_succ ht
      obtain ⟨c₃, t₃, rfl, hl₃, hu₃, ht⟩ := extend?_succ ht
      simp only [extend?, Option.some.injEq, Prod.mk.injEq] at ht
      obtain ⟨rfl, rfl⟩ := ht
      simp only at hleast
      rw [if_neg (by omega), if_neg (by omega), if_neg (by omega), ofNat_eq (b := b) (by omega),
        ofNat_eq (b := c₁) (by omega), ofNat_eq (b := c₂) (by omega), ofNat_eq (b := c₃) (by omega)]
      rfl

lemma encode_of_decodeAfter {before cs : List Char} {s r : Bytes}
    (h : decodeAfter before s = (cs, r)) :
    ∃ ds, cs = before.reverse ++ ds ∧ s = encode ds ++ r := by
  fun_induction decodeAfter before s with
  | case1 before s c t hc ih =>
    obtain ⟨ds, rfl, rfl⟩ := ih h
    refine ⟨c :: ds, by simp, ?_⟩
    rw [encodeChar_of_next? hc, encode_cons, List.append_assoc]
  | case2 before s hc =>
    obtain ⟨rfl, rfl⟩ := Prod.mk.inj h
    exact ⟨[], by simp, rfl⟩

/-- **A text that is read to its end** is the UTF-8 form of its characters. -/
theorem encode_of_decode {s : Bytes} {cs : List Char} (h : decode s = (cs, [])) :
    s = encode cs := by
  obtain ⟨ds, rfl, hs⟩ := encode_of_decodeAfter h
  simpa using hs

end EventLog.Utf8
