import EventLog.Proofs.Text.Utf8
import EventLog.Text.Digits

/-!
# Decimal digits, written and read

* `Text.value_digits`, `Text.value_padded`: a written number has its value.
* `Text.value_append`, `Text.value_lt`: digits behind others, and how much digits can denote.
* `Text.eq_of_value_eq`: rows of digits of one length are told apart by their numbers.
* `Text.length_padded`, `Text.take_padded`: a number that fits is written with the given number of
  places, and what its first places are.
* `Text.digits_pos`: a number other than zero does not start with the digit zero.
-/

namespace EventLog.Text

open Ascii Utf8

variable {n w : ℕ}

lemma toNat_of_isDigit {c : Char} (h : c.isDigit) : 0x30 ≤ c.toNat ∧ c.toNat ≤ 0x39 := by
  simp only [Char.isDigit, Bool.and_eq_true, decide_eq_true_eq, UInt32.le_iff_toNat_le,
    ge_iff_le] at h
  exact h

lemma isDigit_of_mem_digits {c : Char} (h : c ∈ digits n) : c.isDigit :=
  Nat.isDigit_of_mem_toDigits (by decide) (by decide) h

lemma digits_ne_nil (n : ℕ) : digits n ≠ [] :=
  Nat.toDigits_ne_nil

@[simp] lemma value_digits (n : ℕ) : value (digits n) = n :=
  Nat.ofDigitChars_ten_toDigits

/-- Digits count for as many tens as there are digits behind them. -/
lemma value_append (ds es : List Char) :
    value (ds ++ es) = value ds * 10 ^ es.length + value es := by
  rw [value, Nat.ofDigitChars_append, Nat.ofDigitChars_eq_ofDigitChars_zero, Nat.mul_comm]
  rfl

/-- Zeros behind a row of digits count for as many tens. -/
lemma value_append_zeros (ds : List Char) (k : ℕ) :
    value (ds ++ List.replicate k '0') = value ds * 10 ^ k := by
  rw [value_append, List.length_replicate]
  conv_lhs => rw [value.eq_1 (List.replicate k '0'), Nat.ofDigitChars_replicate_zero, Nat.mul_zero]
  rfl

lemma value_singleton {c : Char} (h : c.isDigit) : value [c] < 10 ∧ c.toNat = value [c] + 48 := by
  have hc := toNat_of_isDigit h
  have hzero : '0'.toNat = 48 := rfl
  simp only [value, Nat.ofDigitChars_cons, Nat.ofDigitChars_nil]
  omega

/-- A row of digits denotes less than the first number that needs one digit more. -/
lemma value_lt {ds : List Char} (h : ∀ c ∈ ds, c.isDigit) : value ds < 10 ^ ds.length := by
  induction ds using List.reverseRecOn with
  | nil => exact Nat.one_pos
  | append_singleton ds c ih =>
    have hds := ih fun x hx => h x (List.mem_append_left _ hx)
    have hc := (value_singleton (h c (List.mem_append_right _ List.mem_cons_self))).1
    rw [value_append, List.length_append, List.length_singleton, pow_succ]
    omega

/-- Rows of as many digits that denote the same number are the same. -/
lemma eq_of_value_eq {ds es : List Char} (hds : ∀ c ∈ ds, c.isDigit) (hes : ∀ c ∈ es, c.isDigit)
    (hlength : ds.length = es.length) (h : value ds = value es) : ds = es := by
  induction ds using List.reverseRecOn generalizing es with
  | nil => exact (List.length_eq_zero_iff.1 hlength.symm).symm
  | append_singleton ds c ih =>
    -- the last digits are the remainders by ten, the digits before them the quotients
    rcases es.eq_nil_or_concat with rfl | ⟨es, d, rfl⟩
    · simp at hlength
    · rw [List.concat_eq_append] at hes hlength h ⊢
      obtain ⟨hds, hc⟩ := List.forall_mem_append.1 hds
      obtain ⟨hes, hd⟩ := List.forall_mem_append.1 hes
      obtain ⟨hc, hcval⟩ := value_singleton (hc c List.mem_cons_self)
      obtain ⟨hd, hdval⟩ := value_singleton (hd d List.mem_cons_self)
      simp only [value_append, List.length_singleton, pow_one] at h
      have hrest : ds = es := ih hds hes (by simpa using hlength) (by omega)
      have hlast : c = d := Char.toNat_inj.1 (by omega)
      rw [hrest, hlast]

lemma digits_zero : digits 0 = ['0'] :=
  Nat.toDigits_zero 10

/-- The digits of a number that is not zero start with a digit that is not zero. -/
lemma digits_pos (h : 0 < n) : ∃ c cs, digits n = c :: cs ∧ c ≠ '0' := by
  induction n using Nat.strong_induction_on with
  | _ n ih =>
    rcases Nat.lt_or_ge n 10 with hn | hn
    · have hne : ∀ m < 10, 0 < m → m.digitChar ≠ '0' := by decide
      exact ⟨n.digitChar, [], Nat.toDigits_of_lt_base hn, hne n hn h⟩
    · obtain ⟨c, cs, hcs, hc⟩ := ih (n / 10) (by omega) (by omega)
      refine ⟨c, cs ++ [(n % 10).digitChar], ?_, hc⟩
      rw [digits, Nat.toDigits_of_base_le (by decide) hn, ← digits, hcs, List.cons_append]

lemma digits_injective : Function.Injective digits := by
  intro m n h
  rw [← value_digits m, h, value_digits]

lemma digits_ne_minus (n : ℕ) (cs : List Char) : digits n ≠ '-' :: cs := by
  intro h
  have hminus : '-' ∈ digits n := by
    rw [h]
    exact List.mem_cons_self
  exact absurd (isDigit_of_mem_digits hminus) (by decide)

lemma signed_injective : Function.Injective signed := by
  intro m n h
  rcases m with k | k <;> rcases n with l | l
  · exact congrArg Int.ofNat (digits_injective h)
  · exact absurd h (digits_ne_minus k _)
  · exact absurd h.symm (digits_ne_minus l _)
  · exact congrArg Int.negSucc (Nat.succ_injective (digits_injective (List.cons.inj h).2))

lemma isDigit_of_mem_padded {c : Char} (h : c ∈ padded w n) : c.isDigit := by
  rcases List.mem_append.1 h with h | h
  · rw [List.eq_of_mem_replicate h]
    rfl
  · exact isDigit_of_mem_digits h

/-- A number that fits into a positive number of places is written with as many. -/
lemma length_padded (hw : 0 < w) (h : n < 10 ^ w) : (padded w n).length = w := by
  have hle : (digits n).length ≤ w := (Nat.length_toDigits_le_iff (by decide) hw).2 h
  rw [padded, List.length_append, List.length_replicate]
  omega

@[simp] lemma value_padded (w n : ℕ) : value (padded w n) = n := by
  rw [value, padded, Nat.ofDigitChars_append, Nat.ofDigitChars_replicate_zero, Nat.mul_zero]
  exact value_digits n

/-- The first places of a number are the number without the others. -/
lemma take_padded {k : ℕ} (hw : 0 < w) (h : n < 10 ^ (w + k)) :
    (padded (w + k) n).take w = padded w (n / 10 ^ k) := by
  have hds : ∀ c ∈ padded (w + k) n, c.isDigit := fun _ => isDigit_of_mem_padded
  have hlength := length_padded (Nat.add_pos_left hw k) h
  have hquotient : n / 10 ^ k < 10 ^ w := by
    rwa [Nat.div_lt_iff_lt_mul (by positivity), ← pow_add]
  have hdrop : ((padded (w + k) n).drop w).length = k := by
    rw [List.length_drop, hlength, Nat.add_sub_cancel_left]
  have hrest : value ((padded (w + k) n).drop w) < 10 ^ k := by
    have hdigits : ∀ c ∈ (padded (w + k) n).drop w, c.isDigit := fun c hc =>
      hds c (List.mem_of_mem_drop hc)
    have hlt := value_lt hdigits
    rwa [hdrop] at hlt
  have hvalue := value_append ((padded (w + k) n).take w) ((padded (w + k) n).drop w)
  rw [List.take_append_drop, value_padded, hdrop] at hvalue
  refine eq_of_value_eq (fun c hc => hds c (List.mem_of_mem_take hc))
    (fun _ => isDigit_of_mem_padded) ?_ ?_
  · rw [List.length_take, hlength, length_padded hw hquotient]
    omega
  · rw [value_padded]
    exact (Nat.div_eq_of_lt_le (by omega) (by rw [Nat.succ_mul]; omega)).symm

lemma padded_ne_nil (w n : ℕ) : padded w n ≠ [] :=
  fun h => digits_ne_nil n (List.append_eq_nil_iff.1 h).2

/-! ### Where digits end -/

/-- A text that does not go on with an element of a class. -/
def Stops {α : Type} (p : α → Bool) : List α → Prop
  | [] => True
  | x :: _ => p x = false

/-- A row of elements of a class ends where the text stops to go on with them. -/
lemma span_append {α : Type} {p : α → Bool} {ds rest : List α} (hds : ∀ x ∈ ds, p x)
    (h : Stops p rest) :
    (ds ++ rest).takeWhile p = ds ∧ (ds ++ rest).dropWhile p = rest := by
  have hrest : rest.takeWhile p = [] ∧ rest.dropWhile p = rest := by
    cases rest with
    | nil => exact ⟨rfl, rfl⟩
    | cons x r =>
      have hx : p x = false := h
      exact ⟨List.takeWhile_cons_of_neg (by simp [hx]), List.dropWhile_cons_of_neg (by simp [hx])⟩
  rw [List.takeWhile_append_of_pos hds, List.dropWhile_append_of_pos hds, hrest.1, hrest.2,
    List.append_nil]
  exact ⟨rfl, rfl⟩

/-- What is left behind a row of elements of a class does not go on with them. -/
lemma stops_dropWhile {α : Type} (p : α → Bool) (s : List α) : Stops p (s.dropWhile p) := by
  induction s with
  | nil => trivial
  | cons x s ih =>
    cases hx : p x with
    | true => rwa [List.dropWhile_cons_of_pos hx]
    | false => rwa [List.dropWhile_cons_of_neg (by simp [hx])]

/-! ### Digits as bytes -/

lemma byte_of_isDigit {c : Char} (h : c.isDigit) :
    String.utf8EncodeChar c = [byte c] ∧ Ascii.isDigit (byte c) ∧
      digitValue (byte c) = c.toNat - 0x30 := by
  obtain ⟨h₁, h₂⟩ := toNat_of_isDigit h
  have hb : (byte c).toNat = c.toNat := toNat_byte (by omega)
  refine ⟨encodeChar_ascii (by omega), ?_, by rw [digitValue, hb]⟩
  simp only [Ascii.isDigit, Bool.and_eq_true, decide_eq_true_eq, UInt8.le_iff_toNat_le, hb]
  exact ⟨h₁, h₂⟩

end EventLog.Text
