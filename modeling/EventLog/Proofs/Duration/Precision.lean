import EventLog.Proofs.Duration.Grammar

/-!
# How exactly elapsed times are read

Of the fraction of an amount the first eighteen digits count. What the digits behind them add is
less than a nanosecond, so that leaving them out costs at most one: the nanosecond that the first
eighteen digits leave unfinished and the others would complete.

The units up to the second divide `10 ^ 18`. What the first eighteen digits leave open is then too
much for the others to complete, and nothing is lost. The minute and the hour do not divide it, and
in these units it happens that a nanosecond is lost.

* `Amount.exactNanos_eq`: what an amount loses.
* `Amount.Carries.unit`: the units in which anything is lost.
* `Duration.parse_precision`: what a text loses.
-/

namespace EventLog.Duration

open Text

/-! ### All digits of an amount -/

namespace Amount

/-- The nanoseconds of an amount when all digits of its fraction count. -/
def exactNanos (a : Amount) : ℕ :=
  value a.whole * a.unit.nanos + value a.fraction * a.unit.nanos / 10 ^ a.fraction.length

/-- An amount without the digits behind the eighteenth of its fraction. -/
def kept (a : Amount) : Amount where
  whole := a.whole
  fraction := a.fraction.take 18
  unit := a.unit
  whole_digits := a.whole_digits
  fraction_digits := fun c h => a.fraction_digits c (List.mem_of_mem_take h)
  some_digit := a.some_digit.imp_right fun h => by simpa using h

/-- What the first eighteen digits of a fraction leave beyond whole nanoseconds. Like `behind` it
counts parts of a nanosecond, of which `10 ^ 18` make one. -/
def leftover (a : Amount) : ℕ :=
  value (a.fraction.take 18) * a.unit.nanos % 10 ^ 18

/-- What the digits behind the eighteenth add. -/
def behind (a : Amount) : ℕ :=
  value (a.fraction.drop 18) * a.unit.nanos / 10 ^ (a.fraction.length - 18)

/-- The digits behind the eighteenth complete a nanosecond. -/
def Carries (a : Amount) : Prop :=
  10 ^ 18 ≤ a.leftover + a.behind

instance (a : Amount) : Decidable a.Carries :=
  inferInstanceAs (Decidable (_ ≤ _))

/-- An amount is read as if it had no digits behind the eighteenth. -/
lemma nanos_eq_kept (a : Amount) : a.nanos = a.kept.exactNanos := by
  simp only [nanos, exactNanos, kept, List.length_take]

lemma behind_lt (a : Amount) : a.behind < a.unit.nanos := by
  have hdigits : ∀ c ∈ a.fraction.drop 18, c.isDigit :=
    fun c h => a.fraction_digits c (List.mem_of_mem_drop h)
  have hlt := value_lt hdigits
  rw [List.length_drop] at hlt
  exact Nat.div_lt_of_lt_mul (Nat.mul_lt_mul_of_pos_right hlt (unit_nanos_pos a.unit))

lemma unit_nanos_dvd (unit : TimeUnit) :
    unit.nanos ∣ 10 ^ 18 ∨ unit = .minute ∨ unit = .hour := by
  cases unit <;> norm_num [TimeUnit.nanos]

lemma behind_eq_zero {a : Amount} (h : a.fraction.length ≤ 18) : a.behind = 0 := by
  rw [behind, List.drop_of_length_le h, value, Nat.ofDigitChars_nil, Nat.zero_mul, Nat.zero_div]

lemma Carries.length {a : Amount} (h : a.Carries) : 18 < a.fraction.length := by
  by_contra hle
  have hmod : a.leftover < 10 ^ 18 := Nat.mod_lt _ (by norm_num)
  rw [Carries, behind_eq_zero (not_lt.1 hle)] at h
  omega

/-- **Nothing is lost in the units up to the second.** -/
lemma Carries.unit {a : Amount} (h : a.Carries) : a.unit = .minute ∨ a.unit = .hour := by
  refine (unit_nanos_dvd a.unit).resolve_left ?_
  rintro ⟨m, hm⟩
  -- the leftover is a multiple of the unit, so it stays below a nanosecond by a whole unit
  have hmod : a.leftover = value (a.fraction.take 18) % m * a.unit.nanos := by
    rw [leftover, hm, Nat.mul_comm a.unit.nanos, Nat.mul_mod_mul_right]
  have hm_pos : 0 < m := Nat.pos_of_ne_zero (by rintro rfl; norm_num at hm)
  have hle : (value (a.fraction.take 18) % m + 1) * a.unit.nanos ≤ m * a.unit.nanos :=
    Nat.mul_le_mul_right _ (Nat.mod_lt _ hm_pos)
  rw [Nat.add_mul, Nat.one_mul, ← hmod, Nat.mul_comm m, ← hm] at hle
  have hbehind := a.behind_lt
  rw [Carries] at h
  omega

/-- All digits of a long fraction together, in parts of a nanosecond. -/
lemma exact_fraction {a : Amount} (h : 18 < a.fraction.length) :
    value a.fraction * a.unit.nanos / 10 ^ a.fraction.length =
      (value (a.fraction.take 18) * a.unit.nanos + a.behind) / 10 ^ 18 := by
  have hlength : a.fraction.length = a.fraction.length - 18 + 18 := by omega
  have hvalue := value_append (a.fraction.take 18) (a.fraction.drop 18)
  rw [List.take_append_drop, List.length_drop] at hvalue
  have hpos : 0 < 10 ^ (a.fraction.length - 18) := by positivity
  conv_lhs => rw [hlength, pow_add, ← Nat.div_div_eq_div_mul, hvalue]
  rw [Nat.add_mul, Nat.mul_right_comm, Nat.add_comm, Nat.add_mul_div_right _ _ hpos, Nat.add_comm,
    behind]

/-- **What an amount loses** is a nanosecond, if the digits that are left out complete one. -/
lemma exactNanos_eq (a : Amount) : a.exactNanos = a.nanos + if a.Carries then 1 else 0 := by
  by_cases h : 18 < a.fraction.length
  · have hbehind : a.behind < 10 ^ 18 := a.behind_lt.trans (unit_nanos_lt a.unit)
    rw [exactNanos, exact_fraction h, Nat.add_div (by norm_num), Nat.div_eq_of_lt hbehind,
      Nat.mod_eq_of_lt hbehind, nanos, Nat.min_eq_left h.le, Nat.add_zero, Nat.add_assoc]
    rfl
  · have hle := not_lt.1 h
    rw [if_neg fun hc => h hc.length, exactNanos, nanos, Nat.min_eq_right hle,
      List.take_of_length_le hle, Nat.add_zero]

end Amount

/-! ### Texts -/

/-- A row of amounts loses a nanosecond with each amount that loses one. -/
lemma sum_exactNanos (as : List Amount) :
    (as.map Amount.exactNanos).sum =
      (as.map Amount.nanos).sum + as.countP fun a => a.Carries := by
  induction as with
  | nil => rfl
  | cons a as ih =>
    simp only [List.map_cons, List.sum_cons, List.countP_cons, ih, a.exactNanos_eq,
      decide_eq_true_eq]
    omega

/-- A sum that is further from zero makes another elapsed time, unless neither of them fits. -/
lemma ofAmounts_eq_iff {length length' : Amount → ℕ} {as : List Amount} {k : ℕ}
    (h : (as.map length').sum = (as.map length).sum + k) (negative : Bool) :
    ofAmounts length negative as = ofAmounts length' negative as ↔
      k = 0 ∨ ¬ Fits64 (signedSum length negative as) := by
  have hsum : signedSum length' negative as = signedSum length negative as ↔ k = 0 := by
    rw [signedSum, signedSum, h]
    split <;> omega
  have hfits : Fits64 (signedSum length' negative as) → Fits64 (signedSum length negative as) := by
    rw [signedSum, signedSum, h, Fits64, Fits64]
    split <;> omega
  by_cases hl : Fits64 (signedSum length negative as)
  · rw [ofAmounts, ofAmounts, if_pos hl, ← hsum]
    by_cases hl' : Fits64 (signedSum length' negative as)
    · simp [hl, hl', eq_comm]
    · have hne : signedSum length' negative as ≠ signedSum length negative as := by
        intro he
        exact hl' (he ▸ hl)
      simp [hl, hl', hne]
  · rw [ofAmounts, ofAmounts, if_neg hl, if_neg (mt hfits hl)]
    simp [hl]

/-- **How exactly a text is read.** It is read as if its fractions ended with their eighteenth
digits. That is the sum of its amounts with all their digits, exactly if no amount carries or the
sum is out of range anyway. An amount carries only if it is in minutes or hours and has more than
eighteen digits behind its point, and then the digits left out make one nanosecond. -/
theorem parse_precision {negative : Bool} {as : List Amount} {s : String}
    (h : Spells negative as s) :
    parse s = ofAmounts (fun a => a.kept.exactNanos) negative as ∧
      (∀ bs t, Spells negative bs t → bs.map Amount.kept = as.map Amount.kept →
        parse t = parse s) ∧
      (parse s = ofAmounts Amount.exactNanos negative as ↔
        (∀ a ∈ as, ¬ a.Carries) ∨ ¬ Fits64 (signedSum Amount.nanos negative as)) ∧
      ∀ a ∈ as, a.exactNanos = a.nanos + (if a.Carries then 1 else 0) ∧
        (a.Carries → 18 < a.fraction.length ∧ (a.unit = .minute ∨ a.unit = .hour)) := by
  have hkept : Amount.nanos = fun a => a.kept.exactNanos := funext Amount.nanos_eq_kept
  refine ⟨hkept ▸ parse_of_spells h, ?_, ?_, fun a _ => ⟨a.exactNanos_eq, fun hc =>
    ⟨hc.length, hc.unit⟩⟩⟩
  · intro bs t ht hbs
    have hmap : bs.map Amount.nanos = as.map Amount.nanos := by
      have := congrArg (List.map Amount.exactNanos) hbs
      simpa only [List.map_map, Function.comp_def, ← hkept] using this
    have hsum : signedSum Amount.nanos negative bs = signedSum Amount.nanos negative as := by
      rw [signedSum, signedSum, hmap]
    rw [parse_of_spells ht, parse_of_spells h, ofAmounts, ofAmounts, hsum]
  · have hnone : (∀ a ∈ as, ¬ a.Carries) ↔ as.countP (fun a => a.Carries) = 0 := by
      simp [List.countP_eq_zero]
    rw [parse_of_spells h, hnone]
    exact ofAmounts_eq_iff (sum_exactNanos as) negative

/-- A text in seconds, of which nothing is lost, and one in hours, of which the only nanosecond
is. -/
theorem parse_precision_decimals :
    parse "-2.5000000000000000009s" = .ok ⟨-2500000000⟩ ∧
      parse "0.0000000000002777779h" = parse "0.000000000000277777h" ∧
      ∃ a, Spells false [a] "0.0000000000002777779h" ∧
        parse "0.0000000000002777779h" ≠ ofAmounts Amount.exactNanos false [a] := by
  have hseconds : Spells true [.decimal 2 19 5000000000000000009 .second]
      "-2.5000000000000000009s" :=
    .amounts (List.mem_singleton.2 rfl) (.cons (.point (List.mem_singleton.2 rfl)) .nil)
      (by decide +kernel)
  have hplain : [] ∈ signs false := List.mem_cons_self
  have hlong : Spells false [.decimal 0 19 2777779 .hour] "0.0000000000002777779h" :=
    .amounts hplain (.cons (.point (List.mem_singleton.2 rfl)) .nil) (by decide +kernel)
  have hshort : Spells false [.decimal 0 18 277777 .hour] "0.000000000000277777h" :=
    .amounts hplain (.cons (.point (List.mem_singleton.2 rfl)) .nil) (by decide +kernel)
  have hkept : [Amount.decimal 0 19 2777779 .hour].map Amount.kept =
      [Amount.decimal 0 18 277777 .hour].map Amount.kept := by
    simp only [List.map_cons, List.map_nil, Amount.kept, Amount.decimal, List.cons.injEq, and_true]
    exact Amount.ext rfl (by decide +kernel) rfl
  refine ⟨?_, (parse_precision hshort).2.1 _ _ hlong hkept, _, hlong, ?_⟩
  · rw [((parse_precision hseconds).2.2.1).2 (Or.inl (by decide +kernel))]
    decide +kernel
  · rw [Ne, (parse_precision hlong).2.2.1]
    decide +kernel

/-- An amount of slightly more than a nanosecond, of which nothing is read. -/
theorem parse_not_exact :
    ∃ a, Spells false [a] "0.0000000000002777778h" ∧ a.exactNanos = 1 ∧
      parse "0.0000000000002777778h" = .ok ⟨0⟩ ∧
      parse "0.0000000000002777778h" ≠ ofAmounts Amount.exactNanos false [a] := by
  have hplain : [] ∈ signs false := List.mem_cons_self
  have ha : Spells false [.decimal 0 19 2777778 .hour] "0.0000000000002777778h" :=
    .amounts hplain (.cons (.point (List.mem_singleton.2 rfl)) .nil) (by decide +kernel)
  refine ⟨_, ha, by decide +kernel, by decide +kernel, ?_⟩
  rw [parse_of_spells ha]
  decide +kernel

end EventLog.Duration
