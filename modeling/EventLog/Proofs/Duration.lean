import EventLog.Duration.Display
import EventLog.Duration.Reader
import EventLog.Proofs.Text.Digits

/-!
# Elapsed times, shown and read

The text of an elapsed time is one component behind an optional sign, and the component says exactly
how many nanoseconds there are, however many that is. So an elapsed time can be told from its text;
whether the reader gives it back depends on its range alone.

* `Duration.fractionNanos_trimZeros`: zeros at the end of a fraction are no loss.
* `Duration.cut_magnitudeText`: a magnitude is one component, which says how long it is.
* `Duration.display_lossless`: what becomes of the text of an elapsed time when it is read.
-/

namespace EventLog.Duration

open Text

/-! ### Fractions -/

/-- A fraction is its trimmed form with zeros behind it. -/
lemma trimZeros_append (ds : List Char) :
    ∃ k, ds = trimZeros ds ++ List.replicate k '0' := by
  have hzeros : ∀ c ∈ ds.reverse.takeWhile (· == '0'), c = '0' := by
    intro c hc
    simpa using List.mem_takeWhile_imp hc
  refine ⟨(ds.reverse.takeWhile (· == '0')).length, ?_⟩
  have hrow := List.eq_replicate_iff.2 ⟨rfl, hzeros⟩
  calc ds = (ds.reverse.takeWhile (· == '0') ++ ds.reverse.dropWhile (· == '0')).reverse := by
        rw [List.takeWhile_append_dropWhile, List.reverse_reverse]
    _ = trimZeros ds ++ (ds.reverse.takeWhile (· == '0')).reverse := by
        rw [List.reverse_append]
        rfl
    _ = _ := by
        rw [hrow, List.reverse_replicate, List.length_replicate]

/-- The trimmed form of a fraction with as many places as its unit resolves says how many
nanoseconds it adds. -/
lemma fractionNanos_trimZeros (ds : List Char) (h : ds.length ≤ fractionDigits) :
    fractionNanos (trimZeros ds) (10 ^ ds.length) = value ds := by
  obtain ⟨k, hk⟩ := trimZeros_append ds
  have hlen : ds.length = (trimZeros ds).length + k := by
    have := congrArg List.length hk
    rwa [List.length_append, List.length_replicate] at this
  have hvalue : value ds = value (trimZeros ds) * 10 ^ k := by
    conv_lhs => rw [hk, value_append_zeros]
  have htake : (trimZeros ds).take fractionDigits = trimZeros ds :=
    List.take_of_length_le (by omega)
  have hpow : 0 < 10 ^ (trimZeros ds).length := by positivity
  simp only [fractionNanos, htake, Nat.pow_eq]
  rw [hlen, pow_add, hvalue]
  rw [Nat.mul_left_comm, Nat.mul_div_cancel_left _ hpow]

/-! ### Components -/

/-- The length of a component in nanoseconds without any bound on it; a component with an unknown
unit has none. -/
def Component.exactNanos (c : Component) : ℕ :=
  (unitOf? c.unit).elim 0 fun unit =>
    value c.whole * unit.nanos + fractionNanos c.fraction unit.nanos

lemma unit_nanos_pos (unit : TimeUnit) : 0 < unit.nanos := by
  cases unit <;> decide

lemma unit_nanos_lt (unit : TimeUnit) : unit.nanos < 10 ^ 18 := by
  cases unit <;> norm_num [TimeUnit.nanos]

/-- A component with digits and a known unit is read as its exact length, as long as that is in
range. -/
lemma nanos_eq_checked {c : Component} {unit : TimeUnit} (hd : c.whole ≠ [] ∨ c.fraction ≠ [])
    (hu : unitOf? c.unit = some unit) : c.nanos = checked c.exactNanos := by
  have hdigits : ¬ (c.whole = [] ∧ c.fraction = []) := by
    rintro ⟨hw, hf⟩
    exact hd.elim (fun h => h hw) fun h => h hf
  have hne : c.unit ≠ [] := by
    intro h
    rw [h] at hu
    cases hu
  have hpos := unit_nanos_pos unit
  have hexact :
      c.exactNanos = value c.whole * unit.nanos + fractionNanos c.fraction unit.nanos := by
    rw [Component.exactNanos, hu]
    rfl
  have hle : value c.whole ≤ value c.whole * unit.nanos := Nat.le_mul_of_pos_right _ hpos
  have hwhole : checkedValue c.whole =
      if value c.whole < bound then .ok (value c.whole) else .error .overflow := by
    rw [checkedValue, valueBelow?_eq c.whole (by decide)]
    split <;> rfl
  -- a bound that an intermediate result exceeds is exceeded by the length as well
  simp only [Component.nanos, if_neg hdigits, if_neg hne, hu, hwhole, hexact, checked]
  by_cases h₁ : value c.whole < bound
  · by_cases h₂ : value c.whole * unit.nanos < bound
    · simp [h₁, h₂, bind, Except.bind]
    · have h₃ : ¬ value c.whole * unit.nanos + fractionNanos c.fraction unit.nanos < bound := by
        omega
      simp [h₁, h₂, h₃, bind, Except.bind]
  · have h₃ : ¬ value c.whole * unit.nanos + fractionNanos c.fraction unit.nanos < bound := by
      omega
    simp [h₁, h₃, bind, Except.bind]

/-- A written unit does not look like a number. -/
def UnitText (unit : List Char) : Prop :=
  unit ≠ [] ∧ unit.all (!startsNumber ·)

instance (unit : List Char) : Decidable (UnitText unit) :=
  inferInstanceAs (Decidable (_ ∧ _))

lemma UnitText.span {unit rest : List Char} (hu : UnitText unit)
    (hr : Stops (!startsNumber ·) rest) :
    (unit ++ rest).takeWhile (!startsNumber ·) = unit ∧
      (unit ++ rest).dropWhile (!startsNumber ·) = rest :=
  span_append (List.all_eq_true.1 hu.2) hr

lemma UnitText.first {unit : List Char} (hu : UnitText unit) :
    ∃ c cs, unit = c :: cs ∧ c.isDigit = false ∧ c ≠ '.' := by
  obtain ⟨c, cs, rfl⟩ := List.exists_cons_of_ne_nil hu.1
  have hfirst : startsNumber c = false := by
    simpa using List.all_eq_true.1 hu.2 c List.mem_cons_self
  simp only [startsNumber, Bool.or_eq_false_iff, beq_eq_false_iff_ne] at hfirst
  exact ⟨c, cs, rfl, hfirst⟩

lemma cut_whole {whole unit rest : List Char} (hw : ∀ c ∈ whole, c.isDigit) (hu : UnitText unit)
    (hr : Stops (!startsNumber ·) rest) :
    cut (whole ++ (unit ++ rest)) = (⟨whole, [], unit⟩, rest) := by
  have hunit := hu.span hr
  obtain ⟨c, cs, rfl, hdigit, hpoint⟩ := hu.first
  have hstop : Stops Char.isDigit (c :: cs ++ rest) := hdigit
  have hspan := span_append hw hstop
  rw [List.cons_append] at hunit hspan ⊢
  simp only [cut, hspan, cutFraction, if_neg hpoint, hunit]

lemma cut_point {whole fraction unit rest : List Char} (hw : ∀ c ∈ whole, c.isDigit)
    (hf : ∀ c ∈ fraction, c.isDigit) (hu : UnitText unit) (hr : Stops (!startsNumber ·) rest) :
    cut (whole ++ '.' :: (fraction ++ (unit ++ rest))) = (⟨whole, fraction, unit⟩, rest) := by
  have hunit := hu.span hr
  obtain ⟨c, cs, rfl, hdigit, -⟩ := hu.first
  have hpoint : Stops Char.isDigit ('.' :: (fraction ++ (c :: cs ++ rest))) := rfl
  have hstop : Stops Char.isDigit (c :: cs ++ rest) := hdigit
  have hspan := span_append hw hpoint
  have hspan' := span_append hf hstop
  simp only [cut, hspan, cutFraction, if_true, hspan', hunit]

/-- A number with a unit behind it is cut into its digits and the unit. -/
lemma cut_fixedPoint {unit : List Char} (hu : UnitText unit) (n places : ℕ) :
    cut (fixedPoint n places ++ unit) =
      (⟨digits (n / 10 ^ places), trimZeros (padded places (n % 10 ^ places)), unit⟩, []) := by
  have hend : Stops (!startsNumber ·) ([] : List Char) := trivial
  have hwhole : ∀ x ∈ digits (n / 10 ^ places), x.isDigit := fun x hx => isDigit_of_mem_digits hx
  by_cases hf : trimZeros (padded places (n % 10 ^ places)) = []
  · -- no fraction: the unit stands right behind the whole part
    have hcut := cut_whole hwhole hu hend
    rw [List.append_nil] at hcut
    rw [fixedPoint, Nat.pow_eq, if_pos hf, hf, List.append_nil, hcut]
  · have hfraction : ∀ x ∈ trimZeros (padded places (n % 10 ^ places)), x.isDigit := by
      intro x hx
      refine isDigit_of_mem_padded (w := places) (n := n % 10 ^ places) ?_
      rw [trimZeros, List.mem_reverse] at hx
      exact List.mem_reverse.1 ((List.dropWhile_sublist _).mem hx)
    have hcut := cut_point hwhole hfraction hu hend
    rw [List.append_nil] at hcut
    rw [fixedPoint, Nat.pow_eq, if_neg hf, List.append_assoc, List.cons_append, hcut]

lemma sum_eq {total : ℕ} {s r : List Char} {c : Component} (hs : s ≠ []) (h : cut s = (c, r)) :
    sum total s = c.nanos >>= fun n => checked (total + n) >>= fun total => sum total r := by
  rw [sum, if_neg hs]
  split
  next c' r' h' =>
    obtain ⟨rfl, rfl⟩ := Prod.mk.inj (h.symm.trans h')
    split
    next e he => rw [he]; rfl
    next n hn =>
      rw [hn]
      split
      next e he => exact (congrArg (· >>= fun total => sum total r) he).symm
      next m hm => exact (congrArg (· >>= fun total => sum total r) hm).symm

/-! ### Magnitudes -/

lemma fixedPoint_zero (n : ℕ) : fixedPoint n 0 = digits n := by
  have hp : trimZeros (padded 0 0) = [] := by decide
  simp [fixedPoint, Nat.mod_one, hp]

lemma fractionNanos_padded {m places : ℕ} (hm : m < 10 ^ places) (hp : places ≤ fractionDigits) :
    fractionNanos (trimZeros (padded places m)) (10 ^ places) = m := by
  rcases Nat.eq_zero_or_pos places with rfl | hpos
  · obtain rfl : m = 0 := by simpa using hm
    decide
  · have hlen := length_padded hpos hm
    have h := fractionNanos_trimZeros (padded places m) (by omega)
    rwa [hlen, value_padded] at h

/-- The units of magnitudes: how they are written, and to how many places they resolve. -/
lemma magnitudeText_eq (n : ℕ) :
    ∃ (places : ℕ) (unit : TimeUnit) (text : List Char),
      magnitudeText n = fixedPoint n places ++ text ∧ UnitText text ∧ unitOf? text = some unit ∧
        unit.nanos = 10 ^ places ∧ places ≤ fractionDigits := by
  unfold magnitudeText
  split
  · exact ⟨9, .second, ['s'], rfl, by decide, rfl, rfl, by decide⟩
  · split
    · exact ⟨6, .millisecond, ['m', 's'], rfl, by decide, rfl, rfl, by decide⟩
    · split
      · exact ⟨3, .microsecond, ['\xb5', 's'], rfl, by decide, rfl, rfl, by decide⟩
      · refine ⟨0, .nanosecond, ['n', 's'], ?_, by decide, rfl, rfl, by decide⟩
        rw [fixedPoint_zero]

/-- **A magnitude is one component that says exactly how long it is.** -/
theorem cut_magnitudeText (n : ℕ) :
    ∃ c, cut (magnitudeText n) = (c, []) ∧ c.exactNanos = n ∧ c.nanos = checked n := by
  obtain ⟨places, unit, text, htext, hunit, hof, hnanos, hplaces⟩ := magnitudeText_eq n
  have hcut := cut_fixedPoint hunit n places
  have hmod : n % 10 ^ places < 10 ^ places := Nat.mod_lt _ (by positivity)
  have hexact : Component.exactNanos ⟨digits (n / 10 ^ places),
      trimZeros (padded places (n % 10 ^ places)), text⟩ = n := by
    rw [Component.exactNanos, hof]
    show value (digits (n / 10 ^ places)) * unit.nanos + fractionNanos _ unit.nanos = n
    rw [value_digits, hnanos, fractionNanos_padded hmod hplaces, Nat.div_add_mod']
  refine ⟨_, htext ▸ hcut, hexact, ?_⟩
  rw [nanos_eq_checked (Or.inl (digits_ne_nil _)) hof, hexact]

lemma magnitudeText_injective : Function.Injective magnitudeText := by
  intro m n h
  obtain ⟨c, hc, hm, -⟩ := cut_magnitudeText m
  obtain ⟨d, hd, hn, -⟩ := cut_magnitudeText n
  rw [h, hd] at hc
  obtain rfl : d = c := congrArg Prod.fst hc
  exact hm.symm.trans hn

lemma magnitudeText_cons (n : ℕ) :
    ∃ c d cs, magnitudeText n = c :: d :: cs ∧ c.isDigit := by
  obtain ⟨places, unit, text, htext, ⟨hne, -⟩, -⟩ := magnitudeText_eq n
  obtain ⟨c, cs, hcs⟩ := List.exists_cons_of_ne_nil (digits_ne_nil (n / 10 ^ places))
  have hc : c.isDigit := isDigit_of_mem_digits (n := n / 10 ^ places) (by rw [hcs]; simp)
  -- what follows the first digit has the unit at its end
  obtain ⟨d, ds, hds⟩ := List.exists_cons_of_ne_nil (List.append_ne_nil_of_right_ne_nil
    (cs ++ if trimZeros (padded places (n % 10 ^ places)) = [] then []
      else '.' :: trimZeros (padded places (n % 10 ^ places))) hne)
  refine ⟨c, d, ds, ?_, hc⟩
  rw [← hds, htext, fixedPoint, Nat.pow_eq, hcs]
  rfl

/-- The magnitude alone is read as its length, as long as that is in range. -/
lemma sum_magnitudeText (n : ℕ) : sum 0 (magnitudeText n) = checked n := by
  obtain ⟨c, d, cs, hcons, -⟩ := magnitudeText_cons n
  obtain ⟨component, hcut, -, hnanos⟩ := cut_magnitudeText n
  have hne : magnitudeText n ≠ [] := by
    rw [hcons]
    exact List.cons_ne_nil _ _
  rw [sum_eq hne hcut, hnanos]
  -- the only summand is in range by itself
  unfold checked
  split
  next hlt =>
    show (checked (0 + n) >>= fun total => sum total []) = .ok n
    rw [Nat.zero_add, checked, if_pos hlt]
    show sum n [] = .ok n
    rw [sum, if_pos rfl]
  next => rfl

/-! ### Whole texts -/

lemma length?_of_nonneg {d : Duration} (h : 0 ≤ d.nanos) : d.length? = some d.nanos.natAbs := by
  rw [length?, if_neg (not_lt.2 h)]
  congr 1
  omega

/-- Every magnitude has a length. -/
lemma displayOr_eq (other : Duration → String) (d : Duration) :
    d.displayOr other =
      String.ofList ((if d.nanos < 0 then ['-'] else []) ++ magnitudeText d.nanos.natAbs) := by
  by_cases h : d.nanos < 0
  · have hlength := length?_of_nonneg (d := d.opposite) (by simp only [opposite]; omega)
    rw [opposite, Int.natAbs_neg] at hlength
    simp only [displayOr, if_pos h, opposite, hlength]
  · simp only [displayOr, if_neg h, length?_of_nonneg (not_lt.1 h)]

lemma display_toList (d : Duration) :
    d.display.toList = (if d.nanos < 0 then ['-'] else []) ++ magnitudeText d.nanos.natAbs := by
  rw [display, displayOr_eq, String.toList_ofList]

lemma splitSign_display (d : Duration) :
    splitSign d.display.toList = (decide (d.nanos < 0), magnitudeText d.nanos.natAbs) := by
  rw [display_toList]
  by_cases h : d.nanos < 0
  · simp [h, splitSign]
  · obtain ⟨c, e, cs, hcons, hc⟩ := magnitudeText_cons d.nanos.natAbs
    have hminus : c ≠ '-' := by
      rintro rfl
      revert hc
      decide
    have hplus : c ≠ '+' := by
      rintro rfl
      revert hc
      decide
    simp [h, hcons, splitSign, hminus, hplus]

/-- What a sign and a magnitude make. -/
lemma nanos_eq_signed (d : Duration) :
    (if decide (d.nanos < 0) = true then -(d.nanos.natAbs : ℤ) else d.nanos.natAbs) = d.nanos := by
  simp only [decide_eq_true_eq]
  split <;> omega

theorem parse_display (d : Duration) :
    parse d.display = if d.Storable then .ok d else .error .overflow := by
  obtain ⟨c, e, cs, hcons, -⟩ := magnitudeText_cons d.nanos.natAbs
  have hzero : magnitudeText d.nanos.natAbs ≠ ['0'] := by
    rw [hcons]
    simp
  have hne : magnitudeText d.nanos.natAbs ≠ [] := by
    rw [hcons]
    simp
  rw [parse, parseChars, splitSign_display]
  simp only [if_neg hzero, if_neg hne, sum_magnitudeText]
  by_cases hb : d.nanos.natAbs < bound
  · rw [checked, if_pos hb]
    simp only [ofSum]
    rw [nanos_eq_signed]
    rfl
  · -- a magnitude of more than 128 bits does not fit in 64
    have hs : ¬ d.Storable := by
      intro h
      simp only [Storable, Fits64, bound] at h hb
      omega
    rw [checked, if_neg hb, if_neg hs]

theorem display_injective : Function.Injective display := by
  intro d e h
  have hsplit := congrArg (fun s => splitSign s.toList) h
  simp only [splitSign_display, Prod.mk.injEq, decide_eq_decide] at hsplit
  obtain ⟨hsign, htext⟩ := hsplit
  have hmagnitude := magnitudeText_injective htext
  cases d
  cases e
  simp only [Duration.mk.injEq] at hsign hmagnitude ⊢
  omega

/-- **The text of an elapsed time loses nothing.** Reading it gives the elapsed time back if that
can be stored, and fails for its range alone otherwise. No elapsed time is without a magnitude, and
no two have the same text. -/
theorem display_lossless :
    (∀ d : Duration, parse d.display = if d.Storable then .ok d else .error .overflow) ∧
      (∀ (other : Duration → String) (d : Duration), d.displayOr other = d.display) ∧
      Function.Injective display := by
  refine ⟨parse_display, ?_, display_injective⟩
  intro other d
  rw [display, displayOr_eq, displayOr_eq]

end EventLog.Duration
