import EventLog.Proofs.Duration

/-!
# The grammar of elapsed times

What the text of an elapsed time looks like, apart from any reader, and how many nanoseconds it
stands for. A text is a sign and a row of amounts, each a number in a unit. The amounts need nothing
between them: a unit has neither digits nor points in it, so that it ends where the next number
starts.

Each amount counts down to whole nanoseconds by itself, and the sum may be of any size; the reader
answers for those sums that fit in 64 bits. No bound on its intermediate results shows, since all of
them are at most the sum.

* `Duration.Amount`, `Duration.Spells`: the texts of elapsed times.
* `Duration.parse_of_spells`: what is read from such a text.
* `Duration.spells_of_parse`: nothing is read from any other.
* `Duration.parse_grammar`: both, and that a text is taken apart in one way.
-/

namespace EventLog

/-- The written forms of a unit. -/
def TimeUnit.names : TimeUnit → List (List Char)
  | .nanosecond => [['n', 's']]
  | .microsecond => [['u', 's'], ['\xb5', 's'], ['\u03bc', 's']]
  | .millisecond => [['m', 's']]
  | .second => [['s']]
  | .minute => [['m']]
  | .hour => [['h']]

namespace Duration

open Text

/-! ### Texts and what they stand for -/

/-- A number in a unit. -/
@[ext]
structure Amount where
  /-- The digits before the point. -/
  whole : List Char
  /-- The digits after the point. -/
  fraction : List Char
  /-- The unit. -/
  unit : TimeUnit
  whole_digits : ∀ c ∈ whole, c.isDigit
  fraction_digits : ∀ c ∈ fraction, c.isDigit
  /-- There is a digit before or after the point. -/
  some_digit : whole ≠ [] ∨ fraction ≠ []

/-- What is written for an amount. Without digits after it, the point may be left out. -/
inductive AmountText (a : Amount) : List Char → Prop
  | whole {name : List Char} (fraction : a.fraction = []) (name_mem : name ∈ a.unit.names) :
      AmountText a (a.whole ++ name)
  | point {name : List Char} (name_mem : name ∈ a.unit.names) :
      AmountText a (a.whole ++ '.' :: (a.fraction ++ name))

/-- What is written for amounts one after the other. -/
inductive AmountsText : List Amount → List Char → Prop
  | nil : AmountsText [] []
  | cons {a : Amount} {as : List Amount} {s t : List Char} (head : AmountText a s)
      (tail : AmountsText as t) : AmountsText (a :: as) (s ++ t)

/-- The signs; no sign is needed unless it is a minus. -/
def signs : Bool → List (List Char)
  | false => [[], ['+']]
  | true => [['-']]

/-- The texts of elapsed times: a sign, which is a minus or not, and then at least one amount, or a
bare zero in place of any. -/
inductive Spells (negative : Bool) : List Amount → String → Prop
  | zero {sign : List Char} {s : String} (sign_mem : sign ∈ signs negative)
      (text : s.toList = sign ++ ['0']) : Spells negative [] s
  | amounts {sign t : List Char} {a : Amount} {as : List Amount} {s : String}
      (sign_mem : sign ∈ signs negative) (amounts : AmountsText (a :: as) t)
      (text : s.toList = sign ++ t) : Spells negative (a :: as) s

/-- The nanoseconds of an amount. Of its fraction the first eighteen digits count, for as many whole
nanoseconds as they make. -/
def Amount.nanos (a : Amount) : ℕ :=
  value a.whole * a.unit.nanos +
    value (a.fraction.take 18) * a.unit.nanos / 10 ^ min 18 a.fraction.length

/-- A whole number of units. -/
def Amount.ofNat (n : ℕ) (unit : TimeUnit) : Amount where
  whole := digits n
  fraction := []
  unit := unit
  whole_digits := fun _ => isDigit_of_mem_digits
  fraction_digits := fun _ h => absurd h List.not_mem_nil
  some_digit := Or.inl (digits_ne_nil n)

/-- A number with digits at so many places after the point. -/
def Amount.decimal (n places m : ℕ) (unit : TimeUnit) : Amount where
  whole := digits n
  fraction := padded places m
  unit := unit
  whole_digits := fun _ => isDigit_of_mem_digits
  fraction_digits := fun _ => isDigit_of_mem_padded
  some_digit := Or.inl (digits_ne_nil n)

/-- The sum of some amounts with a sign, where `length` tells the nanoseconds of each. -/
def signedSum (length : Amount → ℕ) (negative : Bool) (as : List Amount) : ℤ :=
  if negative then -((as.map length).sum : ℤ) else (as.map length).sum

/-- The elapsed time that a sum of amounts makes, if it fits in 64 bits. -/
def ofAmounts (length : Amount → ℕ) (negative : Bool) (as : List Amount) : Except Fault Duration :=
  if Fits64 (signedSum length negative as) then .ok ⟨signedSum length negative as⟩
  else .error .overflow

/-! ### Amounts are cut off -/

lemma unitOf?_eq_some {name : List Char} {unit : TimeUnit} :
    unitOf? name = some unit ↔ name ∈ unit.names := by
  constructor
  · intro h
    unfold unitOf? at h
    split_ifs at h with h₁ h₂ h₃ h₄ h₅ h₆
    · cases h
      rw [h₁]
      decide
    · cases h
      rcases h₂ with rfl | rfl | rfl <;> decide
    all_goals
      cases h
      subst name
      decide
  · have hall : ∀ unit : TimeUnit, ∀ name ∈ unit.names, unitOf? name = some unit := by
      intro unit
      cases unit <;> decide
    exact hall unit name

lemma unitText_of_mem {name : List Char} {unit : TimeUnit} (h : name ∈ unit.names) :
    UnitText name := by
  have hall : ∀ name ∈ unit.names, UnitText name := by
    cases unit <;> decide
  exact hall name h

/-- A written amount is cut off a text that goes on with the next one or not at all. -/
lemma AmountText.cut {a : Amount} {s rest : List Char} (h : AmountText a s)
    (hr : Stops (!startsNumber ·) rest) :
    ∃ name ∈ a.unit.names, Duration.cut (s ++ rest) = (⟨a.whole, a.fraction, name⟩, rest) := by
  cases h with
  | @whole name fraction name_mem =>
    refine ⟨name, name_mem, ?_⟩
    rw [List.append_assoc, cut_whole a.whole_digits (unitText_of_mem name_mem) hr, fraction]
  | @point name name_mem =>
    refine ⟨name, name_mem, ?_⟩
    rw [List.append_assoc, List.cons_append, List.append_assoc,
      cut_point a.whole_digits a.fraction_digits (unitText_of_mem name_mem) hr]

lemma AmountText.first {a : Amount} {s : List Char} (h : AmountText a s) :
    ∃ c cs, s = c :: cs ∧ startsNumber c := by
  have hdigit : ∀ c cs, a.whole = c :: cs → startsNumber c := by
    intro c cs hc
    have hmem : c ∈ a.whole := hc ▸ List.mem_cons_self
    rw [startsNumber, a.whole_digits c hmem, Bool.true_or]
  rcases hw : a.whole with _ | ⟨c, cs⟩
  · cases h with
    | whole fraction name_mem => exact absurd fraction (a.some_digit.resolve_left fun h => h hw)
    | point name_mem => exact ⟨'.', _, by rw [hw]; rfl, rfl⟩
  · cases h with
    | whole fraction name_mem => exact ⟨c, _, by rw [hw]; rfl, hdigit c cs hw⟩
    | point name_mem => exact ⟨c, _, by rw [hw]; rfl, hdigit c cs hw⟩

lemma AmountsText.stops {as : List Amount} {s : List Char} (h : AmountsText as s) :
    Stops (!startsNumber ·) s := by
  cases h with
  | nil => trivial
  | cons head tail =>
    obtain ⟨c, cs, rfl, hc⟩ := head.first
    exact (congrArg Bool.not hc).trans rfl

/-- A component is as long as the amount that it tells, as long as that is in range. -/
lemma Amount.nanos_eq_checked (a : Amount) {name : List Char} (h : name ∈ a.unit.names) :
    (⟨a.whole, a.fraction, name⟩ : Component).nanos = checked a.nanos := by
  have hunit := unitOf?_eq_some.2 h
  have hexact : (⟨a.whole, a.fraction, name⟩ : Component).exactNanos = a.nanos := by
    simp only [Component.exactNanos, hunit, Option.elim_some, fractionNanos, fractionDigits,
      Nat.pow_eq, List.length_take, Amount.nanos]
  rw [Duration.nanos_eq_checked (c := ⟨a.whole, a.fraction, name⟩) a.some_digit hunit, hexact]

lemma Component.written_of_nanos {c : Component} {n : ℕ} (h : c.nanos = .ok n) :
    (c.whole ≠ [] ∨ c.fraction ≠ []) ∧ ∃ unit, unitOf? c.unit = some unit := by
  have hunit := Component.unit_ne_nil h
  by_cases hnone : c.whole = [] ∧ c.fraction = []
  · simp only [Component.nanos, if_pos hnone] at h
    cases h
  · refine ⟨not_and_or.1 hnone, ?_⟩
    cases hu : unitOf? c.unit with
    | none =>
      simp only [Component.nanos, if_neg hnone, if_neg hunit, hu] at h
      cases h
    | some unit => exact ⟨unit, rfl⟩

lemma amount_of_cut {s r : List Char} {c : Component} {n : ℕ} (h : cut s = (c, r))
    (hn : c.nanos = .ok n) : ∃ a t, AmountText a t ∧ s = t ++ r := by
  have hdigit : ∀ l : List Char, ∀ x ∈ l.takeWhile Char.isDigit, x.isDigit :=
    fun l x hx => List.mem_takeWhile_imp hx
  obtain ⟨hsome, unit, hunit⟩ := Component.written_of_nanos hn
  have hwhole := List.takeWhile_append_dropWhile (p := Char.isDigit) (l := s)
  rcases hs : s.dropWhile Char.isDigit with _ | ⟨d, u⟩
  · -- the text has no unit
    simp only [cut, hs, cutFraction, Prod.mk.injEq] at h
    obtain ⟨rfl, -⟩ := h
    cases hunit
  · rw [hs] at hwhole
    simp only [cut, hs, cutFraction] at h
    split_ifs at h with hd
    · obtain ⟨rfl, rfl⟩ := Prod.mk.inj h
      refine ⟨⟨_, _, unit, hdigit s, hdigit u, hsome⟩, _, .point (unitOf?_eq_some.1 hunit), ?_⟩
      rw [List.append_assoc, List.cons_append, List.append_assoc, List.takeWhile_append_dropWhile,
        List.takeWhile_append_dropWhile, ← hd, hwhole]
    · obtain ⟨rfl, rfl⟩ := Prod.mk.inj h
      refine ⟨⟨_, [], unit, hdigit s, fun _ h => absurd h List.not_mem_nil, hsome⟩, _,
        .whole rfl (unitOf?_eq_some.1 hunit), ?_⟩
      rw [List.append_assoc, List.takeWhile_append_dropWhile, hwhole]

/-! ### Amounts are added up -/

/-- **Written amounts are added up** as long as the sum is in range. -/
lemma sum_of_amounts {as : List Amount} {s : List Char} (h : AmountsText as s) {total : ℕ}
    (ht : total < bound) : sum total s = checked (total + (as.map Amount.nanos).sum) := by
  induction h generalizing total with
  | nil => rw [sum, if_pos rfl, List.map_nil, List.sum_nil, Nat.add_zero, checked, if_pos ht]
  | @cons a as s t head tail ih =>
    obtain ⟨c, cs, hs, -⟩ := head.first
    obtain ⟨name, hname, hcut⟩ := head.cut tail.stops
    have hne : s ++ t ≠ [] := by
      rw [hs]
      exact List.cons_ne_nil _ _
    rw [sum_eq hne hcut, a.nanos_eq_checked hname, List.map_cons, List.sum_cons, ← Nat.add_assoc]
    -- what exceeds the bound with this amount exceeds it with the others as well
    by_cases ha : total + a.nanos < bound
    · have h₁ : checked a.nanos = .ok a.nanos := if_pos (by omega)
      have h₂ : checked (total + a.nanos) = .ok (total + a.nanos) := if_pos ha
      rw [h₁, ← ih ha]
      show (checked (total + a.nanos) >>= fun total => sum total t) = _
      rw [h₂]
      rfl
    · have h₃ : checked (total + a.nanos + (as.map Amount.nanos).sum) = .error .overflow :=
        if_neg (by omega)
      rw [h₃]
      by_cases hb : a.nanos < bound
      · rw [checked, if_pos hb]
        show (checked (total + a.nanos) >>= fun total => sum total t) = _
        rw [checked, if_neg ha]
        rfl
      · rw [checked, if_neg hb]
        rfl

/-- A text of which the components are added up is written amounts. -/
lemma amounts_of_sum {total n : ℕ} {s : List Char} (h : sum total s = .ok n) :
    ∃ as, AmountsText as s := by
  fun_induction sum total s with
  | case1 total => exact ⟨[], .nil⟩
  | case2 total s hs c r hcut e hc => cases h
  | case3 total s hs c r hcut m hm e he => cases h
  | case4 total s hs c r hcut m hm total' he ih =>
    obtain ⟨a, t, ha, rfl⟩ := amount_of_cut hcut hm
    obtain ⟨as, has⟩ := ih h
    exact ⟨a :: as, .cons ha has⟩

/-! ### Whole texts are read -/

lemma AmountsText.ne_nil {a : Amount} {as : List Amount} {t : List Char}
    (h : AmountsText (a :: as) t) : ∃ c cs, t = c :: cs ∧ startsNumber c := by
  cases h with
  | @cons _ _ s t head tail =>
    obtain ⟨c, cs, rfl, hc⟩ := head.first
    exact ⟨c, cs ++ t, rfl, hc⟩

/-- A bare zero is no amount, since it has no unit. -/
lemma AmountsText.ne_zero {a : Amount} {as : List Amount} {t : List Char}
    (h : AmountsText (a :: as) t) : t ≠ ['0'] := by
  intro hzero
  cases h with
  | cons head tail =>
    obtain ⟨name, hname, hcut⟩ := head.cut tail.stops
    rw [hzero] at hcut
    have hempty : [] = name := congrArg (fun p => p.1.unit) hcut
    exact (unitText_of_mem hname).1 hempty.symm

lemma splitSign_append {negative : Bool} {sign : List Char} (h : sign ∈ signs negative) {c : Char}
    (hc : startsNumber c) (cs : List Char) : splitSign (sign ++ c :: cs) = (negative, c :: cs) := by
  have hminus : c ≠ '-' := by
    rintro rfl
    exact absurd hc (by decide)
  have hplus : c ≠ '+' := by
    rintro rfl
    exact absurd hc (by decide)
  cases negative with
  | false =>
    rcases List.mem_cons.1 h with rfl | h
    · rw [List.nil_append, splitSign, if_neg hminus, if_neg hplus]
    · rw [List.mem_singleton.1 h]
      rfl
  | true =>
    rw [List.mem_singleton.1 h]
    rfl

/-- What is split off a text is a sign. -/
lemma splitSign_sound {s t : List Char} {negative : Bool} (h : splitSign s = (negative, t)) :
    ∃ sign ∈ signs negative, s = sign ++ t := by
  cases s with
  | nil =>
    obtain ⟨rfl, rfl⟩ := Prod.mk.inj h
    exact ⟨[], by decide, rfl⟩
  | cons c r =>
    simp only [splitSign] at h
    split_ifs at h with hminus hplus
    · obtain ⟨rfl, rfl⟩ := Prod.mk.inj h
      exact ⟨['-'], by decide, by rw [hminus]; rfl⟩
    · obtain ⟨rfl, rfl⟩ := Prod.mk.inj h
      exact ⟨['+'], by decide, by rw [hplus]; rfl⟩
    · obtain ⟨rfl, rfl⟩ := Prod.mk.inj h
      exact ⟨[], by decide, rfl⟩

lemma Spells.split {negative : Bool} {as : List Amount} {s : String} (h : Spells negative as s) :
    ∃ t, splitSign s.toList = (negative, t) ∧
      ((as = [] ∧ t = ['0']) ∨ (AmountsText as t ∧ t ≠ ['0'] ∧ t ≠ [])) := by
  cases h with
  | zero sign_mem text =>
    rw [text]
    exact ⟨_, splitSign_append sign_mem (by decide) [], Or.inl ⟨rfl, rfl⟩⟩
  | amounts sign_mem amounts text =>
    obtain ⟨c, cs, hc, hstart⟩ := amounts.ne_nil
    refine ⟨_, ?_, Or.inr ⟨amounts, amounts.ne_zero, ?_⟩⟩
    · rw [text, hc]
      exact splitSign_append sign_mem hstart cs
    · rw [hc]
      exact List.cons_ne_nil _ _

/-- **A text of amounts is read as their sum**, if that fits in 64 bits; if not, that is what is
wrong with it. -/
theorem parse_of_spells {negative : Bool} {as : List Amount} {s : String}
    (h : Spells negative as s) : parse s = ofAmounts Amount.nanos negative as := by
  obtain ⟨t, hsplit, ⟨rfl, rfl⟩ | ⟨hamounts, hzero, hne⟩⟩ := h.split
  · have hsum : signedSum Amount.nanos negative [] = 0 := by
      cases negative <;> rfl
    rw [parse, parseChars, hsplit, ofAmounts, hsum]
    rfl
  · have hsum : sum 0 t = checked (0 + (as.map Amount.nanos).sum) :=
      sum_of_amounts hamounts (by decide)
    rw [Nat.zero_add] at hsum
    rw [parse, parseChars, hsplit]
    simp only [if_neg hzero, if_neg hne, hsum]
    by_cases hb : (as.map Amount.nanos).sum < bound
    · rw [checked, if_pos hb]
      rfl
    · -- a sum of more than 128 bits does not fit in 64
      have hfits : ¬ Fits64 (signedSum Amount.nanos negative as) := by
        simp only [Fits64, signedSum, bound] at hb ⊢
        split <;> omega
      rw [checked, if_neg hb, ofAmounts, if_neg hfits]

/-- **Nothing else is read.** -/
theorem spells_of_parse {s : String} {d : Duration} (h : parse s = .ok d) :
    ∃ negative as, Spells negative as s := by
  rcases hsplit : splitSign s.toList with ⟨negative, t⟩
  obtain ⟨sign, hsign, htext⟩ := splitSign_sound hsplit
  rw [parse, parseChars, hsplit] at h
  simp only at h
  split_ifs at h with hzero hne
  · exact ⟨negative, [], .zero hsign (hzero ▸ htext)⟩
  · split at h
    · cases h
    · next total hsum =>
      obtain ⟨as, has⟩ := amounts_of_sum hsum
      cases as with
      | nil =>
        cases has
        exact absurd rfl hne
      | cons a as => exact ⟨negative, a :: as, .amounts hsign has htext⟩

/-! ### Texts are taken apart in one way -/

lemma AmountsText.unique {as bs : List Amount} {s t : List Char} (h : AmountsText as s)
    (h' : AmountsText bs t) (he : s = t) : as = bs := by
  induction h generalizing bs t with
  | nil =>
    cases h' with
    | nil => rfl
    | cons head' tail' =>
      obtain ⟨c, cs, rfl, -⟩ := head'.first
      cases he
  | cons head tail ih =>
    cases h' with
    | nil =>
      obtain ⟨c, cs, rfl, -⟩ := head.first
      cases he
    | cons head' tail' =>
      -- both amounts are what is cut off the text
      obtain ⟨name, hname, hcut⟩ := head.cut tail.stops
      obtain ⟨name', hname', hcut'⟩ := head'.cut tail'.stops
      rw [he, hcut'] at hcut
      obtain ⟨hcomponent, hrest⟩ := Prod.mk.inj hcut
      obtain ⟨hwhole, hfraction, rfl⟩ := Component.mk.inj hcomponent
      have hunit := (unitOf?_eq_some.2 hname).symm.trans (unitOf?_eq_some.2 hname')
      rw [Amount.ext hwhole.symm hfraction.symm (Option.some.inj hunit), ih tail' hrest.symm]

/-- A text has one sign and one row of amounts. -/
theorem Spells.unique {negative negative' : Bool} {as bs : List Amount} {s : String}
    (h : Spells negative as s) (h' : Spells negative' bs s) : negative = negative' ∧ as = bs := by
  obtain ⟨t, hsplit, ht⟩ := h.split
  obtain ⟨t', hsplit', ht'⟩ := h'.split
  obtain ⟨rfl, rfl⟩ := Prod.mk.inj (hsplit.symm.trans hsplit')
  refine ⟨rfl, ?_⟩
  rcases ht with ⟨rfl, hzero⟩ | ⟨hamounts, hzero, -⟩
  · rcases ht' with ⟨rfl, -⟩ | ⟨-, hzero', -⟩
    · rfl
    · exact absurd hzero hzero'
  · rcases ht' with ⟨-, hzero'⟩ | ⟨hamounts', -⟩
    · exact absurd hzero' hzero
    · exact hamounts.unique hamounts' rfl

/-! ### The reader and the grammar -/

/-- **What is read of an elapsed time.** Reading gives a value exactly if the text is one of amounts
whose sum fits in 64 bits, and then it gives the sum. Sums that do not fit are reported as such, and
every text that is none of amounts is an error. A text is one of amounts in one way only. -/
theorem parse_grammar (s : String) :
    (∀ d, parse s = .ok d ↔ ∃ negative as, Spells negative as s ∧
        signedSum Amount.nanos negative as = d.nanos ∧ Fits64 d.nanos) ∧
      (∀ negative as, Spells negative as s → ¬ Fits64 (signedSum Amount.nanos negative as) →
        parse s = .error .overflow) ∧
      ((∀ negative as, ¬ Spells negative as s) → ∃ e, parse s = .error e) ∧
      ∀ negative as negative' bs, Spells negative as s → Spells negative' bs s →
        negative = negative' ∧ as = bs := by
  refine ⟨fun d => ⟨fun h => ?_, ?_⟩, fun negative as h hfits => ?_, fun h => ?_,
    fun _ _ _ _ h h' => h.unique h'⟩
  · obtain ⟨negative, as, hs⟩ := spells_of_parse h
    rw [parse_of_spells hs, ofAmounts] at h
    split_ifs at h with hfits
    cases h
    exact ⟨negative, as, hs, rfl, hfits⟩
  · rintro ⟨negative, as, hs, hsum, hfits⟩
    rw [parse_of_spells hs, ofAmounts, hsum, if_pos hfits]
  · rw [parse_of_spells h, ofAmounts, if_neg hfits]
  · cases hparse : parse s with
    | error e => exact ⟨e, rfl⟩
    | ok d =>
      obtain ⟨negative, as, hs⟩ := spells_of_parse hparse
      exact absurd hs (h negative as)

/-- The least elapsed time in two units and the number after the greatest one, and an amount that is
followed by a number without a unit. -/
theorem parse_grammar_limits :
    parse "-9223372036s854775.808us" = .ok ⟨-0x8000000000000000⟩ ∧
      parse "+9223372036854775808ns" = .error .overflow ∧
      ∃ e, parse "1h30" = .error e := by
  let seconds := Amount.ofNat 9223372036 .second
  let micros := Amount.decimal 854775 3 808 .microsecond
  let nanos := Amount.ofNat 9223372036854775808 .nanosecond
  have hseconds : AmountText seconds (digits 9223372036 ++ ['s']) := .whole rfl (by decide)
  have hmicros : AmountText micros (digits 854775 ++ '.' :: (padded 3 808 ++ ['u', 's'])) :=
    .point (by decide)
  have hnanos : AmountText nanos (digits 9223372036854775808 ++ ['n', 's']) :=
    .whole rfl (by decide)
  have hleast : Spells true [seconds, micros] "-9223372036s854775.808us" :=
    .amounts (List.mem_singleton.2 rfl) (.cons hseconds (.cons hmicros .nil)) (by decide +kernel)
  have hplus : ['+'] ∈ signs false := by decide
  have hbeyond : Spells false [nanos] "+9223372036854775808ns" :=
    .amounts hplus (.cons hnanos .nil) (by decide +kernel)
  have hother : ∀ negative as, ¬ Spells negative as "1h30" := by
    intro negative as h
    have hunit : parse "1h30" = .error .missingUnit := by decide +kernel
    have hsum := (parse_of_spells h).symm.trans hunit
    unfold ofAmounts at hsum
    split_ifs at hsum
    cases hsum
  exact ⟨((parse_grammar _).1 _).2 ⟨true, _, hleast, by decide +kernel, by decide⟩,
    (parse_grammar _).2.1 false _ hbeyond (by decide +kernel), (parse_grammar _).2.2.1 hother⟩

end Duration

end EventLog
