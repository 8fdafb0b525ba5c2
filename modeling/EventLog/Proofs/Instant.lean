import EventLog.Instant.Display
import EventLog.Instant.Reader
import EventLog.Proofs.Calendar
import EventLog.Proofs.Text.Digits

/-!
# Instants, written and read

An instant is written as a clock shows it, and clocks differ by whole minutes. The text is read part
by part: the year with its sign, the month, the day and the time of day with two digits each, the
fraction with as many digits as it has, and how far the clock is ahead of universal time. Less this,
the parts make up the instant again, in whatever year, month or day the clock is, since the number
of a date undoes the date of a number. The exact text of an instant is what a clock at universal
time shows.

* `Instant.ClockText`: the texts of an instant on a clock.
* `Instant.readParts_timeText`: the parts that are read.
* `Instant.parse_clockText`: every text of an instant is read as the instant.
* `Instant.parse_exactText`: so is the text that is written.
-/

namespace EventLog.Instant

open Text

lemma isBlank_of_isDigit {c : Char} (h : c.isDigit) : isBlank c = false := by
  have hc := toNat_of_isDigit h
  simp only [isBlank, Bool.or_eq_false_iff, Bool.and_eq_false_iff, decide_eq_false_iff_not,
    beq_eq_false_iff_ne]
  omega

lemma skipBlank_cons {c : Char} (r : List Char) (h : isBlank c = false) :
    skipBlank (c :: r) = c :: r :=
  List.dropWhile_cons_of_neg (by simp [h])

/-! ### Rows of digits -/

section Digits

variable {ds rest : List Char}

lemma skipBlank_digits (hds : ∀ c ∈ ds, c.isDigit) (hne : ds ≠ []) :
    skipBlank (ds ++ rest) = ds ++ rest := by
  cases ds with
  | nil => exact absurd rfl hne
  | cons c ds => exact skipBlank_cons _ (isBlank_of_isDigit (hds c List.mem_cons_self))

lemma readDigits_digits (hds : ∀ c ∈ ds, c.isDigit) (hne : ds ≠ []) (h : Stops Char.isDigit rest) :
    readDigits (ds ++ rest) = .ok (ds, rest) := by
  obtain ⟨h₁, h₂⟩ := span_append hds h
  cases ds with
  | nil => exact absurd rfl hne
  | cons c ds =>
    have hc : c.isDigit := hds c List.mem_cons_self
    rw [List.cons_append] at h₁ h₂ ⊢
    rw [readDigits, if_pos hc, h₁, h₂]

lemma readNumber_digits (hds : ∀ c ∈ ds, c.isDigit) (hne : ds ≠ []) (h : Stops Char.isDigit rest) :
    readNumber ds.length (ds ++ rest) = .ok (value ds, rest) := by
  rw [readNumber, readDigits_digits hds hne h]
  simp only [bind, Except.bind, List.take_length, List.drop_left]
  rfl

lemma readBelow_digits {bound : ℕ} (hds : ∀ c ∈ ds, c.isDigit) (hne : ds ≠ [])
    (h : Stops Char.isDigit rest) (hb : value ds < bound) :
    readBelow bound (ds ++ rest) = .ok (value ds, rest) := by
  have hv : valueBelow? bound ds = some (value ds) := by
    rw [valueBelow?_eq ds (Nat.zero_lt_of_lt hb), if_pos hb]
  rw [readBelow, readDigits_digits hds hne h]
  simp only [bind, Except.bind, hv]
  rfl

end Digits

/-! ### The parts -/

lemma readPart_padded {least most n : ℕ} {rest : List Char} (h : Stops Char.isDigit rest)
    (h₁ : least ≤ n) (h₂ : n ≤ most) (h₃ : n < 100) :
    readPart least most (padded 2 n ++ rest) = .ok (n, rest) := by
  have hds : ∀ c ∈ padded 2 n, c.isDigit := fun _ => isDigit_of_mem_padded
  have hne := padded_ne_nil 2 n
  have hnum := readNumber_digits hds hne h
  rw [length_padded (by decide) h₃, value_padded] at hnum
  rw [readPart, skipBlank_digits hds hne, hnum]
  simp only [bind, Except.bind, if_pos (And.intro h₁ h₂)]
  rfl

lemma readMark_cons {c : Char} (r : List Char) (h : isBlank c = false) :
    readMark c (c :: r) = .ok r := by
  rw [readMark, skipBlank_cons r h]
  exact if_pos rfl

lemma readYear_yearText {year : ℤ} {rest : List Char} (h : Stops Char.isDigit rest)
    (h₁ : firstYear ≤ year) (h₂ : year ≤ lastYear) :
    readYear (yearText year ++ rest) = .ok (year, rest) := by
  simp only [firstYear, lastYear] at h₁ h₂
  have hds : ∀ n, ∀ c ∈ padded 4 n, c.isDigit := fun _ _ => isDigit_of_mem_padded
  rw [yearText]
  split_ifs with hplain hneg
  · -- four digits without a sign
    have hne := padded_ne_nil 4 year.toNat
    have hnum := readNumber_digits (hds year.toNat) hne h
    rw [length_padded (by decide) (by omega), value_padded] at hnum
    rw [readYear, skipBlank_digits (hds year.toNat) hne]
    obtain ⟨c, cs, hcs⟩ := List.exists_cons_of_ne_nil hne
    have hc : c.isDigit := hds year.toNat c (by rw [hcs]; exact List.mem_cons_self)
    rw [hcs] at hnum ⊢
    rw [List.cons_append] at hnum ⊢
    split
    · next r heq =>
      rw [(List.cons.inj heq).1] at hc
      exact absurd hc (by decide)
    · next r heq =>
      rw [(List.cons.inj heq).1] at hc
      exact absurd hc (by decide)
    · simp only [hnum, bind, Except.bind, Int.toNat_of_nonneg hplain.1]
      rfl
  · -- a minus sign
    have hb : value (padded 4 year.natAbs) < 0x80000001 := by
      rw [value_padded]
      omega
    have hnum := readBelow_digits (hds year.natAbs) (padded_ne_nil 4 year.natAbs) h hb
    rw [value_padded] at hnum
    have habs : -(year.natAbs : ℤ) = year := by omega
    rw [readYear, List.cons_append, skipBlank_cons _ (by decide)]
    simp only [hnum, bind, Except.bind, habs]
    rfl
  · -- a plus sign
    have hb : value (padded 4 year.natAbs) < 0x80000000 := by
      rw [value_padded]
      omega
    have hnum := readBelow_digits (hds year.natAbs) (padded_ne_nil 4 year.natAbs) h hb
    rw [value_padded] at hnum
    have habs : (year.natAbs : ℤ) = year := by omega
    rw [readYear, List.cons_append, skipBlank_cons _ (by decide)]
    simp only [hnum, bind, Except.bind, habs]
    rfl

/-! ### Fractions of a second -/

/-- The texts of a fraction of a second: none at all, or any number of digits after a point. The
first nine count nanoseconds; if there are fewer, zeros are missing. -/
inductive SubsecondText (nanos : ℕ) : List Char → Prop
  | none (zero : nanos = 0) : SubsecondText nanos []
  | digits {ds : List Char} (nonempty : ds ≠ []) (digits : ∀ c ∈ ds, c.isDigit)
      (counts : value ((ds ++ List.replicate 9 '0').take 9) = nanos) :
      SubsecondText nanos ('.' :: ds)

lemma value_nine (ds : List Char) : value ((ds ++ List.replicate 9 '0').take 9) =
    value (ds.take 9) * 10 ^ (9 - (ds.take 9).length) := by
  have hzeros : min (9 - ds.length) 9 = 9 - (ds.take 9).length := by
    rw [List.length_take]
    omega
  rw [List.take_append, List.take_replicate, hzeros, value_append_zeros]

lemma SubsecondText.stops {n : ℕ} {f rest : List Char} (h : SubsecondText n f)
    (hrest : Stops Char.isDigit rest) : Stops Char.isDigit (f ++ rest) := by
  cases h with
  | none => exact hrest
  | digits => rfl

/-- **A fraction is read** up to where its digits end. -/
lemma SubsecondText.read {n : ℕ} {f rest : List Char} (h : SubsecondText n f)
    (hrest : Stops Char.isDigit rest) (hpoint : ∀ r, rest ≠ '.' :: r) :
    readFraction (f ++ rest) = .ok (n, rest) := by
  cases h with
  | none zero =>
    rw [List.nil_append, readFraction, zero]
    · rfl
    · exact hpoint
  | @digits ds nonempty digits counts =>
    rw [value_nine] at counts
    rw [List.cons_append, readFraction, readDigits_digits digits nonempty hrest]
    simp only [bind, Except.bind, pure, Except.pure, Nat.pow_eq, counts]

lemma subsecondText_padded {w n : ℕ} (hw : 0 < w) (hle : w ≤ 9) (h : n < 10 ^ w) :
    SubsecondText (n * 10 ^ (9 - w)) ('.' :: padded w n) := by
  refine .digits (padded_ne_nil w n) (fun _ => isDigit_of_mem_padded) ?_
  have hlength := length_padded hw h
  rw [value_nine, List.take_of_length_le (by omega), value_padded, hlength]

/-- **The shortest exact fraction is a fraction.** -/
lemma subsecondText_fractionText {n : ℕ} (h : n < second) : SubsecondText n (fractionText n) := by
  simp only [second] at h
  rw [fractionText]
  split_ifs with h₀ h₃ h₆
  · exact .none h₀
  · have htext := subsecondText_padded (w := 3) (n := n / 1000000) (by decide) (by decide)
      (by omega)
    rwa [show n / 1000000 * 10 ^ (9 - 3) = n by omega] at htext
  · have htext := subsecondText_padded (w := 6) (n := n / 1000) (by decide) (by decide) (by omega)
    rwa [show n / 1000 * 10 ^ (9 - 6) = n by omega] at htext
  · have htext := subsecondText_padded (w := 9) (n := n) (by decide) (by decide) (by omega)
    rwa [show n * 10 ^ (9 - 9) = n by omega] at htext

/-! ### How far a clock is ahead -/

/-- The texts of how far a clock is ahead of universal time: a letter if it is not, or a sign, the
hours and the minutes. -/
inductive OffsetText (minutes : ℤ) : List Char → Prop
  | universal {c : Char} (zero : minutes = 0) (mem : c ∈ ['Z', 'z']) : OffsetText minutes [c]
  | ahead (nonneg : 0 ≤ minutes) : OffsetText minutes
      ('+' :: (padded 2 (minutes.natAbs / 60) ++ ':' :: padded 2 (minutes.natAbs % 60)))
  | behind (nonpos : minutes ≤ 0) : OffsetText minutes
      ('-' :: (padded 2 (minutes.natAbs / 60) ++ ':' :: padded 2 (minutes.natAbs % 60)))

section Offset

variable {minutes : ℤ} {s : List Char}

lemma OffsetText.stops (h : OffsetText minutes s) : Stops Char.isDigit s := by
  cases h with
  | universal zero mem =>
    simp only [List.mem_cons, List.not_mem_nil, or_false] at mem
    rcases mem with rfl | rfl <;> rfl
  | ahead => rfl
  | behind => rfl

lemma OffsetText.ne_point (h : OffsetText minutes s) : ∀ r, s ≠ '.' :: r := by
  cases h with
  | universal zero mem =>
    simp only [List.mem_cons, List.not_mem_nil, or_false] at mem
    rcases mem with rfl | rfl <;> simp
  | ahead => simp
  | behind => simp

lemma padded_two {n : ℕ} (h : n < 100) : ∃ a b, padded 2 n = [a, b] ∧ a.isDigit ∧ b.isDigit ∧
    value [a] * 10 + value [b] = n := by
  obtain ⟨a, b, hab⟩ := List.length_eq_two.1 (length_padded (w := 2) (n := n) (by decide) h)
  have hdigits : ∀ c ∈ [a, b], c.isDigit := hab ▸ fun _ => isDigit_of_mem_padded
  have hvalue := value_append [a] [b]
  rw [List.singleton_append, ← hab, value_padded] at hvalue
  exact ⟨a, b, hab, hdigits a (by simp), hdigits b (by simp), hvalue.symm⟩

lemma readOffset_signed {sign : Char} {factor : ℤ} {m : ℕ} (hm : m < 1440)
    (hsign : sign ∈ ['+', '-']) (hfactor : ∀ r, readSign (sign :: r) = .ok (factor, r)) :
    readOffset (sign :: (padded 2 (m / 60) ++ ':' :: padded 2 (m % 60))) =
      .ok (factor * (60 * m), []) := by
  obtain ⟨a, b, hhours, ha, hb, hvalue⟩ := padded_two (show m / 60 < 100 by omega)
  obtain ⟨c, d, hminutes, hc, hd, hvalue'⟩ := padded_two (show m % 60 < 100 by omega)
  have hsix : value [c] < 6 := by omega
  have hutc : startsUtc (sign :: a :: b :: ':' :: [c, d]) = false := by
    simp only [List.mem_cons, List.not_mem_nil, or_false] at hsign
    rcases hsign with rfl | rfl <;> rfl
  have hcolon : ((':' :: [c, d]).dropWhile fun x => x == ':' || isBlank x) = [c, d] := by
    rw [List.dropWhile_cons_of_pos (by decide), List.dropWhile_cons_of_neg]
    have hne : c ≠ ':' := by
      rintro rfl
      exact absurd hc (by decide)
    simp [hne, isBlank_of_isDigit hc]
  have hsum : (((value [a] * 10 + value [b]) * 3600 + (value [c] * 10 + value [d]) * 60 : ℕ) : ℤ) =
      60 * m := by omega
  rw [hhours, hminutes]
  simp only [List.cons_append, List.nil_append, readOffset, hutc, Bool.false_eq_true, if_false]
  split
  · next r heq =>
    rw [(List.cons.inj heq).1] at hsign
    exact absurd hsign (by decide)
  · next r heq =>
    rw [(List.cons.inj heq).1] at hsign
    exact absurd hsign (by decide)
  · simp only [hfactor, bind, Except.bind, readPair, ha, hb, hc, hd, Bool.and_self, if_true, hcolon,
      if_pos hsix, hsum]
    rfl

/-- **How far a clock is ahead is read** in seconds. -/
lemma OffsetText.read (h : OffsetText minutes s)
    (hm : minutes.natAbs < 1440) : readOffset (skipBlank s) = .ok (60 * minutes, []) := by
  cases h with
  | universal zero mem =>
    simp only [List.mem_cons, List.not_mem_nil, or_false] at mem
    rcases mem with rfl | rfl <;> rw [zero] <;> decide
  | ahead nonneg =>
    rw [skipBlank_cons _ (by decide), readOffset_signed hm (by decide) fun _ => rfl]
    congr 2
    omega
  | behind nonpos =>
    rw [skipBlank_cons _ (by decide), readOffset_signed hm (by decide) fun _ => rfl]
    congr 2
    omega

end Offset

/-! ### The parts of an instant -/

/-- The text of a date and a time of day, with something else behind it. -/
def timeText (date : Date) (mark : Char) (hour minute second : ℕ) (rest : List Char) : List Char :=
  yearText date.year ++ '-' :: (padded 2 date.month ++ '-' :: (padded 2 date.day ++
    mark :: (padded 2 hour ++ ':' :: (padded 2 minute ++ ':' :: (padded 2 second ++ rest)))))

/-- **The parts of an instant are read** off its text: those of the date and the time of day, and
what the rest of the text says. -/
theorem readParts_timeText {date : Date} {mark : Char} {hour minute second fraction : ℕ}
    {offset : ℤ} {rest rest' : List Char} (hdate : date.Valid) (hfirst : firstYear ≤ date.year)
    (hlast : date.year ≤ lastYear) (hmark : mark ∈ ['T', 't', ' ']) (hhour : hour ≤ 23)
    (hminute : minute ≤ 59) (hsecond : second ≤ 60) (hrest : Stops Char.isDigit rest)
    (hfraction : readFraction rest = .ok (fraction, rest'))
    (hoffset : readOffset (skipBlank rest') = .ok (offset, [])) :
    readParts (timeText date mark hour minute second rest) =
      .ok ⟨date, hour, minute, second, fraction, offset⟩ := by
  have hday := hdate.day_le
  obtain ⟨hm₁, hm₂, hd₁, -⟩ := hdate
  have hstop : ∀ c : Char, c.isDigit = false → ∀ r, Stops Char.isDigit (c :: r) := fun c hc r => hc
  have hseparator : mark = 'T' ∨ mark = 't' ∨ mark = ' ' := by simpa using hmark
  have hmarkDigit : mark.isDigit = false := by rcases hseparator with rfl | rfl | rfl <;> rfl
  rw [timeText, readParts, readYear_yearText (hstop '-' (by decide) _) hfirst hlast]
  simp only [bind, Except.bind]
  rw [readMark_cons _ (by decide)]
  simp only
  rw [readPart_padded (hstop '-' (by decide) _) hm₁ hm₂ (by omega)]
  simp only
  rw [readMark_cons _ (by decide)]
  simp only
  rw [readPart_padded (hstop mark hmarkDigit _) hd₁ hday (by omega)]
  simp only
  rw [readSeparator, if_pos hseparator]
  simp only
  rw [readPart_padded (hstop ':' (by decide) _) (Nat.zero_le _) hhour (by omega)]
  simp only
  rw [readMark_cons _ (by decide)]
  simp only
  rw [readPart_padded (hstop ':' (by decide) _) (Nat.zero_le _) hminute (by omega)]
  simp only
  rw [readMark_cons _ (by decide)]
  simp only
  rw [readPart_padded hrest (Nat.zero_le _) hsecond (by omega)]
  simp only
  rw [hfraction]
  simp only
  rw [hoffset]
  rfl

/-! ### Clocks -/

section Clock

variable (t : Instant) (minutes : ℤ)

/-- The date on a clock that is some minutes ahead of universal time. -/
def dateAt : Date := .ofDayNumber ((t.seconds + 60 * minutes) / 86400)

/-- The hour on a clock that is some minutes ahead. -/
def hourAt : ℕ := ((t.seconds + 60 * minutes) % 86400 / 3600).toNat

/-- The minute on a clock that is some minutes ahead. -/
def minuteAt : ℕ := ((t.seconds + 60 * minutes) % 3600 / 60).toNat

/-- The texts of an instant on a clock that is some minutes ahead of universal time: the date and
the time of day on the clock, a fraction, and how far the clock is ahead, which is less than a day.
The calendar has the date. -/
inductive ClockText : List Char → Prop
  | shown {mark : Char} {fraction offset : List Char}
      (first : firstYear ≤ (t.dateAt minutes).year) (last : (t.dateAt minutes).year ≤ lastYear)
      (near : minutes.natAbs < 24 * 60) (mark_mem : mark ∈ ['T', 't', ' '])
      (fraction_text : SubsecondText t.subsecond fraction)
      (offset_text : OffsetText minutes offset) :
      ClockText (timeText (t.dateAt minutes) mark (t.hourAt minutes) (t.minuteAt minutes)
        t.secondOfMinute (fraction ++ offset))

/-- A moment is within the second that the text names; inside a leap second this is second `60`. -/
lemma secondOfMinute_spec :
    (t.nanos < second ∧ (t.secondOfMinute : ℤ) = t.seconds % 60 ∧ t.subsecond = t.nanos) ∨
      (second ≤ t.nanos ∧ t.secondOfMinute = 60 ∧ t.seconds % 60 = 59 ∧
        t.subsecond = t.nanos - second) := by
  have hlt := t.nanos_lt
  have hleap := t.leap
  simp only [secondOfMinute, subsecond, second] at *
  omega

lemma valid_dateAt : (t.dateAt minutes).Valid := (Date.ofDayNumber_spec _).1

lemma subsecond_lt : t.subsecond < second := Nat.mod_lt _ (by decide)

lemma ofParts?_self : ofParts? t.seconds t.nanos = some t :=
  dif_pos ⟨t.nanos_lt, t.leap, t.inCalendar⟩

variable {t minutes}

lemma instant_clock (hfirst : firstYear ≤ (t.dateAt minutes).year)
    (hlast : (t.dateAt minutes).year ≤ lastYear) (hnear : minutes.natAbs < 24 * 60) :
    (Parts.mk (t.dateAt minutes) (t.hourAt minutes) (t.minuteAt minutes) t.secondOfMinute
      t.subsecond (60 * minutes)).instant = .ok t := by
  have hnumber := (Date.ofDayNumber_spec ((t.seconds + 60 * minutes) / 86400)).2
  have hs := t.secondOfMinute_spec
  -- the seconds are those of universal time, since a clock is whole minutes ahead
  have hclock : (t.dateAt minutes).dayNumber * 86400 + (t.hourAt minutes * 3600 +
      t.minuteAt minutes * 60 + min t.secondOfMinute 59 : ℕ) - 60 * minutes = t.seconds := by
    rw [dateAt, hnumber]
    simp only [hourAt, minuteAt]
    omega
  have hnanos : t.subsecond + (if t.secondOfMinute = 60 then second else 0) = t.nanos := by
    split_ifs <;> omega
  have hparts : (t.dateAt minutes).Valid ∧ firstYear ≤ (t.dateAt minutes).year ∧
      (t.dateAt minutes).year ≤ lastYear ∧ (60 * minutes).natAbs < 86400 :=
    ⟨t.valid_dateAt minutes, hfirst, hlast, by omega⟩
  simp only [Parts.instant, if_pos hparts, hclock, hnanos, ofParts?_self]
  rfl

/-- **Every text of an instant is read as the instant**, whatever clock shows it. -/
theorem parse_clockText {s : String} (h : t.ClockText minutes s.toList) : parse s = .ok t := by
  have hhour : t.hourAt minutes ≤ 23 := by
    simp only [hourAt]
    omega
  have hminute : t.minuteAt minutes ≤ 59 := by
    simp only [minuteAt]
    omega
  have hsecond : t.secondOfMinute ≤ 60 := by
    have hs := t.secondOfMinute_spec
    omega
  rw [parse]
  generalize s.toList = text at h
  cases h with
  | shown first last near mark_mem fraction_text offset_text =>
    have hstops := offset_text.stops
    rw [readParts_timeText (t.valid_dateAt minutes) first last mark_mem hhour hminute hsecond
      (fraction_text.stops hstops) (fraction_text.read hstops offset_text.ne_point)
      (offset_text.read near)]
    exact instant_clock first last near

end Clock

/-! ### The texts that are written -/

section Written

variable (t : Instant)

@[simp] lemma dateAt_zero : t.dateAt 0 = t.date := by
  rw [dateAt, Int.mul_zero, Int.add_zero, date]

@[simp] lemma hourAt_zero : t.hourAt 0 = t.hour := by
  rw [hourAt, Int.mul_zero, Int.add_zero, hour]

@[simp] lemma minuteAt_zero : t.minuteAt 0 = t.minute := by
  rw [minuteAt, Int.mul_zero, Int.add_zero, minute]

lemma year_date : firstYear ≤ t.date.year ∧ t.date.year ≤ lastYear := by
  obtain ⟨h₁, h₂⟩ := t.inCalendar
  exact Date.year_ofDayNumber (by omega) (by omega)

/-- What is written up to the second is what a clock at universal time shows. -/
lemma clockText_secondText {fraction : List Char} (h : SubsecondText t.subsecond fraction) :
    t.ClockText 0 (t.secondText ++ fraction ++ ['Z']) := by
  obtain ⟨hfirst, hlast⟩ := t.year_date
  have htext : t.ClockText 0 _ := .shown (by rwa [dateAt_zero]) (by rwa [dateAt_zero]) (by decide)
    (List.mem_cons_self (a := 'T')) h (.universal (c := 'Z') rfl (by decide))
  simpa [timeText, secondText] using htext

/-- **The exact text of an instant** is what a clock at universal time shows. -/
theorem clockText_exactText : t.ClockText 0 t.exactText.toList := by
  rw [exactText, String.toList_ofList]
  exact t.clockText_secondText (subsecondText_fractionText t.subsecond_lt)

/-- **The exact text of an instant is read back.** -/
theorem parse_exactText : parse t.exactText = .ok t :=
  parse_clockText t.clockText_exactText

end Written

end EventLog.Instant
