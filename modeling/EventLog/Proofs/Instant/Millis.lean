import EventLog.Proofs.Instant

/-!
# Instants in milliseconds

A line of output holds an instant in milliseconds, a record holds it exactly. Up to the fraction the
two texts are the same, and the digits of the one fraction are the first digits of the other. What a
line tells is the instant cut to whole milliseconds, inside a leap second as elsewhere.

* `Instant.parse_milliText`: the instant that a line tells.
* `Instant.withMillis_exactText`: the one text made of the other.
-/

namespace EventLog.Instant

open Text

variable (t : Instant)

/-- An instant cut to whole milliseconds. -/
def inMillis : Instant where
  seconds := t.seconds
  nanos := t.nanos / 1000000 * 1000000
  nanos_lt := Nat.lt_of_le_of_lt (Nat.div_mul_le_self _ _) t.nanos_lt
  leap h := t.leap (Nat.le_trans h (Nat.div_mul_le_self _ _))
  inCalendar := t.inCalendar

/-- The text in milliseconds holds all that is left of an instant that is cut to them. -/
lemma milliText_inMillis : t.inMillis.milliText = t.milliText := by
  have hsecond : t.inMillis.secondOfMinute = t.secondOfMinute := by
    simp only [secondOfMinute, inMillis, second]
    omega
  have hmillis : t.inMillis.subsecond / 1000000 = t.subsecond / 1000000 := by
    simp only [subsecond, inMillis, second]
    omega
  have htext : t.inMillis.secondText = t.secondText := by
    rw [secondText, hsecond]
    rfl
  rw [milliText, htext, hmillis]
  rfl

/-- **The text in milliseconds is read as the instant in milliseconds.** -/
theorem parse_milliText : parse t.milliText = .ok t.inMillis := by
  have hmillis : t.inMillis.subsecond / 1000000 * 10 ^ (9 - 3) = t.inMillis.subsecond := by
    simp only [subsecond, inMillis, second]
    omega
  have hlt := t.inMillis.subsecond_lt
  simp only [second] at hlt
  have hfraction := subsecondText_padded (w := 3) (n := t.inMillis.subsecond / 1000000)
    (by decide) (by decide) (by omega)
  rw [hmillis] at hfraction
  have htext : t.inMillis.ClockText 0 t.inMillis.milliText.toList := by
    rw [milliText, String.toList_ofList]
    exact t.inMillis.clockText_secondText hfraction
  rw [← milliText_inMillis]
  exact parse_clockText htext

/-- The text in milliseconds tells the milliseconds. -/
lemma milliText_eq_iff {t u : Instant} : t.milliText = u.milliText ↔ t.inMillis = u.inMillis := by
  constructor
  · intro h
    have hparse := t.parse_milliText
    rw [h, u.parse_milliText] at hparse
    exact (Except.ok.inj hparse).symm
  · intro h
    rw [← milliText_inMillis, h, milliText_inMillis]

/-! ### One text from the other -/

/-- What stands before the fraction of a written instant and the letter at its end. -/
def beforeFraction (c : Char) : Bool := c != '.' && c != 'Z'

/-- A written instant with its fraction cut, or filled with zeros, to three digits. What stands
before the fraction and after it stays. -/
def withMillis (s : List Char) : List Char :=
  let whole := s.takeWhile beforeFraction
  match s.dropWhile beforeFraction with
  | '.' :: r =>
    whole ++ '.' :: ((r.takeWhile Char.isDigit ++ ['0', '0', '0']).take 3 ++
      r.dropWhile Char.isDigit)
  | r => whole ++ '.' :: '0' :: '0' :: '0' :: r

lemma mem_secondText {c : Char} (h : c ∈ t.secondText) : c.isDigit ∨ c ∈ ['-', '+', 'T', ':'] := by
  have hpadded : ∀ {w n}, c ∈ padded w n → c.isDigit := isDigit_of_mem_padded
  have hyear : c ∈ yearText t.date.year → c.isDigit ∨ c = '-' ∨ c = '+' := by
    rw [yearText]
    split_ifs
    · exact fun hc => Or.inl (hpadded hc)
    · exact fun hc => (List.mem_cons.1 hc).elim (fun hc => Or.inr (Or.inl hc))
        fun hc => Or.inl (hpadded hc)
    · exact fun hc => (List.mem_cons.1 hc).elim (fun hc => Or.inr (Or.inr hc))
        fun hc => Or.inl (hpadded hc)
  simp only [secondText, List.mem_append, List.mem_cons] at h
  grind

lemma beforeFraction_of_mem {c : Char} (h : c ∈ t.secondText) : beforeFraction c := by
  simp only [beforeFraction, Bool.and_eq_true, bne_iff_ne]
  constructor
  · rintro rfl
    exact absurd (t.mem_secondText h) (by decide)
  · rintro rfl
    exact absurd (t.mem_secondText h) (by decide)

lemma withMillis_whole {whole : List Char} (h : ∀ c ∈ whole, beforeFraction c) :
    withMillis (whole ++ ['Z']) = whole ++ '.' :: (padded 3 0 ++ ['Z']) := by
  have hstops : Stops beforeFraction ['Z'] := rfl
  obtain ⟨htake, hdrop⟩ := span_append h hstops
  rw [withMillis, htake, hdrop]
  rfl

lemma withMillis_fraction {whole ds : List Char} (h : ∀ c ∈ whole, beforeFraction c)
    (hds : ∀ c ∈ ds, c.isDigit) (hlength : 3 ≤ ds.length) :
    withMillis (whole ++ '.' :: (ds ++ ['Z'])) = whole ++ '.' :: (ds.take 3 ++ ['Z']) := by
  have hpoint : Stops beforeFraction ('.' :: (ds ++ ['Z'])) := rfl
  have hletter : Stops Char.isDigit ['Z'] := rfl
  obtain ⟨htake, hdrop⟩ := span_append h hpoint
  obtain ⟨hdigits, hrest⟩ := span_append hds hletter
  rw [withMillis, htake, hdrop]
  simp only [hdigits, hrest]
  rw [List.take_append_of_le_length hlength]

/-- **The text in milliseconds is the exact text with three digits** of its fraction. -/
theorem withMillis_exactText : withMillis t.exactText.toList = t.milliText.toList := by
  have hwhole : ∀ c ∈ t.secondText, beforeFraction c := fun _ => t.beforeFraction_of_mem
  have hds : ∀ {w n}, ∀ c ∈ padded w n, c.isDigit := fun _ => isDigit_of_mem_padded
  have hlt := t.subsecond_lt
  simp only [second] at hlt
  rw [exactText, milliText, String.toList_ofList, String.toList_ofList, fractionText]
  simp only [List.append_assoc, List.cons_append]
  split_ifs with h₀ h₃ h₆
  · rw [List.nil_append, withMillis_whole hwhole, h₀]
  · have hlength : (padded 3 (t.subsecond / 1000000)).length = 3 :=
      length_padded (by decide) (by omega)
    rw [List.cons_append, withMillis_fraction hwhole hds hlength.ge,
      List.take_of_length_le hlength.le]
  · have hlength : (padded 6 (t.subsecond / 1000)).length = 6 :=
      length_padded (by decide) (by omega)
    have htake : (padded 6 (t.subsecond / 1000)).take 3 = padded 3 (t.subsecond / 1000000) :=
      (take_padded (w := 3) (k := 3) (by decide) (by omega)).trans
        (congrArg _ (Nat.div_div_eq_div_mul _ _ _))
    rw [List.cons_append, withMillis_fraction hwhole hds (by omega), htake]
  · have hlength : (padded 9 t.subsecond).length = 9 := length_padded (by decide) (by omega)
    have htake : (padded 9 t.subsecond).take 3 = padded 3 (t.subsecond / 1000000) :=
      take_padded (w := 3) (k := 6) (by decide) (by omega)
    rw [List.cons_append, withMillis_fraction hwhole hds (by omega), htake]

end EventLog.Instant
