import EventLog.Calendar
import Mathlib

/-!
# Days and dates

The date of a day is a date that the calendar has, and its number is the number of the day.

* `Date.yearOf_spec`: a day lies in its year.
* `Date.ofDayNumber_spec`: the date of a day.
-/

namespace EventLog.Date

/-! ### Years -/

/-- The days of a year. -/
def yearLength (year : ℤ) : ℕ := if isLeap year then 366 else 365

lemma isLeap_iff (year : ℤ) :
    isLeap year = true ↔ year % 4 = 0 ∧ (year % 100 ≠ 0 ∨ year % 400 = 0) := by
  simp [isLeap]

lemma yearStart_succ (year : ℤ) : yearStart (year + 1) = yearStart year + yearLength year := by
  have h := isLeap_iff year
  rw [yearLength]
  split_ifs with hl
  · have := h.1 hl
    simp only [yearStart]
    push_cast
    omega
  · have := mt h.2 hl
    simp only [yearStart]
    push_cast
    omega

lemma yearStart_mono {y z : ℤ} (h : y ≤ z) : yearStart y ≤ yearStart z := by
  simp only [yearStart]
  omega

/-- **The year of a day.** It starts on the day or before it, and the next year after it. -/
theorem yearOf_spec (day : ℤ) :
    yearStart (yearOf day) ≤ day ∧ day < yearStart (yearOf day + 1) := by
  simp only [yearOf]
  -- the mean length of a year points at most one year too far in either direction
  have hlow : yearStart (400 * day / 146097 - 1) ≤ day := by
    simp only [yearStart]
    omega
  have hhigh : day < yearStart (400 * day / 146097 + 1 + 1) := by
    simp only [yearStart]
    omega
  split_ifs with h₁ h₂
  · rw [Int.sub_add_cancel]
    exact ⟨hlow, h₁⟩
  · exact ⟨h₂, hhigh⟩
  · exact ⟨Int.not_lt.1 h₁, Int.not_le.1 h₂⟩

/-! ### Months -/

lemma sum_monthLengths (year : ℤ) : (monthLengths (isLeap year)).sum = yearLength year := by
  rw [yearLength]
  cases isLeap year <;> rfl

/-- The month of a day lies among the given ones, and the days of the months before it and of its
own up to the day are those that have passed. -/
lemma monthOf_spec {lengths : List ℕ} {passed : ℕ} (h : passed < lengths.sum) (month : ℕ) :
    ∃ i < lengths.length, (monthOf month lengths passed).1 = month + i ∧
      1 ≤ (monthOf month lengths passed).2 ∧
      (monthOf month lengths passed).2 ≤ lengths.getD i 0 ∧
      (lengths.take i).sum + (monthOf month lengths passed).2 = passed + 1 := by
  induction lengths generalizing passed month with
  | nil => exact absurd h (Nat.not_lt_zero _)
  | cons length lengths ih =>
    rw [monthOf]
    split_ifs with hp
    · -- the day lies in the first month
      refine ⟨0, Nat.succ_pos _, rfl, Nat.succ_pos _, hp, ?_⟩
      rw [List.take_zero, List.sum_nil, Nat.zero_add]
    · -- it lies in a later month
      rw [List.sum_cons] at h
      obtain ⟨i, hi, h₁, h₂, h₃, h₄⟩ := ih (show passed - length < lengths.sum by omega) (month + 1)
      refine ⟨i + 1, Nat.succ_lt_succ hi, ?_, h₂, h₃, ?_⟩
      · rw [h₁]
        omega
      · rw [List.take_succ_cons, List.sum_cons]
        omega

lemma monthStart_eq (leap : Bool) (i : ℕ) :
    monthStart leap (1 + i) = ((monthLengths leap).take i).sum := by
  rw [monthStart, Nat.add_sub_cancel_left, List.sum_eq_foldl]

lemma Valid.day_le {d : Date} (h : d.Valid) : d.day ≤ 31 := by
  have hle : ∀ leap i, (monthLengths leap).getD i 0 ≤ 31 := by
    intro leap i
    rcases Nat.lt_or_ge i 12 with hi | hi
    · revert leap i
      decide
    · rw [List.getD_eq_default _ _ hi]
      exact Nat.zero_le _
  exact Nat.le_trans h.2.2.2 (hle _ _)

/-! ### The date of a day -/

/-- How many days of its year lie before a day. -/
def passedOf (n : ℤ) : ℕ := (n + epochDay - yearStart (yearOf (n + epochDay))).toNat

lemma passedOf_eq (n : ℤ) : (passedOf n : ℤ) = n + epochDay - yearStart (yearOf (n + epochDay)) :=
  Int.toNat_of_nonneg (Int.sub_nonneg.2 (yearOf_spec _).1)

lemma passedOf_lt (n : ℤ) : passedOf n < yearLength (yearOf (n + epochDay)) := by
  have h := (yearOf_spec (n + epochDay)).2
  rw [yearStart_succ] at h
  have heq := passedOf_eq n
  omega

lemma ofDayNumber_eq (n : ℤ) :
    ofDayNumber n = ⟨yearOf (n + epochDay),
      (monthOf 1 (monthLengths (isLeap (yearOf (n + epochDay)))) (passedOf n)).1,
      (monthOf 1 (monthLengths (isLeap (yearOf (n + epochDay)))) (passedOf n)).2⟩ := rfl

/-- **The date of a day is in the calendar**, and has the number of the day. -/
theorem ofDayNumber_spec (n : ℤ) :
    (ofDayNumber n).Valid ∧ (ofDayNumber n).dayNumber = n := by
  have hlt := passedOf_lt n
  have heq := passedOf_eq n
  rw [← sum_monthLengths] at hlt
  obtain ⟨i, hi, h₁, h₂, h₃, h₄⟩ := monthOf_spec hlt 1
  have hlen : (monthLengths (isLeap (yearOf (n + epochDay)))).length = 12 := rfl
  rw [ofDayNumber_eq]
  constructor
  · simp only [Valid, h₁]
    refine ⟨by omega, by omega, h₂, ?_⟩
    rw [Nat.add_sub_cancel_left]
    exact h₃
  · simp only [dayNumber, h₁, monthStart_eq]
    omega

/-- The year of a day lies in the range of years that the day lies in. -/
lemma year_ofDayNumber {n first last : ℤ} (h₁ : yearStart first - epochDay ≤ n)
    (h₂ : n < yearStart (last + 1) - epochDay) :
    first ≤ (ofDayNumber n).year ∧ (ofDayNumber n).year ≤ last := by
  obtain ⟨hlow, hhigh⟩ := yearOf_spec (n + epochDay)
  have hyear : (ofDayNumber n).year = yearOf (n + epochDay) := rfl
  rw [hyear]
  constructor
  · by_contra h
    have := yearStart_mono (y := yearOf (n + epochDay) + 1) (z := first) (by omega)
    omega
  · by_contra h
    have := yearStart_mono (y := last + 1) (z := yearOf (n + epochDay)) (by omega)
    omega

end EventLog.Date
