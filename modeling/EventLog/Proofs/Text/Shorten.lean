import EventLog.Text.Shorten
import Mathlib

/-!
# Shortened fields

A field that is cut keeps its front, and the mark of the cut stands behind it. The mark counts
towards the limit but is never cut itself, so that below a limit of three nothing is kept and the
limit is exceeded. If a field that was cut is cut again, the mark of the first cut gives way to that
of the second.

* `Text.shortenTo_shortenTo`: two cuts are one cut, to the lower one of both limits.
* `Text.count_shorten`: apart from points, what is left of a field are the characters kept.
* `Text.shorten_composes`: cuts compose, what a cut leaves, and how long that is.
-/

namespace EventLog.Text

/-! ### Cutting characters -/

section Characters

variable {cs : List Char} {limit : ℕ}

lemma shortenTo_of_le (h : cs.length ≤ limit) : shortenTo limit cs = cs :=
  if_pos h

/-- Where there is room for the mark alone, nothing is kept. -/
lemma shortenTo_of_lt (h : limit < cs.length) :
    shortenTo limit cs = cs.take (limit - 3) ++ ellipsis := by
  rw [shortenTo, if_neg (Nat.not_le.2 h)]
  split_ifs with hsmall
  · rw [Nat.sub_eq_zero_of_le hsmall, List.take_zero, List.nil_append]
  · rfl

lemma length_shortenTo_of_lt (h : limit < cs.length) :
    (shortenTo limit cs).length = max limit 3 := by
  have hkept : (cs.take (limit - 3)).length = limit - 3 := List.length_take_of_le (by omega)
  have hmark : ellipsis.length = 3 := rfl
  rw [shortenTo_of_lt h, List.length_append, hkept, hmark]
  omega

lemma length_shortenTo_le (cs : List Char) (limit : ℕ) :
    (shortenTo limit cs).length ≤ max limit 3 := by
  rcases le_or_gt cs.length limit with hfits | hcut
  · rw [shortenTo_of_le hfits]
    exact hfits.trans (le_max_left _ _)
  · exact (length_shortenTo_of_lt hcut).le

/-- **Two cuts are one cut**, to the lower one of both limits. -/
lemma shortenTo_shortenTo (n m : ℕ) (cs : List Char) :
    shortenTo n (shortenTo m cs) = shortenTo (min n m) cs := by
  rcases le_or_gt cs.length m with hfits | hcut
  · rw [shortenTo_of_le hfits]
    rcases le_total n m with hnm | hmn
    · rw [min_eq_left hnm]
    · rw [min_eq_right hmn, shortenTo_of_le hfits, shortenTo_of_le (hfits.trans hmn)]
  have hlength := length_shortenTo_of_lt hcut
  rcases le_or_gt (max m 3) n with hroom | hagain
  · -- there is room for what the first cut has left, its mark included
    rw [shortenTo_of_le (hlength.trans_le hroom), min_eq_right ((le_max_left m 3).trans hroom)]
  · -- the second cut keeps nothing of the first mark
    have hkept : n - 3 ≤ (cs.take (m - 3)).length := by
      rw [List.length_take]
      omega
    have hfront : min (n - 3) (m - 3) = min n m - 3 := by omega
    rw [shortenTo_of_lt (hagain.trans_eq hlength.symm), shortenTo_of_lt hcut,
      List.take_append_of_le_length hkept, List.take_take, hfront,
      shortenTo_of_lt ((min_le_right n m).trans_lt hcut)]

end Characters

/-! ### Shortening fields -/

section Fields

variable {s : String} {limit : ℕ} {wide : Bool}

lemma toList_shorten_false (s : String) (limit : ℕ) :
    (shorten s limit false).toList = shortenTo limit s.toList :=
  String.toList_ofList

lemma length_shorten_false (s : String) (limit : ℕ) :
    (shorten s limit false).length = (shortenTo limit s.toList).length := by
  rw [← String.length_toList, toList_shorten_false]

lemma shorten_shorten (s : String) (n m : ℕ) :
    shorten (shorten s m false) n false = shorten s (min n m) false := by
  rw [← String.toList_inj]
  simp only [toList_shorten_false, shortenTo_shortenTo]

lemma shorten_whole (h : wide ∨ s.length ≤ limit) : shorten s limit wide = s := by
  cases wide with
  | true => rfl
  | false =>
    have hlength : s.toList.length ≤ limit := by
      rw [String.length_toList]
      exact h.resolve_left Bool.false_ne_true
    rw [← String.toList_inj, toList_shorten_false, shortenTo_of_le hlength]

lemma shorten_cut (h : ¬(wide ∨ s.length ≤ limit)) :
    shorten s limit wide = String.ofList (s.toList.take (limit - 3)) ++ "..." := by
  obtain ⟨hwide, hlength⟩ := not_or.1 h
  rw [← String.length_toList, Nat.not_le] at hlength
  rw [Bool.eq_false_of_not_eq_true hwide, ← String.toList_inj, toList_shorten_false,
    shortenTo_of_lt hlength, String.toList_append, String.toList_ofList]
  rfl

/-- What is left of a field that is cut, without the mark of the cut. -/
def kept (s : String) (limit : ℕ) (wide : Bool) : List Char :=
  if wide ∨ s.toList.length ≤ limit then s.toList else s.toList.take (limit - 3)

lemma kept_subset : kept s limit wide ⊆ s.toList := by
  unfold kept
  split_ifs
  · exact List.Subset.refl _
  · exact List.take_subset _ _

/-- The mark of a cut consists of points alone. -/
lemma count_shorten {c : Char} (hc : c ≠ '.') :
    (shorten s limit wide).toList.count c = (kept s limit wide).count c := by
  have hmark : "...".toList.count c = 0 := List.count_eq_zero_of_not_mem (by simp [hc])
  rw [kept, String.length_toList]
  split_ifs with hwhole
  · rw [shorten_whole hwhole]
  · rw [shorten_cut hwhole, String.toList_append, String.toList_ofList, List.count_append, hmark,
      Nat.add_zero]

lemma not_mem_shorten {c : Char} (hc : c ≠ '.') (h : c ∉ s.toList) :
    c ∉ (shorten s limit wide).toList := by
  rw [← List.count_eq_zero, count_shorten hc, List.count_eq_zero]
  exact fun hmem => h (kept_subset hmem)

end Fields

/-! ### The laws of shortening -/

/-- What becomes of a field under a limit. -/
structure Shortened (s : String) (limit : ℕ) : Prop where
  /-- A field that was cut before, to a limit that is not lower, is cut like the whole field. -/
  again : ∀ first, limit ≤ first →
    shorten (shorten s first false) limit false = shorten s limit false
  /-- A second cut to the same limit changes nothing. -/
  twice : shorten (shorten s limit false) limit false = shorten s limit false
  /-- Only the mark can exceed the limit. -/
  length_le : (shorten s limit false).length ≤ max limit 3
  /-- A field that is cut fills the limit. -/
  length_eq : limit < s.length → (shorten s limit false).length = max limit 3
  /-- A field within the limit, and any field that may be wide, stays as it is. -/
  whole : ∀ wide, wide = true ∨ s.length ≤ limit → shorten s limit wide = s
  /-- Of any other field, characters at its front are left, and the mark stands behind them. -/
  cut : ∀ wide, ¬(wide = true ∨ s.length ≤ limit) →
    ∃ front rest, s = front ++ rest ∧ shorten s limit wide = front ++ "..."

/-- **Cuts compose.** For all fields and limits: a field that was cut before, to a limit that is not
lower, is cut like the whole field. What a cut leaves is as long as the limit, or as the mark if
that is longer: whole characters at the front of the field, and the mark behind them. -/
theorem shorten_composes (s : String) (limit : ℕ) : Shortened s limit where
  again first h := by rw [shorten_shorten, min_eq_left h]
  twice := by rw [shorten_shorten, min_self]
  length_le := (length_shorten_false s limit).trans_le (length_shortenTo_le _ _)
  length_eq h := by
    rw [length_shorten_false, length_shortenTo_of_lt (by rwa [String.length_toList])]
  whole _ h := shorten_whole h
  cut wide h := by
    refine ⟨String.ofList (s.toList.take (limit - 3)), String.ofList (s.toList.drop (limit - 3)),
      ?_, shorten_cut h⟩
    rw [← String.ofList_append, List.take_append_drop, String.ofList_toList]

/-- A field of six characters of two bytes each, under limits on both sides of the mark's length. -/
theorem shorten_composes_umlauts :
    let s := "ääääää"
    shorten (shorten s 5 false) 4 false = "ä..." ∧ shorten (shorten s 5 false) 2 false = "..." ∧
      (shorten s 2 false).length = 3 ∧ (shorten s 5 false).length = 5 ∧
        shorten s 6 false = s ∧ shorten s 0 true = s ∧
          ∃ front rest, s = front ++ rest ∧ shorten s 5 false = front ++ "..." := by
  intro s
  have hfour : shorten s 4 false = "ä..." := by decide +kernel
  have htwo : shorten s 2 false = "..." := by decide +kernel
  exact ⟨((shorten_composes s 4).again 5 (by decide)).trans hfour,
    ((shorten_composes s 2).again 5 (by decide)).trans htwo,
    (shorten_composes s 2).length_eq (by decide), (shorten_composes s 5).length_eq (by decide),
    (shorten_composes s 6).whole false (.inr (by decide)),
    (shorten_composes s 0).whole true (.inl rfl), (shorten_composes s 5).cut false (by decide)⟩

end EventLog.Text
