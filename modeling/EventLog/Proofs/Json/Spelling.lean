import EventLog.Proofs.Instant
import EventLog.Proofs.Json.Values

/-!
# Values of fields and their spellings

The value of a field may be spelled in several ways. What a reader makes of a text is told from both
sides: it finds the value whatever its spelling (`Accepts`), and it takes nothing for the value but
a spelling of it (`Admits`).

* `Json.accepts_string`, `Json.accepts_code`, `Json.accepts_instant`, `Json.accepts_duration`: each
  spelling is read.
* `Json.admits_string`, `Json.admits_code`, `Json.admits_instant`, `Json.admits_duration`: nothing
  else is.
-/

namespace EventLog.Json

open Ascii Text Utf8

variable {α : Type}

/-- Every spelling of a value is read as the value, after any blanks and up to any text with which
no number goes on. -/
structure Accepts (reader : Reader α) (Spells : α → Bytes → Prop) : Prop where
  /-- A spelling is well formed. -/
  valid : ∀ {v : α} {t : Bytes}, Spells v t → Valid .value t
  /-- It is read. -/
  run : ∀ {v : α} {w t r : Bytes}, Blanks w → Spells v t → NumberEnds r →
    reader.run (w ++ (t ++ r)) = .ok (v, r)

/-- Nothing is read as a value but a spelling of it, perhaps after blanks. -/
def Admits (reader : Reader α) (Spells : α → Bytes → Prop) : Prop :=
  ∀ {v : α} {s r : Bytes}, reader.run s = .ok (v, r) →
    ∃ w t, Blanks w ∧ Spells v t ∧ s = w ++ (t ++ r)

lemma fromFirst_sound {f : UInt8 → Bytes → Scan α} {s r : Bytes} {v : α}
    (h : fromFirst f s = .ok (v, r)) :
    ∃ w b t, Blanks w ∧ s = w ++ b :: t ∧ f b t = .ok (v, r) := by
  unfold fromFirst at h
  split at h
  · cases h
  · next b t ht =>
    obtain ⟨w, hw, rfl⟩ := blanks_of_skipBlank ht
    exact ⟨w, b, t, hw, rfl, h⟩

/-! ### Strings -/

lemma Literal.valid {x : String} {t : Bytes} (h : Literal x t) : Valid .value t := by
  obtain ⟨s, hs, rfl⟩ := h
  exact .string hs.body

/-- A value that is read from a string, if it is enough to know what the string says. -/
lemma fromFirst_literal {f : UInt8 → Bytes → Scan α} {x : String} {v : α} {w t r : Bytes}
    (hf : ∀ s, scanText s = .ok (x, r) → f quote s = .ok (v, r)) (hw : Blanks w)
    (ht : Literal x t) : fromFirst f (w ++ (t ++ r)) = .ok (v, r) := by
  obtain ⟨s, hs, rfl⟩ := ht
  rw [fromFirst_blanks hw, List.cons_append, fromFirst_cons _ _ (by decide)]
  exact hf _ (scanText_eq_ok.2 ⟨s, hs, by simp⟩)

lemma literal_of_scanText {s r : Bytes} {x : String} (h : scanText s = .ok (x, r)) :
    ∃ t, Literal x t ∧ quote :: s = t ++ r := by
  obtain ⟨t, ht, rfl⟩ := scanText_eq_ok.1 h
  exact ⟨_, ⟨t, ht, rfl⟩, by simp⟩

lemma literal_stringText (x : String) : Literal x (encode (stringText x)) := by
  obtain ⟨t, ht, htext⟩ := literal_of_scanText (scanText_stringText x [])
  have he : encode (stringText x) = t := by
    rw [encode_stringText, htext, List.append_nil]
  rwa [he]

lemma Literal.unique {x y : String} {t : Bytes} (h : Literal x t) (h' : Literal y t) : x = y := by
  obtain ⟨s, hs, rfl⟩ := h
  obtain ⟨s', hs', he⟩ := h'
  have hx : scanText (s ++ [quote]) = .ok (x, []) := scanText_eq_ok.2 ⟨s, hs, rfl⟩
  have hy : scanText (s ++ [quote]) = .ok (y, []) :=
    scanText_eq_ok.2 ⟨s', hs', (List.cons.inj he).2⟩
  exact congrArg Prod.fst (Except.ok.inj (hx.symm.trans hy))

lemma Literal.not_leadsNumber {x : String} {b : UInt8} {s : Bytes} (h : Literal x (b :: s)) :
    ¬ LeadsNumber b := by
  obtain ⟨t, -, he⟩ := h
  rw [(List.cons.inj he).1]
  decide

/-- **Strings.** A string is read from any of its texts. -/
theorem accepts_string : Accepts .string Literal where
  valid := Literal.valid
  run hw ht _ := fromFirst_literal (f := stringFrom) (fun _ hs => (if_pos rfl).trans hs) hw ht

theorem admits_string : Admits .string Literal := by
  intro v s r h
  obtain ⟨w, b, t, hw, rfl, hb⟩ := fromFirst_sound (f := stringFrom) h
  unfold stringFrom at hb
  split_ifs at hb with hq
  obtain ⟨u, hu, htext⟩ := literal_of_scanText hb
  exact ⟨w, u, hw, hu, by rw [hq, htext]⟩

/-! ### Whole numbers -/

/-- What is written for a whole number that fits in 64 bits. -/
def Numeral (n : ℤ) (t : Bytes) : Prop := Fits64 n ∧ t = encode (signed n)

lemma Numeral.valid {n : ℤ} {t : Bytes} (h : Numeral n t) : Valid .value t :=
  h.2 ▸ .number (numberText_signed n)

lemma fromFirst_numeral {f : UInt8 → Bytes → Scan α} {n : ℤ} {v : α} {w t r : Bytes}
    (hf : ∀ b s, LeadsNumber b → scanNumber (b :: s) = .ok (.integer n, r) → f b s = .ok (v, r))
    (hw : Blanks w) (ht : Numeral n t) (hr : NumberEnds r) :
    fromFirst f (w ++ (t ++ r)) = .ok (v, r) := by
  obtain ⟨hfit, rfl⟩ := ht
  have hscan := scanNumber_signed hfit hr
  obtain ⟨negative, ds, hds, hrow, -⟩ := encode_signed hfit
  obtain ⟨b, s, hs, hb⟩ := leadsNumber_signed negative hrow
  rw [hds, hs] at hscan ⊢
  rw [fromFirst_blanks hw, List.cons_append, fromFirst_cons _ _ (isBlank_of_leadsNumber hb)]
  exact hf b _ hb hscan

/-- **Status codes.** A code is read from what is written for it. -/
theorem accepts_code : Accepts .code fun c => Numeral c.toInt where
  valid := Numeral.valid
  run {c} _ _ _ hw ht hr := by
    refine fromFirst_numeral (f := codeFrom) (fun b s hb hs => ?_) hw ht hr
    rw [codeFrom, if_pos hb, hs]
    simp only [if_pos ht.1, Int64.ofInt_toInt]

theorem admits_code : Admits .code fun c => Numeral c.toInt := by
  intro c s r h
  obtain ⟨w, b, t, hw, rfl, hb⟩ := fromFirst_sound (f := codeFrom) h
  unfold codeFrom at hb
  split_ifs at hb
  split at hb
  · next n u hn =>
    split_ifs at hb with hfit
    obtain ⟨rfl, rfl⟩ := Prod.mk.inj (Except.ok.inj hb)
    have hint : (Int64.ofInt n).toInt = n := Int64.toInt_ofInt_of_le hfit.1 hfit.2
    refine ⟨w, encode (signed n), hw, ?_, by rw [scanNumber_integer hn]⟩
    show Numeral (Int64.ofInt n).toInt (encode (signed n))
    rw [hint]
    exact ⟨hfit, rfl⟩
  · cases hb
  · cases hb

/-! ### Instants -/

/-- **Instants.** An instant is read from any string that tells it. -/
theorem accepts_instant :
    Accepts .instant fun i t => ∃ x, Literal x t ∧ Instant.parse x = .ok i where
  valid := fun ⟨_, ht, _⟩ => ht.valid
  run hw ht _ := by
    obtain ⟨x, ht, hx⟩ := ht
    refine fromFirst_literal (f := instantFrom) (fun s hs => ?_) hw ht
    rw [instantFrom, if_pos rfl, hs]
    simp only [hx]

theorem admits_instant :
    Admits .instant fun i t => ∃ x, Literal x t ∧ Instant.parse x = .ok i := by
  intro i s r h
  obtain ⟨w, b, t, hw, rfl, hb⟩ := fromFirst_sound (f := instantFrom) h
  unfold instantFrom at hb
  split_ifs at hb with hq
  split at hb
  · next x u hx =>
    split at hb
    · next hi =>
      obtain ⟨rfl, rfl⟩ := Prod.mk.inj (Except.ok.inj hb)
      obtain ⟨v, hv, htext⟩ := literal_of_scanText hx
      exact ⟨w, v, hw, ⟨x, hv, hi⟩, by rw [hq, htext]⟩
    · cases hb
  · cases hb

/-! ### Elapsed times -/

/-- The spellings of an elapsed time: a whole number of nanoseconds, or a string that tells it. -/
def ElapsedText (d : Duration) (t : Bytes) : Prop :=
  Numeral d.nanos t ∨ ∃ x, Literal x t ∧ Duration.parse x = .ok d

/-- **Elapsed times.** An elapsed time is read from each of its spellings. -/
theorem accepts_duration : Accepts .duration ElapsedText where
  valid := fun h => h.elim Numeral.valid fun ⟨_, ht, _⟩ => ht.valid
  run hw ht hr := by
    have hquote : ¬ (quote = minus ∨ Ascii.isDigit quote) := by decide
    rcases ht with ht | ⟨x, ht, hx⟩
    · refine fromFirst_numeral (f := durationFrom) (fun b s hb hs => ?_) hw ht hr
      rw [durationFrom, if_pos hb, hs]
      simp only [if_pos ht.1]
    · refine fromFirst_literal (f := durationFrom) (fun s hs => ?_) hw ht
      rw [durationFrom, if_neg hquote, if_pos rfl, hs]
      simp only [hx]

theorem admits_duration : Admits .duration ElapsedText := by
  intro d s r h
  obtain ⟨w, b, t, hw, rfl, hb⟩ := fromFirst_sound (f := durationFrom) h
  unfold durationFrom at hb
  split_ifs at hb with hnumber hquote
  · -- a whole number
    split at hb
    · next n u hn =>
      split_ifs at hb with hfit
      obtain ⟨rfl, rfl⟩ := Prod.mk.inj (Except.ok.inj hb)
      exact ⟨w, _, hw, Or.inl ⟨hfit, rfl⟩, by rw [scanNumber_integer hn]⟩
    · cases hb
    · cases hb
  · -- a string
    split at hb
    · next x u hx =>
      split at hb
      · next hd =>
        obtain ⟨rfl, rfl⟩ := Prod.mk.inj (Except.ok.inj hb)
        obtain ⟨v, hv, htext⟩ := literal_of_scanText hx
        exact ⟨w, v, hw, Or.inr ⟨x, hv, hd⟩, by rw [hquote, htext]⟩
      · cases hb
    · cases hb

end EventLog.Json
