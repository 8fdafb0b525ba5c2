import EventLog.Json.Reader
import EventLog.Proofs.Text.Utf8

/-!
# Written values

What a reader makes of a value that has been written: it finds the value and leaves what follows,
and if the text breaks off before the end, it comes to the end of the text without any other fault.

* `CutFrom`: a text that breaks off.
* `Json.Written`: a text stands for a value.
-/

namespace EventLog

/-- A text that breaks off: a beginning of another one that is not all of it. -/
def CutFrom (p text : Bytes) : Prop := p <+: text ∧ p ≠ text

namespace CutFrom

variable {p a b : Bytes}

lemma not_nil : ¬ CutFrom p [] :=
  fun h => h.2 (List.prefix_nil.1 h.1)

lemma length_lt (h : CutFrom p a) : p.length < a.length :=
  Nat.lt_of_le_of_ne h.1.length_le fun he => h.2 (h.1.eq_of_length he)

lemma append_cases (h : CutFrom p (a ++ b)) : CutFrom p a ∨ ∃ q, p = a ++ q ∧ CutFrom q b := by
  obtain ⟨⟨c, hc⟩, hne⟩ := h
  rcases List.append_eq_append_iff.1 hc with ⟨d, rfl, rfl⟩ | ⟨d, rfl, rfl⟩
  · by_cases hd : d = []
    · subst hd
      refine Or.inr ⟨[], by simp only [List.append_nil], List.nil_prefix, ?_⟩
      rintro rfl
      exact hne (by simp only [List.append_nil])
    · exact Or.inl ⟨List.prefix_append p d, fun he => hd (List.self_eq_append_right.1 he)⟩
  · refine Or.inr ⟨d, rfl, List.prefix_append d c, ?_⟩
    rintro he
    exact hne (by rw [← he])

lemma cons_cases {x : UInt8} (h : CutFrom p (x :: b)) : p = [] ∨ ∃ q, p = x :: q ∧ CutFrom q b := by
  rcases append_cases (a := [x]) h with ⟨hp, hne⟩ | hq
  · rcases List.prefix_cons_iff.1 hp with rfl | ⟨t, rfl, ht⟩
    · exact Or.inl rfl
    · rw [List.prefix_nil.1 ht] at hne
      exact absurd rfl hne
  · exact Or.inr hq

end CutFrom

namespace Json

open Ascii

/-- A written value is followed by nothing, by a comma or by the closing bracket of an object. -/
def Delimited : Bytes → Prop
  | [] => True
  | b :: _ => b = comma ∨ b = closeObject

lemma Delimited.of_prefix {s t : Bytes} (h : Delimited t) (hs : s <+: t) : Delimited s := by
  obtain ⟨r, rfl⟩ := hs
  cases s with
  | nil => trivial
  | cons b s => exact h

/-- A text is read as one that ends too early. -/
def Breaks {α : Type} (result : Except Fault α) : Prop :=
  ∃ f, result = .error f ∧ f.cause.category = .eof

/-- A text is read to its end, be it that it ends too early. -/
def Exhausts {α : Type} (result : Scan α) : Prop :=
  Breaks result ∨ ∃ v, result = .ok (v, [])

/-- A text stands for a value. -/
structure Written {α : Type} (reader : Reader α) (text : Bytes) (value : α) : Prop where
  /-- The reader finds the value and leaves what follows. -/
  run : ∀ rest, Delimited rest → reader.run (text ++ rest) = .ok (value, rest)
  /-- If the text breaks off, the reader comes to its end. -/
  cut : ∀ p, CutFrom p text → Exhausts (reader.run p)
  /-- There are no controls in the text. -/
  visible : ∀ b ∈ text, space ≤ b

/-! ### Passing over blanks -/

lemma skipBlank_cons {b : UInt8} (r : Bytes) (h : isBlank b = false) :
    skipBlank (b :: r) = b :: r :=
  List.dropWhile_cons_of_neg (by simp [h])

lemma fromFirst_cons {α : Type} (f : UInt8 → Bytes → Scan α) {b : UInt8} (r : Bytes)
    (h : isBlank b = false) : fromFirst f (b :: r) = f b r := by
  rw [fromFirst, skipBlank_cons r h]

lemma fromFirst_ok {α : Type} {f : UInt8 → Bytes → Scan α} {s r : Bytes} {v : α}
    (h : fromFirst f s = .ok (v, r)) : ∃ b t, f b t = .ok (v, r) := by
  unfold fromFirst at h
  split at h
  · cases h
  · next b t _ => exact ⟨b, t, h⟩

lemma fromFirst_nil {α : Type} (f : UInt8 → Bytes → Scan α) : Breaks (fromFirst f []) :=
  ⟨_, rfl, rfl⟩

end Json

end EventLog
