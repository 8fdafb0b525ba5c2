import EventLog.Proofs.Json.Literals
import EventLog.Proofs.Json.Numerals

/-!
# Values that are passed over

A value that nobody wants to know is passed over exactly if it is well formed. The text is gone
through once, with the brackets that are open in a list, so what such a list still asks of the text
is told first (`Closes`): for each bracket in turn, what is left of it.

* `Json.skipValue_valid`: well-formed values are passed over.
* `Json.skipValue_sound`: no other values are.
-/

namespace EventLog.Json

open Ascii Utf8

/-! ### Blanks -/

lemma skipBlank_append {w : Bytes} (hw : Blanks w) (s : Bytes) : skipBlank (w ++ s) = skipBlank s :=
  List.dropWhile_append_of_pos hw

lemma skipBlank_blanks {w : Bytes} (hw : Blanks w) {b : UInt8} (hb : isBlank b = false)
    (s : Bytes) : skipBlank (w ++ b :: s) = b :: s := by
  rw [skipBlank_append hw, skipBlank_cons s hb]

lemma exists_blanks (s : Bytes) : ∃ w, Blanks w ∧ s = w ++ skipBlank s :=
  ⟨s.takeWhile isBlank, fun _ hb => List.mem_takeWhile_imp hb,
    List.takeWhile_append_dropWhile.symm⟩

lemma blanks_of_skipBlank {s r : Bytes} (h : skipBlank s = r) : ∃ w, Blanks w ∧ s = w ++ r :=
  h ▸ exists_blanks s

lemma Blanks.nil : Blanks [] := fun _ hb => absurd hb List.not_mem_nil

lemma Blanks.append {v w : Bytes} (hv : Blanks v) (hw : Blanks w) : Blanks (v ++ w) :=
  List.forall_mem_append.2 ⟨hv, hw⟩

lemma Document.plain {P : Bytes → Prop} {text : Bytes} (h : P text) : Document P text :=
  ⟨[], text, [], .nil, h, .nil, by rw [List.append_nil, List.nil_append]⟩

lemma fromFirst_blanks {α : Type} {f : UInt8 → Bytes → Scan α} {w : Bytes} (hw : Blanks w)
    (s : Bytes) : fromFirst f (w ++ s) = fromFirst f s := by
  rw [fromFirst, fromFirst, skipBlank_append hw]

/-! ### Keys and words -/

lemma scanColon_eq_ok {s r : Bytes} :
    scanColon s = .ok r ↔ ∃ w, Blanks w ∧ s = w ++ colon :: r := by
  constructor
  · intro h
    unfold scanColon at h
    split at h
    · cases h
    · next b t ht =>
      split_ifs at h with hb
      cases h
      exact hb ▸ blanks_of_skipBlank ht
  · rintro ⟨w, hw, rfl⟩
    rw [scanColon, skipBlank_blanks hw (by decide)]
    exact if_pos rfl

lemma skipKey_eq_ok {s r : Bytes} : skipKey s = .ok r ↔
    ∃ w l, Blanks w ∧ Bracket.object.Label l ∧ s = w ++ (l ++ r) := by
  constructor
  · intro h
    unfold skipKey at h
    split at h
    · cases h
    · next b t ht =>
      split_ifs at h with hb
      obtain ⟨w, hw, rfl⟩ := blanks_of_skipBlank ht
      split at h
      · next u hu =>
        obtain ⟨k, hk, rfl⟩ := skipText_eq_ok.1 hu
        obtain ⟨w', hw', rfl⟩ := scanColon_eq_ok.1 h
        exact ⟨w, _, hw, ⟨k, w', hk, hw', rfl⟩, by simp [hb]⟩
      · cases h
  · rintro ⟨w, l, hw, ⟨k, w', hk, hw', rfl⟩, rfl⟩
    have htext : skipText (k ++ quote :: (w' ++ [colon]) ++ r) = .ok (w' ++ colon :: r) :=
      skipText_eq_ok.2 ⟨k, hk, by simp⟩
    rw [skipKey, List.cons_append, skipBlank_blanks hw (by decide)]
    simp only [if_true, htext]
    exact scanColon_eq_ok.2 ⟨w', hw', rfl⟩

lemma word_eq_ok {letters s r : Bytes} : word letters s = .ok r ↔ s = letters ++ r := by
  induction letters generalizing s with
  | nil => exact ⟨fun h => Except.ok.inj h, fun h => congrArg _ h⟩
  | cons c letters ih =>
    cases s with
    | nil => simp [word]
    | cons b s =>
      rw [word]
      split_ifs with hb
      · rw [ih, hb, List.cons_append, List.cons.injEq, and_iff_right rfl]
      · exact iff_of_false (by simp) (fun h => hb (List.cons.inj h).1)

/-! ### Values without parts -/

/-- The kinds of values that have no parts. -/
inductive Scalar (t : Bytes) : Prop
  | word (mem : t ∈ words)
  | number (number : NumberText t)
  | string {s : Bytes} (body : StringBody s) (text : t = quote :: (s ++ [quote]))

lemma Scalar.valid {t : Bytes} (h : Scalar t) : Valid .value t := by
  cases h with
  | word mem => exact .word mem
  | number number => exact .number number
  | string body text => exact text ▸ .string body

/-- A byte of which a value without parts can be the rest. -/
structure LeadsScalar (b : UInt8) : Prop where
  /-- It is none of the blanks. -/
  visible : isBlank b = false
  /-- It opens no bracket. -/
  opens : Bracket.opened? b = none
  /-- It closes no bracket. -/
  closes : ∀ k : Bracket, b ≠ k.closing

/-- None of the marks of the grammar, blanks and letters is a digit. -/
lemma ne_of_isDigit {b : UInt8} (h : Ascii.isDigit b) {c : UInt8}
    (hc : Ascii.isDigit c = false) : b ≠ c := by
  rintro rfl
  rw [h] at hc
  cases hc

lemma leadsScalar_of_leadsNumber {b : UInt8} (h : LeadsNumber b) : LeadsScalar b := by
  rcases h with rfl | h
  · exact ⟨by decide, by decide, by rintro (_ | _) <;> decide⟩
  · refine ⟨isBlank_of_leadsNumber (Or.inr h), ?_, ?_⟩
    · rw [Bracket.opened?, if_neg (ne_of_isDigit h (by decide)),
        if_neg (ne_of_isDigit h (by decide))]
    · rintro (_ | _) <;> exact ne_of_isDigit h (by decide)

/-- What follows a value without parts does not go on with a number. -/
lemma Scalar.skip {t : Bytes} (h : Scalar t) :
    ∃ b r, t = b :: r ∧ LeadsScalar b ∧
      ∀ rest, NumberEnds rest → skipScalar b (r ++ rest) = .ok rest := by
  cases h with
  | word mem =>
    simp only [words, List.mem_cons, List.not_mem_nil, or_false] at mem
    have hleads : ∀ b ∈ [byte 'n', byte 't', byte 'f'], LeadsScalar b := by
      simp only [List.forall_mem_cons, List.not_mem_nil, false_imp_iff, implies_true, and_true]
      refine ⟨?_, ?_, ?_⟩ <;> exact ⟨by decide, by decide, by rintro (_ | _) <;> decide⟩
    rcases mem with rfl | rfl | rfl
    · exact ⟨_, _, rfl, hleads _ (by simp), fun _ _ => word_eq_ok.2 rfl⟩
    · exact ⟨_, _, rfl, hleads _ (by simp), fun _ _ => word_eq_ok.2 rfl⟩
    · exact ⟨_, _, rfl, hleads _ (by simp), fun _ _ => word_eq_ok.2 rfl⟩
  | number number =>
    obtain ⟨sign, s, hsign, hs, rfl⟩ := number
    simp only [List.mem_cons, List.not_mem_nil, or_false] at hsign
    rcases hsign with rfl | rfl
    · have hskip := fun rest hrest => skipUnsigned_complete (r := rest) hs hrest
      obtain ⟨whole, f, e, hw, -, -, rfl⟩ := hs
      obtain ⟨b, ds, rfl, hb, hminus⟩ := hw.first
      refine ⟨b, _, rfl, leadsScalar_of_leadsNumber (Or.inr hb), fun rest hrest => ?_⟩
      rw [skipScalar, if_neg (ne_of_isDigit hb (by decide)),
        if_neg (ne_of_isDigit hb (by decide)), if_neg (ne_of_isDigit hb (by decide)),
        if_neg hminus, if_pos hb]
      exact hskip rest hrest
    · exact ⟨minus, s, rfl, leadsScalar_of_leadsNumber (Or.inl rfl),
        fun rest hrest => skipUnsigned_complete hs hrest⟩
  | @string s body text =>
    refine ⟨quote, s ++ [quote], text, ⟨by decide, by decide, by rintro (_ | _) <;> decide⟩,
      fun rest _ => ?_⟩
    exact skipText_eq_ok.2 ⟨s, body, by simp⟩

lemma skipScalar_sound {b : UInt8} {s r : Bytes} (h : skipScalar b s = .ok r) :
    ∃ t, Scalar t ∧ b :: s = t ++ r := by
  unfold skipScalar at h
  split_ifs at h with h₁ h₂ h₃ h₄ h₅ h₆
  · exact ⟨b :: nullTail, .word (by simp [words, h₁]), by rw [word_eq_ok.1 h, List.cons_append]⟩
  · exact ⟨b :: trueTail, .word (by simp [words, h₂]), by rw [word_eq_ok.1 h, List.cons_append]⟩
  · exact ⟨b :: falseTail, .word (by simp [words, h₃]), by rw [word_eq_ok.1 h, List.cons_append]⟩
  · obtain ⟨t, ht, rfl⟩ := skipUnsigned_sound h
    exact ⟨minus :: t, .number ⟨[minus], t, by simp, ht, rfl⟩, by rw [h₄, List.cons_append]⟩
  · obtain ⟨t, ht, hs⟩ := skipUnsigned_sound h
    exact ⟨t, .number ⟨[], t, by simp, ht, rfl⟩, hs⟩
  · obtain ⟨t, ht, rfl⟩ := skipText_eq_ok.1 h
    exact ⟨_, .string ht rfl, by simp [h₆]⟩

/-! ### One step at a time -/

section Steps

variable {k : Bracket} {outer : List Bracket} {b c : UInt8} {s r t u : Bytes}

lemma skip_nil (s : Bytes) : skip .next [] s = .ok s := by rw [skip]

lemma skip_comma (h : skipBlank s = comma :: r) (hr : k.lead r = .ok u) :
    skip .next (k :: outer) s = skip .value (k :: outer) u := by
  rw [skip]
  split
  · next h' => cases h.symm.trans h'
  · next h' =>
    obtain ⟨rfl, rfl⟩ := List.cons.inj (h.symm.trans h')
    rw [if_pos rfl]
    split
    · next h'' => rw [Except.ok.inj (hr.symm.trans h'')]
    · next h'' => cases hr.symm.trans h''

lemma skip_closing (h : skipBlank s = k.closing :: r) :
    skip .next (k :: outer) s = skip .next outer r := by
  have hne : k.closing ≠ comma := by cases k <;> decide
  rw [skip]
  split
  · next h' => cases h.symm.trans h'
  · next h' =>
    obtain ⟨rfl, rfl⟩ := List.cons.inj (h.symm.trans h')
    rw [if_neg hne, if_pos rfl]

lemma skip_scalar (h : skipBlank s = b :: r) (hb : Bracket.opened? b = none)
    (hr : skipScalar b r = .ok u) : skip .value outer s = skip .next outer u := by
  rw [skip]
  split
  · next h' => cases h.symm.trans h'
  · next h' =>
    obtain ⟨rfl, rfl⟩ := List.cons.inj (h.symm.trans h')
    split
    · split
      · next h'' => rw [Except.ok.inj (hr.symm.trans h'')]
      · next h'' => cases hr.symm.trans h''
    · next h'' => cases hb.symm.trans h''

lemma skip_empty (h : skipBlank s = b :: r) (hb : Bracket.opened? b = some k)
    (hr : skipBlank r = k.closing :: t) : skip .value outer s = skip .next outer t := by
  rw [skip]
  split
  · next h' => cases h.symm.trans h'
  · next h' =>
    obtain ⟨rfl, rfl⟩ := List.cons.inj (h.symm.trans h')
    split
    · next h'' => cases hb.symm.trans h''
    · next h'' =>
      obtain rfl := Option.some.inj (hb.symm.trans h'')
      split
      · next hr' => cases hr.symm.trans hr'
      · next hr' =>
        obtain ⟨rfl, rfl⟩ := List.cons.inj (hr.symm.trans hr')
        rw [if_pos rfl]

/-- A bracket is opened, and there is a value in it. -/
lemma skip_open (h : skipBlank s = b :: r) (hb : Bracket.opened? b = some k)
    (hr : skipBlank r = c :: t) (hc : c ≠ k.closing) (hu : k.lead (c :: t) = .ok u) :
    skip .value outer s = skip .value (k :: outer) u := by
  rw [skip]
  split
  · next h' => cases h.symm.trans h'
  · next h' =>
    obtain ⟨rfl, rfl⟩ := List.cons.inj (h.symm.trans h')
    split
    · next h'' => cases hb.symm.trans h''
    · next h'' =>
      obtain rfl := Option.some.inj (hb.symm.trans h'')
      split
      · next hr' => cases hr.symm.trans hr'
      · next hr' =>
        obtain ⟨rfl, rfl⟩ := List.cons.inj (hr.symm.trans hr')
        rw [if_neg hc]
        split
        · next hu' => rw [Except.ok.inj (hu.symm.trans hu')]
        · next hu' => cases hu.symm.trans hu'

end Steps

lemma skip_value_blanks {w : Bytes} (hw : Blanks w) (outer : List Bracket) (s : Bytes) :
    skip .value outer (w ++ s) = skip .value outer s := by
  rw [skip, skip, skipBlank_append hw]

/-! ### Well-formed values -/

lemma Bracket.visible_closing (k : Bracket) : isBlank k.closing = false := by
  cases k <;> decide

lemma Bracket.visible_opening (k : Bracket) : isBlank k.opening = false := by
  cases k <;> decide

lemma Bracket.opened?_opening (k : Bracket) : Bracket.opened? k.opening = some k := by
  cases k <;> decide

lemma Bracket.opening_ne_closing (k l : Bracket) : k.opening ≠ l.closing := by
  cases k <;> cases l <;> decide

lemma numberEnds_of_isBlank {b : UInt8} {r : Bytes} (h : isBlank b) : NumberEnds (b :: r) := by
  simp only [isBlank, Bool.or_eq_true, beq_iff_eq] at h
  rcases h with ((rfl | rfl) | rfl) | rfl <;> exact ⟨by decide, by decide, by decide⟩

/-- No number goes on with blanks, or with what does not go on with a number after them. -/
lemma numberEnds_blanks {w s : Bytes} (hw : Blanks w) (hs : NumberEnds s) :
    NumberEnds (w ++ s) := by
  cases w with
  | nil => exact hs
  | cons b w => exact numberEnds_of_isBlank (hw b List.mem_cons_self)

/-- No number goes on with what is left of a bracket after a value. -/
lemma Valid.numberEnds {k : Bracket} {s : Bytes} (h : Valid (.rest k false) s) (r : Bytes) :
    NumberEnds (s ++ r) := by
  cases h with
  | close blanks =>
    rw [List.append_assoc]
    refine numberEnds_blanks blanks ?_
    cases k <;> exact ⟨by decide, by decide, by decide⟩
  | item before after label inner value rest =>
    rw [List.append_assoc]
    exact numberEnds_blanks before ⟨by decide, by decide, by decide⟩

/-- The first byte of a value is neither blank nor closes a bracket. -/
lemma Valid.first {p : Part} {v : Bytes} (h : Valid p v) (hp : p = .value) :
    ∃ b r, v = b :: r ∧ isBlank b = false ∧ ∀ k : Bracket, b ≠ k.closing := by
  have hscalar : ∀ {t : Bytes}, Scalar t →
      ∃ b r, t = b :: r ∧ isBlank b = false ∧ ∀ k : Bracket, b ≠ k.closing := by
    intro t ht
    obtain ⟨b, r, rfl, hb, -⟩ := ht.skip
    exact ⟨b, r, rfl, hb.visible, hb.closes⟩
  cases h with
  | word mem => exact hscalar (.word mem)
  | number number => exact hscalar (.number number)
  | string body => exact hscalar (.string body rfl)
  | @bracket k s rest => exact ⟨_, _, rfl, k.visible_opening, k.opening_ne_closing⟩
  | close blanks => cases hp
  | item before after label inner value rest => cases hp

/-- What stands before a value inside a bracket is passed over, and its first byte does not close
the bracket. -/
lemma Bracket.Label.lead {k : Bracket} {l w v : Bytes} (hl : k.Label l) (hw : Blanks w)
    (hv : Valid .value v) (r : Bytes) :
    ∃ c t w', skipBlank (l ++ (w ++ (v ++ r))) = c :: t ∧ c ≠ k.closing ∧ Blanks w' ∧
      k.lead (c :: t) = .ok (w' ++ (v ++ r)) := by
  obtain ⟨b, u, rfl, hb, hclose⟩ := hv.first rfl
  cases k with
  | list =>
    obtain rfl : l = [] := hl
    exact ⟨b, u ++ r, [], skipBlank_blanks hw hb _, hclose _, .nil, rfl⟩
  | object =>
    have hkey : skipKey (l ++ (w ++ (b :: u ++ r))) = .ok (w ++ (b :: u ++ r)) :=
      skipKey_eq_ok.2 ⟨[], l, .nil, hl, rfl⟩
    obtain ⟨s, w', hs, hw', rfl⟩ := hl
    exact ⟨quote, _, w, skipBlank_cons _ (by decide), by decide, hw, hkey⟩

/-- What the reader does with a part of the grammar, whatever follows it: a value is passed over
as far as no number goes on, and what is left of a bracket is passed over after the bracket has been
opened, or after a value in it. -/
def Part.Skipped : Part → Bytes → Prop
  | .value, v => ∀ outer w r, Blanks w → NumberEnds r →
    skip .value outer (w ++ (v ++ r)) = skip .next outer r
  | .rest k true, s => ∀ outer w r, Blanks w →
    skip .value outer (w ++ k.opening :: (s ++ r)) = skip .next outer r
  | .rest k false, s => ∀ outer r, skip .next (k :: outer) (s ++ r) = skip .next outer r

lemma Scalar.skipped {v : Bytes} (h : Scalar v) : Part.value.Skipped v := by
  obtain ⟨b, t, rfl, hb, hskip⟩ := h.skip
  intro outer w r hw hr
  exact skip_scalar (skipBlank_blanks hw hb.visible _) hb.opens (hskip r hr)

/-- **Well-formed values are passed over.** By induction on the grammar: what is left of a bracket
is passed over as its first value and what is left after that. -/
lemma Valid.skipped {p : Part} {s : Bytes} (h : Valid p s) : p.Skipped s := by
  induction h with
  | word mem => exact Scalar.skipped (.word mem)
  | number number => exact Scalar.skipped (.number number)
  | string body => exact Scalar.skipped (.string body rfl)
  | bracket rest ih => exact fun outer w r hw _ => ih outer w r hw
  | @close k first v blanks =>
    have hclose : ∀ r, skipBlank (v ++ [k.closing] ++ r) = k.closing :: r := fun r => by
      rw [List.append_assoc]
      exact skipBlank_blanks blanks k.visible_closing r
    cases first with
    | true =>
      exact fun outer w r hw => skip_empty (skipBlank_blanks hw k.visible_opening _)
        k.opened?_opening (hclose r)
    | false => exact fun outer r => skip_closing (hclose r)
  | @item k first w₁ w₂ l w₃ v s before after label inner value rest ihv ihs =>
    have hrest : ∀ outer w r, Blanks w →
        skip .value (k :: outer) (w ++ (v ++ (s ++ r))) = skip .next outer r :=
      fun outer w r hw => (ihv (k :: outer) w (s ++ r) hw (rest.numberEnds r)).trans (ihs outer r)
    cases first with
    | true =>
      intro outer w r hw
      obtain ⟨c, t, w', hc, hne, hw', hlead⟩ := label.lead inner value (s ++ r)
      have hskip : skipBlank (w₁ ++ (lead true ++ (w₂ ++ (l ++ (w₃ ++ (v ++ s))))) ++ r) =
          c :: t := by
        rw [← hc, lead, if_pos rfl, List.nil_append, List.append_assoc, skipBlank_append before,
          List.append_assoc, skipBlank_append after]
        simp only [List.append_assoc]
      rw [skip_open (skipBlank_blanks hw k.visible_opening _) k.opened?_opening hskip hne hlead]
      exact hrest outer w' r hw'
    | false =>
      intro outer r
      have hcomma : skipBlank (w₁ ++ (lead false ++ (w₂ ++ (l ++ (w₃ ++ (v ++ s))))) ++ r) =
          comma :: (w₂ ++ (l ++ (w₃ ++ (v ++ (s ++ r))))) := by
        rw [List.append_assoc, lead, if_neg Bool.false_ne_true, List.append_assoc,
          List.singleton_append, skipBlank_blanks before (by decide)]
        simp only [List.append_assoc]
      cases k with
      | list =>
        obtain rfl : l = [] := label
        rw [skip_comma hcomma rfl, skip_value_blanks after, List.nil_append]
        exact hrest outer w₃ r inner
      | object =>
        have hkey : Bracket.object.lead (w₂ ++ (l ++ (w₃ ++ (v ++ (s ++ r))))) =
            .ok (w₃ ++ (v ++ (s ++ r))) := skipKey_eq_ok.2 ⟨w₂, l, after, label, rfl⟩
        rw [skip_comma hcomma hkey]
        exact hrest outer w₃ r inner

/-- **A well-formed value is passed over**, whatever follows it. -/
theorem skipValue_valid {w v r : Bytes} (hw : Blanks w) (hv : Valid .value v) (hr : NumberEnds r) :
    skipValue (w ++ (v ++ r)) = .ok r :=
  (hv.skipped [] w r hw hr).trans (skip_nil r)

/-! ### What is passed over is well formed -/

/-- What a list of open brackets still asks of a text `s`, which ends with them at `r`. -/
def Closes : List Bracket → Bytes → Bytes → Prop
  | [], s, r => s = r
  | k :: outer, s, r => ∃ t u, Valid (.rest k false) t ∧ s = t ++ u ∧ Closes outer u r

/-- What has been passed over from a place on. -/
def Place.Sound : Place → List Bracket → Bytes → Bytes → Prop
  | .next, outer, s, r => Closes outer s r
  | .value, outer, s, r =>
    ∃ w v u, Blanks w ∧ Valid .value v ∧ s = w ++ (v ++ u) ∧ Closes outer u r

lemma Bracket.lead_sound {k : Bracket} {s r : Bytes} (h : k.lead s = .ok r) :
    ∃ w l, Blanks w ∧ k.Label l ∧ s = w ++ (l ++ r) := by
  cases k with
  | list =>
    obtain rfl := Except.ok.inj h
    exact ⟨[], [], .nil, rfl, rfl⟩
  | object => exact skipKey_eq_ok.1 h

lemma Bracket.opened?_sound {b : UInt8} {k : Bracket} (h : Bracket.opened? b = some k) :
    b = k.opening := by
  rw [Bracket.opened?] at h
  split_ifs at h with h₁ h₂ <;> cases h
  · exact h₁
  · exact h₂

/-- Before the first value in a bracket, there is no comma; the value may stand after blanks, a key
and blanks again. -/
lemma Valid.first_item {k : Bracket} {w₁ w₂ l w₃ v s : Bytes} (before : Blanks w₁)
    (after : Blanks w₂) (label : k.Label l) (inner : Blanks w₃) (value : Valid .value v)
    (rest : Valid (.rest k false) s) :
    Valid (.rest k true) (w₁ ++ (w₂ ++ (l ++ (w₃ ++ (v ++ s))))) :=
  have h : Valid (.rest k true) (w₁ ++ (lead true ++ (w₂ ++ (l ++ (w₃ ++ (v ++ s)))))) :=
    .item before after label inner value rest
  h

/-- Before any other value, there is a comma. -/
lemma Valid.next_item {k : Bracket} {w₁ w₂ l w₃ v s : Bytes} (before : Blanks w₁)
    (after : Blanks w₂) (label : k.Label l) (inner : Blanks w₃) (value : Valid .value v)
    (rest : Valid (.rest k false) s) :
    Valid (.rest k false) (w₁ ++ comma :: (w₂ ++ (l ++ (w₃ ++ (v ++ s))))) :=
  have h : Valid (.rest k false) (w₁ ++ (lead false ++ (w₂ ++ (l ++ (w₃ ++ (v ++ s)))))) :=
    .item before after label inner value rest
  h

lemma skip_sound {place : Place} {outer : List Bracket} {s r : Bytes}
    (h : skip place outer s = .ok r) : place.Sound outer s r := by
  fun_induction skip place outer s with
  | case1 s => exact Except.ok.inj h
  | case3 s k outer t u hu hs ih =>
    -- a comma and another value
    obtain ⟨w, v, x, hw, hv, rfl, t', y, ht', rfl, hy⟩ := ih h
    obtain ⟨w₁, hw₁, rfl⟩ := blanks_of_skipBlank hs
    obtain ⟨w₂, l, hw₂, hl, rfl⟩ := Bracket.lead_sound hu
    exact ⟨_, y, .next_item hw₁ hw₂ hl hw hv ht', by simp, hy⟩
  | case5 s k outer t hs _ ih =>
    -- the closing bracket
    obtain ⟨w, hw, rfl⟩ := blanks_of_skipBlank hs
    exact ⟨_, t, .close hw, by simp, ih h⟩
  | case8 s outer b t hs _ u hu ih =>
    -- a value without parts
    obtain ⟨w, hw, rfl⟩ := blanks_of_skipBlank hs
    obtain ⟨v, hv, hbt⟩ := skipScalar_sound hu
    exact ⟨w, v, u, hw, hv.valid, by rw [hbt], ih h⟩
  | case11 s outer b t hs k hb u hu ih =>
    -- a bracket without values
    obtain ⟨w, hw, rfl⟩ := blanks_of_skipBlank hs
    obtain ⟨w', hw', rfl⟩ := blanks_of_skipBlank hu
    obtain rfl := Bracket.opened?_sound hb
    exact ⟨w, k.opening :: (w' ++ [k.closing]), u, hw, .bracket (.close hw'), by simp, ih h⟩
  | case12 s outer b t hs k hb c u hu _ v hv ih =>
    -- a bracket and its first value
    obtain ⟨w, x, y, hw, hx, rfl, t', z, ht', rfl, hz⟩ := ih h
    obtain ⟨w₁, hw₁, rfl⟩ := blanks_of_skipBlank hs
    obtain ⟨w₂, hw₂, rfl⟩ := blanks_of_skipBlank hu
    obtain ⟨w₃, l, hw₃, hl, hcu⟩ := Bracket.lead_sound hv
    obtain rfl := Bracket.opened?_sound hb
    exact ⟨w₁, _, z, hw₁, .bracket (.first_item hw₂ hw₃ hl hw hx ht'), by simp [hcu], hz⟩
  | _ => cases h

/-- **What is passed over is a well-formed value.** -/
theorem skipValue_sound {s r : Bytes} (h : skipValue s = .ok r) :
    ∃ w v, Blanks w ∧ Valid .value v ∧ s = w ++ (v ++ r) := by
  obtain ⟨w, v, u, hw, hv, rfl, rfl⟩ := skip_sound h
  exact ⟨w, v, hw, hv, rfl⟩

end EventLog.Json
