import EventLog.Proofs.Duration.Grammar

/-!
# Every step of the reader is defined

Some of the steps in reading an elapsed time have a result only under a condition. A text is cut at
byte positions, and none of them may be inside a character. The number that a fraction denotes, its
denominator and the product with the unit are computed in 128 bits without a check, and so is the
change of sign at the end.

The careful reader makes each of these steps only if its condition holds, and has no result
otherwise. It always has one, and that is the result of the reader. What carries this through the
components of a text is that at most eighteen digits of a fraction count, that a unit is shorter
than `10 ^ 18` nanoseconds, and that the sum so far is what the text up to here says.

* `Utf8.splitAt?`, `Duration.cut?`: texts are cut between characters.
* `Duration.fraction?`, `Duration.fractionNanos?`: the arithmetic of fractions.
* `Duration.turn?`, `Duration.sum?`: one component, and all of them.
* `Duration.Steady`: what holds before each component.
* `Duration.parse_careful`: the whole reader.
-/

namespace EventLog

open Ascii Text

/-! ### Texts are cut between characters -/

namespace Utf8

/-- How many bytes a text takes up. -/
def size (s : List Char) : ℕ := (encode s).length

@[simp] lemma size_nil : size [] = 0 := rfl

lemma size_cons (c : Char) (s : List Char) :
    size (c :: s) = (String.utf8EncodeChar c).length + size s := by
  rw [size, encode_cons, List.length_append, size]

@[simp] lemma size_append (s t : List Char) : size (s ++ t) = size s + size t := by
  rw [size, encode_append, List.length_append, size, size]

lemma length_encodeChar_pos (c : Char) : 0 < (String.utf8EncodeChar c).length := by
  obtain ⟨b, k, h, -⟩ := encodeChar_cases c
  rw [h]
  exact Nat.succ_pos _

lemma size_pos {s : List Char} (h : s ≠ []) : 0 < size s := by
  obtain ⟨c, s, rfl⟩ := List.exists_cons_of_ne_nil h
  rw [size_cons]
  exact Nat.add_pos_left (length_encodeChar_pos c) _

/-- Cuts a text in front of the byte at some position. There is no such cut inside a character or
behind the end. -/
def splitAt? (i : ℕ) : List Char → Option (List Char × List Char)
  | [] => if i = 0 then some ([], []) else none
  | c :: s =>
    if i = 0 then some ([], c :: s)
    else if i < (String.utf8EncodeChar c).length then none
    else (splitAt? (i - (String.utf8EncodeChar c).length) s).map fun p => (c :: p.1, p.2)

/-- The cuts of a text are those between its characters. -/
lemma splitAt?_eq_some {i : ℕ} {s a b : List Char} :
    splitAt? i s = some (a, b) ↔ s = a ++ b ∧ size a = i := by
  induction s generalizing i a with
  | nil =>
    rw [splitAt?, Option.ite_none_right_eq_some, Option.some.injEq, Prod.mk.injEq,
      List.nil_eq_append_iff]
    constructor
    · rintro ⟨rfl, rfl, rfl⟩
      exact ⟨⟨rfl, rfl⟩, rfl⟩
    · rintro ⟨⟨rfl, rfl⟩, rfl⟩
      exact ⟨rfl, rfl, rfl⟩
  | cons c s ih =>
    have hpos := length_encodeChar_pos c
    rw [splitAt?]
    constructor
    · intro h
      split_ifs at h with hzero hinside
      · cases h
        exact ⟨rfl, hzero.symm⟩
      · obtain ⟨p, hp, rfl, rfl⟩ : ∃ p : List Char × List Char,
            splitAt? (i - (String.utf8EncodeChar c).length) s = some p ∧
              c :: p.1 = a ∧ p.2 = b := by
          simpa using h
        obtain ⟨rfl, hsize⟩ := ih.1 hp
        refine ⟨rfl, ?_⟩
        rw [size_cons]
        omega
    · rintro ⟨happend, rfl⟩
      cases a with
      | nil => exact happend ▸ if_pos rfl
      | cons d a =>
        obtain ⟨rfl, rfl⟩ := List.cons.inj happend
        rw [size_cons, if_neg (by omega), if_neg (by omega), Nat.add_sub_cancel_left,
          ih.2 ⟨rfl, rfl⟩]
        rfl

/-- How many bytes at the front of a text are digits. -/
def digitBytes (s : List Char) : ℕ := ((encode s).takeWhile isDigit).length

/-- The first byte of any other character is not a digit. -/
lemma isDigit_first {c : Char} (h : c.isDigit = false) :
    ∃ b k, String.utf8EncodeChar c = b :: k ∧ isDigit b = false := by
  by_cases hascii : c.toNat < 0x80
  · refine ⟨byte c, [], encodeChar_ascii hascii, ?_⟩
    have hbyte : (byte c).toNat = c.toNat := toNat_byte (by omega)
    rw [← h, Bool.eq_iff_iff]
    simp only [isDigit, Char.isDigit, Bool.and_eq_true, decide_eq_true_eq, UInt8.le_iff_toNat_le,
      UInt32.le_iff_toNat_le, ge_iff_le, hbyte]
    rfl
  · obtain ⟨b, k, hb, -⟩ := encodeChar_cases c
    have hle : 0x80 ≤ b.toNat := le_of_mem_encodeChar (not_lt.1 hascii) (by simp [hb])
    refine ⟨b, k, hb, ?_⟩
    rw [isDigit, Bool.and_eq_false_iff, decide_eq_false_iff_not, decide_eq_false_iff_not,
      UInt8.le_iff_toNat_le, UInt8.le_iff_toNat_le]
    right
    show ¬ b.toNat ≤ 0x39
    omega

/-- The digits of a text are characters of one byte each. -/
lemma digitBytes_eq (s : List Char) : digitBytes s = size (s.takeWhile Char.isDigit) := by
  induction s with
  | nil => rfl
  | cons c s ih =>
    cases hc : c.isDigit with
    | true =>
      obtain ⟨hbyte, hdigit, -⟩ := byte_of_isDigit hc
      rw [List.takeWhile_cons_of_pos hc, size_cons, ← ih, digitBytes, encode_cons, hbyte,
        List.singleton_append, List.takeWhile_cons_of_pos hdigit, List.length_cons, digitBytes,
        List.length_singleton, Nat.add_comm]
    | false =>
      obtain ⟨b, k, hb, hdigit⟩ := isDigit_first hc
      rw [List.takeWhile_cons_of_neg (by simp [hc]), digitBytes, encode_cons, hb, List.cons_append,
        List.takeWhile_cons_of_neg (by simp [hdigit])]
      rfl

end Utf8

namespace Duration

open Utf8

/-- The position of the first byte of the next number, or of the end if there is none. -/
def unitBytes : List Char → ℕ
  | [] => 0
  | c :: s => if startsNumber c then 0 else (String.utf8EncodeChar c).length + unitBytes s

lemma unitBytes_eq (s : List Char) : unitBytes s = size (s.takeWhile (!startsNumber ·)) := by
  induction s with
  | nil => rfl
  | cons c s ih =>
    cases hc : startsNumber c with
    | true => rw [unitBytes, if_pos hc, List.takeWhile_cons_of_neg (by simp [hc]), size_nil]
    | false =>
      rw [unitBytes, if_neg (by simp [hc]), List.takeWhile_cons_of_pos (by simp [hc]), size_cons,
        ih]

/-- The digits after a point at the front of a text, cut off at a byte position. -/
def cutFraction? : List Char → Option (List Char × List Char)
  | [] => some ([], [])
  | c :: r => if c = '.' then splitAt? (digitBytes r) r else some ([], c :: r)

/-- The first component of a text, cut off at byte positions. -/
def cut? (s : List Char) : Option (Component × List Char) := do
  let (whole, r) ← splitAt? (digitBytes s) s
  let (fraction, r) ← cutFraction? r
  let (unit, r) ← splitAt? (unitBytes r) r
  return (⟨whole, fraction, unit⟩, r)

/-- Cutting a text behind the characters of a class at its front. -/
lemma splitAt?_span (p : Char → Bool) (s : List Char) :
    splitAt? (size (s.takeWhile p)) s = some (s.takeWhile p, s.dropWhile p) :=
  splitAt?_eq_some.2 ⟨List.takeWhile_append_dropWhile.symm, rfl⟩

lemma cutFraction?_eq (s : List Char) : cutFraction? s = some (cutFraction s) := by
  cases s with
  | nil => rfl
  | cons c r =>
    rw [cutFraction?, cutFraction]
    split_ifs
    · rw [digitBytes_eq, splitAt?_span]
    · rfl

/-- **The positions at which a component is cut off are all between characters.** -/
lemma cut?_eq (s : List Char) : cut? s = some (cut s) := by
  simp only [cut?, digitBytes_eq, splitAt?_span, cutFraction?_eq, unitBytes_eq, Option.bind_eq_bind,
    Option.bind_some, cut]
  rfl

/-! ### The arithmetic of fractions -/

/-- A number that has to fit in 128 bits without a check. -/
def word? (n : ℕ) : Option ℕ := if n < bound then some n else none

lemma word?_of_lt {n : ℕ} (h : n < bound) : word? n = some n := if_pos h

/-- The number of a digit, which is what the byte has more than the digit zero. -/
def digit? (b : UInt8) : Option ℕ := if Ascii.zero ≤ b then some (digitValue b) else none

/-- A fraction with one more digit. -/
def addDigit? (fraction : ℕ × ℕ) (b : UInt8) : Option (ℕ × ℕ) := do
  let tens ← word? (fraction.1 * 10)
  let digit ← digit? b
  let number ← word? (tens + digit)
  let denominator ← word? (fraction.2 * 10)
  return (number, denominator)

/-- The number that digits behind a point denote, and its denominator. -/
def fraction? (ds : List Char) : Option (ℕ × ℕ) :=
  ((encode ds).take fractionDigits).foldlM addDigit? (0, 1)

/-- The nanoseconds that a fraction adds. -/
def fractionNanos? (ds : List Char) (scale : ℕ) : Option ℕ := do
  let (number, denominator) ← fraction? ds
  let product ← word? (number * scale)
  if denominator = 0 then none else return product / denominator

lemma encode_digits {ds : List Char} (h : ∀ c ∈ ds, c.isDigit) : encode ds = ds.map byte := by
  induction ds with
  | nil => rfl
  | cons c ds ih =>
    obtain ⟨hc, hds⟩ := List.forall_mem_cons.1 h
    rw [encode_cons, ih hds, (byte_of_isDigit hc).1]
    rfl

lemma digit?_byte {c : Char} (h : c.isDigit) : digit? (byte c) = some (value [c]) := by
  obtain ⟨-, hdigit, hvalue⟩ := byte_of_isDigit h
  have hle : Ascii.zero ≤ byte c := by
    rw [isDigit, Bool.and_eq_true, decide_eq_true_eq] at hdigit
    exact hdigit.1
  have hsingle := (value_singleton h).2
  rw [digit?, if_pos hle, hvalue]
  congr 1
  omega

/-- One more digit makes the denominator ten times as large, as long as the fraction is short. -/
lemma addDigit?_eq {ds : List Char} {c : Char} (hds : ∀ x ∈ ds, x.isDigit) (hc : c.isDigit)
    (hlength : ds.length < fractionDigits) :
    addDigit? (value ds, 10 ^ ds.length) (byte c) =
      some (value (ds ++ [c]), 10 ^ (ds ++ [c]).length) := by
  have hvalue := value_lt hds
  have hlast := (value_singleton hc).1
  have hpow : 10 ^ ds.length ≤ 10 ^ 17 :=
    Nat.pow_le_pow_right (by omega) (Nat.le_of_lt_succ hlength)
  have hbound : 10 ^ 17 * 10 < bound := by decide
  have hsum : value (ds ++ [c]) = value ds * 10 + value [c] := value_append ds [c]
  simp only [addDigit?, digit?_byte hc, Option.bind_eq_bind, Option.bind_some]
  rw [word?_of_lt (by omega), Option.bind_some, word?_of_lt (by omega), Option.bind_some,
    word?_of_lt (by omega), Option.bind_some, hsum, List.length_append, List.length_singleton,
    pow_succ]
  rfl

/-- No step in computing the number of up to eighteen digits and its denominator goes beyond 128
bits. -/
lemma foldlM_addDigit? {ds : List Char} (hds : ∀ c ∈ ds, c.isDigit)
    (hlength : ds.length ≤ fractionDigits) :
    (ds.map byte).foldlM addDigit? (0, 1) = some (value ds, 10 ^ ds.length) := by
  induction ds using List.reverseRecOn with
  | nil => rfl
  | append_singleton ds c ih =>
    obtain ⟨hds, hc⟩ := List.forall_mem_append.1 hds
    rw [List.length_append, List.length_singleton] at hlength
    rw [List.map_append, List.foldlM_append, ih hds (by omega)]
    show (addDigit? (value ds, 10 ^ ds.length) (byte c) >>= fun fraction => some fraction) = _
    rw [addDigit?_eq hds (hc c List.mem_cons_self) hlength]
    rfl

lemma fraction?_eq {ds : List Char} (hds : ∀ c ∈ ds, c.isDigit) :
    fraction? ds =
      some (value (ds.take fractionDigits), 10 ^ (ds.take fractionDigits).length) := by
  have htake : ∀ c ∈ ds.take fractionDigits, c.isDigit := fun c hc =>
    hds c (List.mem_of_mem_take hc)
  rw [fraction?, encode_digits hds, ← List.map_take,
    foldlM_addDigit? htake (List.length_take_le _ _)]

/-- **A fraction is less than one**, and adds less than one unit. -/
lemma fraction?_bounds {ds : List Char} (hds : ∀ c ∈ ds, c.isDigit) :
    ∃ number denominator, fraction? ds = some (number, denominator) ∧ number < denominator ∧
      denominator ≤ 10 ^ 18 ∧ ∀ unit : TimeUnit, number * unit.nanos < bound ∧
        number * unit.nanos / denominator < unit.nanos := by
  have hlt := value_lt fun c hc => hds c (List.mem_of_mem_take (i := fractionDigits) hc)
  have hle : 10 ^ (ds.take fractionDigits).length ≤ 10 ^ 18 :=
    Nat.pow_le_pow_right (by omega) (List.length_take_le _ _)
  refine ⟨_, _, fraction?_eq hds, hlt, hle, fun unit => ⟨?_, ?_⟩⟩
  · have hproduct : value (ds.take fractionDigits) * unit.nanos < 10 ^ 18 * 10 ^ 18 :=
      Nat.mul_lt_mul'' (hlt.trans_le hle) (unit_nanos_lt unit)
    exact hproduct.trans (by decide)
  · exact Nat.div_lt_of_lt_mul (Nat.mul_lt_mul_of_pos_right hlt (unit_nanos_pos unit))

lemma fractionNanos?_eq {ds : List Char} (hds : ∀ c ∈ ds, c.isDigit) (unit : TimeUnit) :
    fractionNanos? ds unit.nanos = some (fractionNanos ds unit.nanos) := by
  obtain ⟨number, denominator, hfraction, hlt, -, hunit⟩ := fraction?_bounds hds
  have hpositive : denominator ≠ 0 := by omega
  have hpair := (fraction?_eq hds).symm.trans hfraction
  simp only [Option.some.injEq, Prod.mk.injEq] at hpair
  obtain ⟨rfl, rfl⟩ := hpair
  simp only [fractionNanos?, hfraction, Option.bind_eq_bind, Option.bind_some,
    word?_of_lt (hunit unit).1, if_neg hpositive]
  rfl

/-! ### One component -/

/-- The length of a component in nanoseconds. -/
def Component.nanos? (c : Component) : Option (Except Fault ℕ) :=
  if c.whole = [] ∧ c.fraction = [] then some (.error .invalid)
  else if c.unit = [] then some (.error .missingUnit)
  else
    match unitOf? c.unit with
    | none => some (.error (.unknownUnit (String.ofList c.unit)))
    | some unit =>
      match checkedValue c.whole >>= fun whole => checked (whole * unit.nanos) with
      | .error e => some (.error e)
      | .ok product => do
        let fraction ← fractionNanos? c.fraction unit.nanos
        return checked (product + fraction)

lemma Component.nanos?_eq {c : Component} (hc : ∀ x ∈ c.fraction, x.isDigit) :
    c.nanos? = some c.nanos := by
  by_cases hnone : c.whole = [] ∧ c.fraction = []
  · simp only [Component.nanos?, Component.nanos, if_pos hnone]
    rfl
  · by_cases hunit : c.unit = []
    · simp only [Component.nanos?, Component.nanos, if_neg hnone, if_pos hunit]
      rfl
    · simp only [Component.nanos?, Component.nanos, if_neg hnone, if_neg hunit]
      cases unitOf? c.unit with
      | none => rfl
      | some unit =>
        simp only [fractionNanos?_eq hc]
        cases checkedValue c.whole with
        | error e => rfl
        | ok whole =>
          show (match checked (whole * unit.nanos) with
            | .error e => some (.error e)
            | .ok product => _) = some (checked (whole * unit.nanos) >>= _)
          cases checked (whole * unit.nanos) with
          | error e => rfl
          | ok product => rfl

/-- Takes one component off a text and adds it to the sum of those before. -/
def turn (total : ℕ) (s : List Char) : Except Fault (ℕ × List Char) := do
  let n ← (cut s).1.nanos
  let total ← checked (total + n)
  return (total, (cut s).2)

/-- The same, with care. -/
def turn? (total : ℕ) (s : List Char) : Option (Except Fault (ℕ × List Char)) := do
  let (c, r) ← cut? s
  let n ← c.nanos?
  return do
    let total ← checked (total + (← n))
    return (total, r)

lemma fraction_cut (s : List Char) : ∀ x ∈ (cut s).1.fraction, x.isDigit := by
  intro x hx
  rcases hs : s.dropWhile Char.isDigit with _ | ⟨c, r⟩
  · simp [cut, hs, cutFraction] at hx
  · simp only [cut, hs, cutFraction] at hx
    split_ifs at hx
    · exact List.mem_takeWhile_imp hx
    · simp at hx

/-- **Taking off a component goes through.** -/
lemma turn?_eq (total : ℕ) (s : List Char) : turn? total s = some (turn total s) := by
  simp only [turn?, cut?_eq, Option.bind_eq_bind, Option.bind_some,
    Component.nanos?_eq (fraction_cut s)]
  rfl

lemma turn_eq_ok {total total' : ℕ} {s r : List Char} :
    turn total s = .ok (total', r) ↔
      ∃ n, (cut s).1.nanos = .ok n ∧ total + n < bound ∧ total' = total + n ∧ r = (cut s).2 := by
  rw [turn]
  constructor
  · intro h
    cases hn : (cut s).1.nanos with
    | error e =>
      rw [hn] at h
      cases h
    | ok n =>
      rw [hn] at h
      change (checked (total + n) >>= fun total => .ok (total, (cut s).2)) = .ok (total', r) at h
      rw [checked] at h
      split_ifs at h with hlt
      · cases h
        exact ⟨n, rfl, hlt, rfl, rfl⟩
      · cases h
  · rintro ⟨n, hn, hlt, rfl, rfl⟩
    rw [hn]
    show (checked (total + n) >>= fun total => .ok (total, (cut s).2)) = _
    rw [checked, if_pos hlt]
    rfl

lemma turn_length {total total' : ℕ} {s r : List Char} (h : turn total s = .ok (total', r)) :
    r.length < s.length := by
  obtain ⟨n, hn, -, -, rfl⟩ := turn_eq_ok.1 h
  exact cut_length rfl (Component.unit_ne_nil hn)

/-! ### All components -/

/-- The sum of the components of a text, after those before it that make up `total`. -/
def sum? (total : ℕ) (s : List Char) : Option (Except Fault ℕ) :=
  if s = [] then some (.ok total)
  else
    match _h : turn? total s with
    | none => none
    | some (.error e) => some (.error e)
    | some (.ok (total, r)) => sum? total r
termination_by s.length
decreasing_by exact turn_length (Option.some.inj ((turn?_eq _ _).symm.trans _h))

lemma sum_eq_turn {total : ℕ} {s : List Char} (h : s ≠ []) :
    sum total s = turn total s >>= fun p => sum p.1 p.2 := by
  have hcut : cut s = ((cut s).1, (cut s).2) := rfl
  rw [sum_eq h hcut, turn]
  cases (cut s).1.nanos with
  | error e => rfl
  | ok n =>
    show (checked (total + n) >>= _) = (checked (total + n) >>= _) >>= _
    cases checked (total + n) <;> rfl

lemma sum?_eq (total : ℕ) (s : List Char) : sum? total s = some (sum total s) := by
  fun_induction sum? total s with
  | case1 total => rw [sum, if_pos rfl]
  | case2 total s hs h => cases (turn?_eq total s).symm.trans h
  | case3 total s hs e h =>
    rw [sum_eq_turn hs, Option.some.inj ((turn?_eq total s).symm.trans h)]
    rfl
  | case4 total s hs total' r h ih =>
    rw [sum_eq_turn hs, Option.some.inj ((turn?_eq total s).symm.trans h)]
    exact ih

/-! ### The sign -/

/-- Numbers with a sign have 128 bits as well. -/
def signedBound : ℕ := 0x80000000000000000000000000000000

/-- The opposite of a number, which has to fit in 128 bits with a sign. -/
def opposite? (n : ℤ) : Option ℤ :=
  if -(signedBound : ℤ) ≤ -n ∧ -n < signedBound then some (-n) else none

/-- The elapsed time that a sum of components and a sign make. -/
def ofSum? (negative : Bool) (total : ℕ) : Option (Except Fault Duration) :=
  if total < signedBound then do
    let n ← if negative then opposite? total else some (total : ℤ)
    return if Fits64 n then .ok ⟨n⟩ else .error .overflow
  else some (.error .overflow)

/-- **The change of sign stays within 128 bits.** -/
lemma ofSum?_eq (negative : Bool) (total : ℕ) :
    ofSum? negative total = some (ofSum negative total) := by
  rw [ofSum?]
  by_cases h : total < signedBound
  · rw [if_pos h]
    cases negative with
    | false => rfl
    | true =>
      have hfits : -(signedBound : ℤ) ≤ -(total : ℤ) ∧ -(total : ℤ) < signedBound := by
        rw [signedBound] at h ⊢
        omega
      rw [if_pos rfl, opposite?, if_pos hfits]
      rfl
  · have hrange : ¬ Fits64 (if negative then -(total : ℤ) else total) := by
      rw [signedBound] at h
      simp only [Fits64]
      split <;> omega
    rw [if_neg h, ofSum, if_neg hrange]

/-- The careful reader. -/
def parse? (s : String) : Option (Except Fault Duration) :=
  let (negative, r) := splitSign s.toList
  if r = ['0'] then some (.ok zero)
  else if r = [] then some (.error .invalid)
  else
    match sum? 0 r with
    | none => none
    | some (.error e) => some (.error e)
    | some (.ok total) => ofSum? negative total

lemma parse?_eq (s : String) : parse? s = some (parse s) := by
  rcases hsplit : splitSign s.toList with ⟨negative, r⟩
  rw [parse?, parse, parseChars, hsplit]
  simp only [sum?_eq, ofSum?_eq]
  split_ifs
  · rfl
  · rfl
  · cases sum 0 r <;> rfl

/-! ### What holds before each component -/

/-- What the reader comes to in a text: the sum of what it has taken off, and what is left. -/
inductive Reaches (s : List Char) : ℕ → List Char → Prop
  | start : Reaches s 0 s
  | turn {total total' : ℕ} {rest rest' : List Char} (before : Reaches s total rest)
      (left : rest ≠ []) (turn : turn? total rest = some (.ok (total', rest'))) :
      Reaches s total' rest'

/-- What holds of a text whenever a component is to be taken off. -/
structure Steady (s : List Char) (total : ℕ) (rest : List Char) : Prop where
  /-- What has been taken off is a row of amounts, and the sum is exactly theirs. -/
  read : ∃ front as, s = front ++ rest ∧ AmountsText as front ∧ total = (as.map Amount.nanos).sum
  /-- The sum fits in 128 bits. -/
  range : total < bound
  /-- The next component is cut off between characters. -/
  cuts : cut? rest = some (cut rest)
  /-- After any of the digits behind its point, number and denominator of the fraction are in range,
  and it adds less than one unit. -/
  fraction : ∀ k, ∃ number denominator,
    fraction? ((cut rest).1.fraction.take k) = some (number, denominator) ∧
      number < denominator ∧ denominator ≤ 10 ^ 18 ∧ ∀ unit : TimeUnit,
        number * unit.nanos < bound ∧ number * unit.nanos / denominator < unit.nanos
  /-- Adding the component goes through, or ends in a fault. -/
  turns : turn? total rest = some (turn total rest)
  /-- If it goes through, what is left is an end of the text, and shorter. -/
  shorter : ∀ total' rest', turn? total rest = some (.ok (total', rest')) →
    rest' <:+ rest ∧ size rest' < size rest

lemma AmountsText.concat {as : List Amount} {a : Amount} {s t : List Char} (h : AmountsText as s)
    (ha : AmountText a t) : AmountsText (as ++ [a]) (s ++ t) := by
  induction h with
  | nil =>
    have hsingle := AmountsText.cons ha .nil
    rwa [List.append_nil] at hsingle
  | cons head tail ih =>
    rw [List.append_assoc]
    exact .cons head ih

lemma stops_cut (s : List Char) : Stops (!startsNumber ·) (cut s).2 :=
  stops_dropWhile _ _

/-- A component that is added is a written amount, and adds what the amount tells. -/
lemma amount_of_turn {total total' : ℕ} {s r : List Char} (h : turn total s = .ok (total', r)) :
    ∃ a t, AmountText a t ∧ s = t ++ r ∧ total' = total + a.nanos ∧ total' < bound := by
  obtain ⟨n, hn, hlt, rfl, rfl⟩ := turn_eq_ok.1 h
  have hcut : cut s = ((cut s).1, (cut s).2) := rfl
  obtain ⟨a, t, ha, hs⟩ := amount_of_cut hcut hn
  obtain ⟨name, hname, hcut'⟩ := ha.cut (stops_cut s)
  have hnanos : n = a.nanos := by
    rw [← hs] at hcut'
    rw [hcut', a.nanos_eq_checked hname, checked] at hn
    split_ifs at hn
    cases hn
    rfl
  exact ⟨a, t, ha, hs, by rw [hnanos], hlt⟩

/-- **What is read so far.** It holds at the start, and each component keeps it up. -/
lemma Reaches.read {s rest : List Char} {total : ℕ} (h : Reaches s total rest) :
    total < bound ∧
      ∃ front as, s = front ++ rest ∧ AmountsText as front ∧ total = (as.map Amount.nanos).sum := by
  induction h with
  | start => exact ⟨by decide, [], [], rfl, .nil, rfl⟩
  | @turn total total' rest rest' before left hturn ih =>
    obtain ⟨-, front, as, rfl, has, rfl⟩ := ih
    rw [turn?_eq, Option.some.injEq] at hturn
    obtain ⟨a, t, ha, rfl, rfl, hlt⟩ := amount_of_turn hturn
    refine ⟨hlt, front ++ t, as ++ [a], (List.append_assoc ..).symm, has.concat ha, ?_⟩
    rw [List.map_append, List.sum_append, List.map_singleton, List.sum_singleton]

lemma Reaches.steady {s rest : List Char} {total : ℕ} (h : Reaches s total rest) :
    Steady s total rest where
  read := h.read.2
  range := h.read.1
  cuts := cut?_eq rest
  fraction := fun k => fraction?_bounds fun c hc => fraction_cut rest c (List.mem_of_mem_take hc)
  turns := turn?_eq total rest
  shorter := by
    intro total' rest' hturn
    rw [turn?_eq, Option.some.injEq] at hturn
    obtain ⟨a, t, ha, rfl, -, -⟩ := amount_of_turn hturn
    obtain ⟨c, cs, rfl, -⟩ := ha.first
    refine ⟨List.suffix_append _ _, ?_⟩
    have hpositive := size_pos (List.cons_ne_nil c cs)
    rw [size_append]
    omega

/-- **Every step of the reader is defined.** The careful reader comes to the same result for every
text. Whenever a component is to be taken off, the sum so far is exact, all cuts are between
characters, the fraction is in range and adds less than one unit, and if the component is added,
what is left is shorter. -/
theorem parse_careful (s : String) :
    parse? s = some (parse s) ∧ ∀ total rest, Reaches (splitSign s.toList).2 total rest →
      Steady (splitSign s.toList).2 total rest :=
  ⟨parse?_eq s, fun _ _ h => h.steady⟩

/-- The second component of a text with a micro sign. -/
theorem parse_careful_micro :
    let rest := (splitSign "-1.5\u03bcs2h".toList).2
    Reaches rest 1500 ['2', 'h'] ∧ Steady rest 1500 ['2', 'h'] ∧
      parse? "-1.5\u03bcs2h" = some (.ok ⟨-7200000001500⟩) := by
  intro rest
  have hreaches : Reaches rest 1500 ['2', 'h'] :=
    .turn .start (by decide) (by decide +kernel)
  have hcareful := parse_careful "-1.5\u03bcs2h"
  exact ⟨hreaches, hcareful.2 1500 ['2', 'h'] hreaches, hcareful.1.trans (by decide +kernel)⟩

end Duration

end EventLog
