import EventLog.Proofs.Stream.Run

/-!
# Closing a stream

A stream may be closed at any time, also while it waits for a read, and the source may then fail in
whatever way. A search that starts afterwards finds nothing and changes nothing. A search that is
under way when the stream is first closed may still find a record; if it does not, nothing is held
against the stream. A failure before the first closing stays.

* `Session.closing_suppresses`: all of this, for every run.
-/

namespace EventLog.Session

open Log

variable {ρ : Type} [LogRecord ρ]

/-- The operation in place `i` of a run is a search that finds a record, although the stream has
been closed by the time it answers. -/
def Late (s : Session ρ) (ops : List Operation) (i : ℕ) : Prop :=
  ∃ before after, ops = before ++ .advance :: after ∧ before.length = i ∧
    (s.run before).advance.1 = true ∧ 0 < s.closeCalls (before ++ [.advance])

lemma counts_run {s : Session ρ} (hc : Feed.Counts s.stream.feed.limits s.reach)
    (ops : List Operation) :
    Feed.Counts (s.run ops).stream.feed.limits (s.run ops).pending := by
  rw [run_limits]
  exact hc.of_infix ((Feed.pending_infix_reach _ _).trans (s.run_reach ops).isInfix)

/-- The close calls up to the end of a search that is made after some operations. -/
lemma closed_after_advance {s : Session ρ} (hs : s.stream.closed = false)
    (hcl : s.stream.closer.isSome) (ops : List Operation) :
    (s.run ops).stream.closed = decide (0 < s.closeCalls ops) ∧
      (s.run ops).advance.2.stream.closed = decide (0 < s.closeCalls (ops ++ [.advance])) := by
  have h₁ := s.run_closed ops
  have h₂ := s.run_closed (ops ++ [.advance])
  rw [hs, hcl, Bool.false_or, Bool.true_and] at h₁ h₂
  rw [run_concat] at h₂
  exact ⟨h₁, h₂⟩

lemma advance_of_closed {s : Session ρ} (h : s.stream.closed = true) : s.advance = (false, s) :=
  advance_of_not_open (by simp [Stream.isOpen, h])

/-- An open session finds a record exactly if there is one at the front of what is pending. -/
lemma advance_eq_true_iff {s : Session ρ} (hopen : s.stream.isOpen)
    (hc : Feed.Counts s.stream.feed.limits s.pending) :
    s.advance.1 = true ↔ ∃ c v, s.lines.head? = some c ∧ c.length ≤ s.limit ∧
      LogRecord.decode (ρ := ρ) c = .ok v := by
  have h := seek_sought hc
  rw [advance_of_open hopen]
  constructor
  · intro ht
    rw [ht] at h
    cases h with
    | @record _ c more v lines judge =>
      obtain ⟨hl, hd⟩ := judge_eq_ok.1 judge
      exact ⟨c, v, by rw [lines, List.head?_cons], hl, hd⟩
  · rintro ⟨c, v, hhead, hl, hd⟩
    obtain ⟨more, hlines⟩ := List.head?_eq_some_iff.1 hhead
    have hnext : s.next = .record c v := next_of_judge_ok hlines (judge_eq_ok.2 ⟨hl, hd⟩)
    cases hm : s.seek.1 with
    | true => rfl
    | false =>
      rw [hm] at h
      cases h with
      | failed next => exact absurd (hnext.symm.trans next) nofun
      | ended next => exact absurd (hnext.symm.trans next) nofun

/-- A search that meets a failure and finds the stream open then ends it with the failure. -/
lemma failed_of_next {s : Session ρ} {e : Failure} (hopen : s.stream.isOpen)
    (hc : Feed.Counts s.stream.feed.limits s.pending) (hnext : s.next = .failed e)
    (hcl : s.advance.2.stream.closed = false) :
    s.advance.1 = false ∧ s.advance.2.stream.state = .failed e := by
  rw [advance_of_open hopen] at hcl ⊢
  have hs := seek_sought hc
  cases hm : s.seek.1 with
  | true =>
    rw [hm] at hs
    cases hs with
    | record lines judge => exact absurd ((next_of_judge_ok lines judge).symm.trans hnext) nofun
  | false =>
    rw [hm] at hs
    refine ⟨rfl, ?_⟩
    cases hs with
    | failed next state =>
      obtain rfl := Next.failed.inj (next.symm.trans hnext)
      rw [state, hcl]
      rfl
    | ended next => exact absurd (next.symm.trans hnext) nofun

/-- A search that ends in a closed stream without a record holds nothing against the stream. -/
lemma seek_exhausted {s : Session ρ} (h : s.seek.1 = false) (hcl : s.seek.2.stream.closed = true) :
    s.seek.2.stream.state = .exhausted := by
  fun_induction seek s with
  | case1 s more t ht =>
    rw [step_eq] at ht
    obtain ⟨hmore, rfl⟩ := Prod.mk.inj ht
    have hclosed : s.searched.closed = true :=
      (s.searched.settle_closed s.search.find).2.symm.trans hcl
    exact Stream.settle_exhausted (hmore.trans (congrArg some h)) hclosed
  | case2 s t ht ih => exact ih h hcl

omit [LogRecord ρ] in
lemma not_open_of_state {s : Session ρ} {state : State} (h : s.stream.state = state)
    (hne : state ≠ .running) : ¬ s.stream.isOpen := by
  simp [Stream.isOpen, h, hne]

lemma closeCalls_of_not_open {s : Session ρ} {ops : List Operation}
    (hn : ¬ (s.run ops).stream.isOpen) (h₀ : s.closeCalls ops = 0) :
    ¬ 0 < s.closeCalls (ops ++ [.advance]) := by
  have h : (s.run ops).closeCalls [.advance] = 0 := by
    have hsame : (s.run ops).run [.advance] = s.run ops := perform_advance_of_not_open hn
    rw [closeCalls, hsame, Nat.sub_self]
    rfl
  rw [closeCalls_concat, h₀, h]
  exact Nat.lt_irrefl 0

/-- Of two beginnings of a run that end in a search, the shorter is a beginning of the longer. -/
lemma prefix_concat_of_length_lt {a a' b b' : List Operation}
    (h : a ++ .advance :: a' = b ++ .advance :: b') (hlt : a.length < b.length) :
    ∃ c, b = a ++ [.advance] ++ c := by
  have ha : a ++ [.advance] <+: a ++ .advance :: a' :=
    ⟨a', by rw [List.append_assoc, List.singleton_append]⟩
  have hb : b <+: a ++ .advance :: a' := h ▸ List.prefix_append b _
  have hlen : (a ++ [Operation.advance]).length ≤ b.length := by
    rw [List.length_append]
    exact hlt
  obtain ⟨c, hc⟩ := List.prefix_of_prefix_length_le ha hb hlen
  exact ⟨c, hc.symm⟩

/-- A search during which the stream is closed and that finds no record leaves no failure. -/
lemma err_of_closed {s : Session ρ} (hopen : s.stream.isOpen) (hfalse : s.advance.1 = false)
    (hcl : s.advance.2.stream.closed = true) (later : List Operation) :
    (s.advance.2.run later).stream.err = none := by
  rw [advance_of_open hopen] at hfalse hcl ⊢
  have hstate := seek_exhausted hfalse hcl
  rw [err_run (not_open_of_state hstate (by simp)), Stream.err, hstate]

/-- A search that comes to a failure before the stream is closed leaves the failure. -/
lemma err_of_failed {s : Session ρ} {e : Failure} (hstate : s.advance.2.stream.state = .failed e)
    (later : List Operation) : (s.advance.2.run later).stream.err = some e := by
  rw [err_run (not_open_of_state hstate (by simp)), Stream.err, hstate]

/-- Of two searches that find a record although the stream has been closed, neither comes first: the
second would start after the closing that makes the first one late. -/
lemma Late.not_lt {s : Session ρ} (hs : s.stream.closed = false) (hcl : s.stream.closer.isSome)
    {ops : List Operation} {i j : ℕ} (hi : s.Late ops i) (hj : s.Late ops j) : ¬ i < j := by
  obtain ⟨a, a', rfl, rfl, -, hclosed⟩ := hi
  obtain ⟨b, b', heq, rfl, hfound, -⟩ := hj
  intro hlt
  obtain ⟨c, rfl⟩ := prefix_concat_of_length_lt heq hlt
  have hpos : 0 < s.closeCalls (a ++ [.advance] ++ c) :=
    Nat.lt_of_lt_of_le hclosed (s.closeCalls_le_append _ c)
  have hdone := (closed_after_advance hs hcl (a ++ [.advance] ++ c)).1
  rw [advance_of_closed (hdone.trans (decide_eq_true hpos))] at hfound
  cases hfound

/-- **Closing suppresses.** Of a stream with a closer that has been closed and advanced in any
order, and closed during any reads in between:

* a search that starts after a closing finds nothing and changes nothing, and reads nothing;
* a search during which the stream is first closed finds a record exactly if the next line that is
  not empty is within the limit and holds one, and if it finds none there is no failure, then or
  later;
* no two searches find a record once the stream has been closed;
* a failure that a search comes to before any closing stays.
-/
theorem closing_suppresses (limits : Limits) (closer : Closer) (script : Script)
    (ops : List Operation) :
    let s : Session ρ := .new limits (some closer) script
    let t := s.run ops
    (0 < s.closeCalls ops → t.advance = (false, t)) ∧
      (s.closeCalls ops = 0 → 0 < s.closeCalls (ops ++ [.advance]) →
        (Feed.Counts limits script.unread →
          (t.advance.1 = true ↔ ∃ c v, t.lines.head? = some c ∧ c.length ≤ limits.maxLine ∧
            LogRecord.decode (ρ := ρ) c = .ok v)) ∧
        (t.advance.1 = false → ∀ later, (t.advance.2.run later).stream.err = none)) ∧
      (∀ i j, s.Late ops i → s.Late ops j → i = j) ∧
      (s.closeCalls (ops ++ [.advance]) = 0 → t.stream.state = .running →
        Feed.Counts limits script.unread → ∀ e, t.next = .failed e →
          t.advance.1 = false ∧ ∀ later, (t.advance.2.run later).stream.err = some e) := by
  intro s t
  have hnew : s.stream.closed = false := rfl
  have hcloser : s.stream.closer.isSome := rfl
  obtain ⟨hbefore, hafter⟩ := closed_after_advance hnew hcloser ops
  have hlimit : t.limit = limits.maxLine := congrArg Limits.maxLine (s.run_limits ops)
  refine ⟨?_, ?_, ?_, ?_⟩
  · intro h
    exact advance_of_closed (hbefore.trans (decide_eq_true h))
  · intro h₀ h₁
    have hopen : t.stream.isOpen := by
      by_contra hn
      exact closeCalls_of_not_open hn h₀ h₁
    constructor
    · intro hc
      have h := advance_eq_true_iff hopen (counts_run (s := s) hc ops)
      rwa [hlimit] at h
    · intro hfalse
      exact err_of_closed hopen hfalse (hafter.trans (decide_eq_true h₁))
  · intro i j hi hj
    have h₁ := hi.not_lt hnew hcloser hj
    have h₂ := hj.not_lt hnew hcloser hi
    omega
  · intro h₀ hrun hc e he
    have hcl : t.advance.2.stream.closed = false := hafter.trans (by simp [h₀])
    have hopen : t.stream.isOpen := by
      have h := s.closeCalls_le_append ops [.advance]
      have hclosed : t.stream.closed = false := hbefore.trans (by simp; omega)
      simp [Stream.isOpen, hrun, hclosed]
    obtain ⟨hfalse, hstate⟩ := failed_of_next hopen (counts_run (s := s) hc ops) he hcl
    exact ⟨hfalse, err_of_failed hstate⟩

/-- A stream that is closed while its source fails within the second record has no failure. -/
theorem closing_suppresses_failing_read :
    let script : Script := [.data (utf8 "\x7b\x7d\n\x7b\"mess"), .close,
      .fail ⟨.connectionReset, "gone"⟩]
    let s : Session ErrorEvent := .new ⟨15, 3⟩ (some fun _ => .error ⟨.other, "stuck"⟩) script
    let t := s.run [.advance]
    s.closeCalls [.advance] = 0 ∧ 0 < s.closeCalls [.advance, .advance] ∧
      t.next = .failed (.read ⟨.connectionReset, "gone"⟩) ∧ t.advance.1 = false ∧
      ∀ later, (t.advance.2.run later).stream.err = none := by
  intro script s t
  have h₀ : s.closeCalls [.advance] = 0 := by decide +kernel
  have h₁ : 0 < s.closeCalls [.advance, .advance] := by decide +kernel
  have hfalse : t.advance.1 = false := by decide +kernel
  obtain ⟨-, hfirst, -⟩ := closing_suppresses (ρ := ErrorEvent) ⟨15, 3⟩
    (fun _ => .error ⟨.other, "stuck"⟩) script [.advance]
  exact ⟨h₀, h₁, by decide +kernel, hfalse, (hfirst h₀ h₁).2 hfalse⟩

end EventLog.Session
