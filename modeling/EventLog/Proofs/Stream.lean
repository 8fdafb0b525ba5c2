import EventLog.Stream
import EventLog.Proofs.Feed

/-!
# What a search and a closing do to a stream

A search makes reads, and the stream may be closed while they are under way. Neither touches the
record, the state or the count of records; a closing marks the stream as closed if it has a closer,
and that is all that a search sees of it (`Stream.AfterClosings`). A failure is settled by the mark
alone (`Stream.fail_eq`).
-/

namespace EventLog.Stream

variable {ρ : Type}

/-- The stream `t` is the stream `s` after `n` closings, perhaps with reads between them. -/
structure AfterClosings (s : Stream ρ) (n : ℕ) (t : Stream ρ) : Prop where
  feed : t.feed = s.feed
  record : t.record = s.record
  state : t.state = s.state
  closer : t.closer = s.closer
  eventsRead : t.eventsRead = s.eventsRead
  closed : t.closed = (s.closed || (s.closer.isSome && decide (0 < n)))

namespace AfterClosings

variable {s t u : Stream ρ} {m n : ℕ}

lemma refl (s : Stream ρ) : AfterClosings s 0 s :=
  ⟨rfl, rfl, rfl, rfl, rfl, by simp⟩

lemma trans (h : AfterClosings s m t) (h' : AfterClosings t n u) : AfterClosings s (m + n) u where
  feed := h'.feed.trans h.feed
  record := h'.record.trans h.record
  state := h'.state.trans h.state
  closer := h'.closer.trans h.closer
  eventsRead := h'.eventsRead.trans h.eventsRead
  closed := by
    have hmn : (0 < m ∨ 0 < n) ↔ 0 < m + n := by omega
    rw [h'.closed, h.closed, h.closer, Bool.or_assoc, ← Bool.and_or_distrib_left,
      ← Bool.decide_or]
    simp only [hmn]

lemma after (h : AfterClosings s n t) (e : Effect) : AfterClosings s n (t.after e) :=
  ⟨h.feed, h.record, h.state, h.closer, h.eventsRead, h.closed⟩

lemma close (s : Stream ρ) : AfterClosings s 1 s.close.2 := by
  unfold Stream.close
  split
  · next hc => exact ⟨rfl, rfl, rfl, rfl, rfl, by simp [hc]⟩
  · next closer hc => exact ⟨rfl, rfl, rfl, rfl, rfl, by simp [Stream.after, hc]⟩

lemma closeTimes (s : Stream ρ) (n : ℕ) : AfterClosings s n (s.closeTimes n) := by
  induction n generalizing s with
  | zero => exact refl s
  | succ n ih =>
    have h := (close s).trans (ih s.close.2)
    rw [Nat.add_comm] at h
    exact h

lemma afterRead (s : Stream ρ) (r : Read) : AfterClosings s r.closings (s.afterRead r) :=
  (closeTimes s r.closings).after _

lemma afterReads (s : Stream ρ) (reads : List Read) :
    AfterClosings s (reads.map Read.closings).sum (reads.foldl Stream.afterRead s) := by
  induction reads generalizing s with
  | nil => exact refl s
  | cons r reads ih => exact (afterRead s r).trans (ih (s.afterRead r))

end AfterClosings

/-- A search leaves the stream as its reads do, with the feed of the search. -/
lemma afterClosings_search (s : Stream ρ) (r : Feed.Search) :
    AfterClosings { s with feed := r.feed } r.closings (s.afterSearch r) := by
  obtain ⟨-, h₂, h₃, h₄, h₅, h₆⟩ := AfterClosings.afterReads s r.reads
  exact ⟨rfl, h₂, h₃, h₄, h₅, h₆⟩

/-- A failure ends the stream; it counts unless the stream has been closed. -/
lemma fail_eq (s : Stream ρ) (e : Failure) :
    s.fail e = { s with
      state := if s.closed then .exhausted else .failed e
      history := (s.fail e).history } := by
  unfold fail
  split <;> rfl

/-! ### What a line is worth -/

variable [LogRecord ρ] {s : Stream ρ}

lemma settle_closed (s : Stream ρ) (found : Find) :
    (s.settle found).2.closer = s.closer ∧ (s.settle found).2.closed = s.closed := by
  have hfail : ∀ e, (s.fail e).closer = s.closer ∧ (s.fail e).closed = s.closed := by
    intro e
    rw [fail_eq]
    exact ⟨rfl, rfl⟩
  cases found with
  | line =>
    simp only [settle, decodeLine]
    split
    · exact ⟨rfl, rfl⟩
    · split
      · exact ⟨rfl, rfl⟩
      · exact hfail _
  | tooLong => exact hfail _
  | ended => exact ⟨rfl, rfl⟩
  | failed e => exact hfail _

lemma settle_blank (h : s.bytes = []) : s.settle .line = (none, s) :=
  if_pos h

lemma settle_record {c : Bytes} {v : ρ} (hb : s.bytes = c) (h0 : c ≠ [])
    (h : Log.judge s.feed.limits.maxLine c = .ok v) :
    s.settle .line =
      (some true, { s with record := v, eventsRead := s.eventsRead + 1 }) := by
  subst hb
  unfold Log.judge at h
  split at h
  · cases h
  · cases hd : LogRecord.decode (ρ := ρ) s.bytes with
    | error e =>
      rw [hd] at h
      cases h
    | ok v' =>
      rw [hd] at h
      cases h
      simp only [settle, if_neg h0, decodeLine, hd]

/-- A line that is within the limit and judged to hold no record ends the stream. -/
lemma settle_failed {c : Bytes} {e : Failure} (hb : s.bytes = c) (h0 : c ≠ [])
    (hl : c.length ≤ s.feed.limits.maxLine)
    (h : Log.judge (ρ := ρ) s.feed.limits.maxLine c = .error e) :
    s.settle .line = (some false, s.fail e) := by
  subst hb
  rw [Log.judge, if_neg (Nat.not_lt.2 hl)] at h
  cases hd : LogRecord.decode (ρ := ρ) s.bytes with
  | ok v =>
    rw [hd] at h
    cases h
  | error e' =>
    rw [hd] at h
    cases h
    simp only [settle, if_neg h0, decodeLine, hd]

/-- Whatever ends a closed stream, it ends without a failure. -/
lemma settle_exhausted {found : Find} (h : (s.settle found).1 = some false)
    (hcl : s.closed = true) : (s.settle found).2.state = .exhausted := by
  have hfail : ∀ e, (s.fail e).state = .exhausted := by
    intro e
    rw [fail_eq, hcl]
    rfl
  cases found with
  | line =>
    by_cases h0 : s.bytes = []
    · rw [settle_blank h0] at h
      cases h
    · cases hd : LogRecord.decode (ρ := ρ) s.bytes with
      | ok v => simp [settle, h0, decodeLine, hd] at h
      | error e =>
        simp only [settle, if_neg h0, decodeLine, hd]
        exact hfail _
  | tooLong => exact hfail _
  | ended => rfl
  | failed e => exact hfail _

end EventLog.Stream
