import EventLog.Proofs.Stream.Search

/-!
# Runs of a session

Whoever holds a stream advances it and closes it, in any order; meanwhile it may also be closed
while a read is under way. A run is a list of such operations. It says how often the stream has been
closed in all (`Session.closeCalls`), and that is what the mark of the stream goes by
(`Session.run_closed`). A session that is no longer open stays as it is (`Session.run_of_ended`).
-/

namespace EventLog

/-- What can be asked of a stream. A closing may come through the stream or through any clone of its
handle: they share one mark and one closer, so that it makes no difference. -/
inductive Operation
  /-- Look for the next record. -/
  | advance
  /-- Close the stream. -/
  | close
  deriving DecidableEq, Repr

namespace Session

variable {ρ : Type} [LogRecord ρ]

/-- The session after an operation. -/
def perform (s : Session ρ) : Operation → Session ρ
  | .advance => s.advance.2
  | .close => s.close.2

/-- The session after some operations. -/
def run (s : Session ρ) (ops : List Operation) : Session ρ := ops.foldl perform s

/-- How often the stream is closed in a run: by the operations, and during the reads that are made
in the meantime. -/
def closeCalls (s : Session ρ) (ops : List Operation) : ℕ :=
  ops.count .close + (s.script.closings - (s.run ops).script.closings)

@[simp] lemma run_nil (s : Session ρ) : s.run [] = s := rfl

lemma run_concat (s : Session ρ) (ops : List Operation) (op : Operation) :
    s.run (ops ++ [op]) = (s.run ops).perform op := by
  rw [run, List.foldl_append]
  rfl

/-! ### One operation -/

lemma advance_of_open {s : Session ρ} (h : s.stream.isOpen) : s.advance = s.seek :=
  if_pos h

lemma advance_of_not_open {s : Session ρ} (h : ¬ s.stream.isOpen) : s.advance = (false, s) :=
  if_neg h

omit [LogRecord ρ] in
lemma running_of_open {s : Session ρ} (h : s.stream.isOpen) :
    s.stream.state = .running ∧ s.stream.closed = false := by
  simpa [Stream.isOpen] using h

lemma perform_advance_of_not_open {s : Session ρ} (h : ¬ s.stream.isOpen) :
    s.perform .advance = s :=
  congrArg Prod.snd (advance_of_not_open h)

omit [LogRecord ρ] in
lemma Kept.refl (s : Session ρ) : s.Kept s :=
  ⟨rfl, rfl, Nat.le_refl _, by simp⟩

lemma advance_kept (s : Session ρ) : s.Kept s.advance.2 := by
  by_cases h : s.stream.isOpen
  · rw [advance_of_open h]
    exact s.seek_kept
  · rw [advance_of_not_open h]
    exact Kept.refl s

omit [LogRecord ρ] in
lemma close_closings (s : Session ρ) : Stream.AfterClosings s.stream 1 s.close.2.stream :=
  Stream.AfterClosings.close s.stream

/-- The bytes that a session may ever get hold of. -/
def reach (s : Session ρ) : Bytes := s.stream.feed.reach s.script

lemma step_reach (s : Session ρ) : s.step.2.reach <:+ s.reach := by
  rw [step_eq, reach, Stream.settle_feed, s.searched_closings.feed]
  exact Feed.take_reach s.stream.feed.startLine s.script

lemma seek_reach (s : Session ρ) : s.seek.2.reach <:+ s.reach := by
  fun_induction seek s with
  | case1 s more t ht =>
    have h := s.step_reach
    rwa [ht] at h
  | case2 s t ht ih =>
    have h := s.step_reach
    rw [ht] at h
    exact ih.trans h

lemma perform_reach (s : Session ρ) (op : Operation) : (s.perform op).reach <:+ s.reach := by
  cases op with
  | advance =>
    by_cases h : s.stream.isOpen
    · simp only [perform, advance_of_open h]
      exact s.seek_reach
    · have hsame := perform_advance_of_not_open h
      exact hsame.symm ▸ List.suffix_rfl
  | close =>
    have h : s.close.2.reach = s.reach :=
      congrArg (Feed.reach · s.script) s.close_closings.feed
    exact h ▸ List.suffix_rfl

lemma perform_limits (s : Session ρ) (op : Operation) :
    (s.perform op).stream.feed.limits = s.stream.feed.limits := by
  cases op with
  | advance => exact s.advance_kept.limits
  | close => exact congrArg Feed.limits s.close_closings.feed

lemma perform_closer (s : Session ρ) (op : Operation) :
    (s.perform op).stream.closer = s.stream.closer := by
  cases op with
  | advance => exact s.advance_kept.closer
  | close => exact s.close_closings.closer

lemma perform_closings (s : Session ρ) (op : Operation) :
    (s.perform op).script.closings ≤ s.script.closings := by
  cases op with
  | advance => exact s.advance_kept.closings
  | close => exact Nat.le_refl _

/-! ### Many operations -/

lemma run_reach (s : Session ρ) (ops : List Operation) : (s.run ops).reach <:+ s.reach := by
  induction ops using List.reverseRecOn with
  | nil => exact List.suffix_rfl
  | append_singleton ops op ih =>
    rw [run_concat]
    exact (perform_reach _ op).trans ih

lemma run_limits (s : Session ρ) (ops : List Operation) :
    (s.run ops).stream.feed.limits = s.stream.feed.limits := by
  induction ops using List.reverseRecOn with
  | nil => rfl
  | append_singleton ops op ih => rw [run_concat, perform_limits, ih]

lemma run_closer (s : Session ρ) (ops : List Operation) :
    (s.run ops).stream.closer = s.stream.closer := by
  induction ops using List.reverseRecOn with
  | nil => rfl
  | append_singleton ops op ih => rw [run_concat, perform_closer, ih]

lemma run_closings (s : Session ρ) (ops : List Operation) :
    (s.run ops).script.closings ≤ s.script.closings := by
  induction ops using List.reverseRecOn with
  | nil => exact Nat.le_refl _
  | append_singleton ops op ih =>
    rw [run_concat]
    exact Nat.le_trans (perform_closings _ op) ih

lemma closeCalls_concat (s : Session ρ) (ops : List Operation) (op : Operation) :
    s.closeCalls (ops ++ [op]) = s.closeCalls ops + (s.run ops).closeCalls [op] := by
  have h₁ := s.run_closings ops
  have h₂ := perform_closings (s.run ops) op
  have h₃ : (s.run ops).run [op] = (s.run ops).perform op := rfl
  simp only [closeCalls, List.count_append, run_concat, h₃]
  omega

lemma closeCalls_le_append (s : Session ρ) (ops ops' : List Operation) :
    s.closeCalls ops ≤ s.closeCalls (ops ++ ops') := by
  induction ops' using List.reverseRecOn with
  | nil => exact Nat.le_of_eq (by rw [List.append_nil])
  | append_singleton ops' op ih =>
    rw [← List.append_assoc, closeCalls_concat]
    omega

/-- An operation that closes the stream marks it as closed, if it has a closer. -/
lemma perform_closed (s : Session ρ) (op : Operation) :
    (s.perform op).stream.closed =
      (s.stream.closed || (s.stream.closer.isSome && decide (0 < s.closeCalls [op]))) := by
  cases op with
  | advance =>
    -- a search is closed into only during its reads
    have h : s.closeCalls [.advance] = s.script.closings - s.advance.2.script.closings :=
      Nat.zero_add _
    have hiff : 0 < s.closeCalls [.advance] ↔
        s.advance.2.script.closings < s.script.closings := by omega
    rw [perform, s.advance_kept.closed]
    simp only [hiff]
  | close =>
    have h : s.closeCalls [.close] = 1 + (s.script.closings - s.script.closings) := rfl
    have hpos : 0 < s.closeCalls [.close] := by omega
    rw [perform, s.close_closings.closed, decide_eq_true hpos]
    rfl

/-- **The mark of a stream goes by the close calls.** A stream with a closer counts as closed from
the first of them on. -/
theorem run_closed (s : Session ρ) (ops : List Operation) :
    (s.run ops).stream.closed =
      (s.stream.closed || (s.stream.closer.isSome && decide (0 < s.closeCalls ops))) := by
  induction ops using List.reverseRecOn with
  | nil => simp [closeCalls]
  | append_singleton ops op ih =>
    have hiff : (0 < s.closeCalls ops ∨ 0 < (s.run ops).closeCalls [op]) ↔
        0 < s.closeCalls (ops ++ [op]) := by
      rw [closeCalls_concat]
      omega
    rw [run_concat, perform_closed, ih, run_closer, Bool.or_assoc, ← Bool.and_or_distrib_left,
      ← Bool.decide_or]
    simp only [hiff]

/-! ### Sessions that have ended -/

lemma perform_of_ended {s : Session ρ} (h : ¬ s.stream.isOpen) (op : Operation) :
    ¬ (s.perform op).stream.isOpen ∧ (s.perform op).stream.state = s.stream.state := by
  cases op with
  | advance =>
    rw [perform_advance_of_not_open h]
    exact ⟨h, rfl⟩
  | close =>
    have hc := s.close_closings
    refine ⟨fun hopen => h ?_, hc.state⟩
    rw [perform, Stream.isOpen, hc.state, hc.closed] at hopen
    rw [Stream.isOpen]
    cases hcl : s.stream.closed <;> simp_all

/-- A session that is not open any more stays so for ever, with the state that it has. -/
theorem run_of_ended {s : Session ρ} (h : ¬ s.stream.isOpen) (ops : List Operation) :
    ¬ (s.run ops).stream.isOpen ∧ (s.run ops).stream.state = s.stream.state := by
  induction ops using List.reverseRecOn with
  | nil => exact ⟨h, rfl⟩
  | append_singleton ops op ih =>
    obtain ⟨h₁, h₂⟩ := perform_of_ended ih.1 op
    rw [run_concat]
    exact ⟨h₁, h₂.trans ih.2⟩

/-- The failure of a session that is not open any more, or that it has none, stays. -/
lemma err_run {s : Session ρ} (h : ¬ s.stream.isOpen) (ops : List Operation) :
    (s.run ops).stream.err = s.stream.err := by
  rw [Stream.err, Stream.err, (run_of_ended h ops).2]

end Session

end EventLog
