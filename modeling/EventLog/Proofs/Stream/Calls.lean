import EventLog.Proofs.Stream.Run

/-!
# Close calls

Every close call comes back with a result, whether it is made between two operations or while the
stream waits for a read (`Session.closeResults`). With a closer, each call sets the mark, gives
notice and invokes the closer, in this order, and the results are those of the closer one after the
other; without one, a call does nothing and all is well (`Stream.Called`).

* `Session.run_called`: the close calls of a run.
* `Session.length_closeResults`: how many there are.
-/

namespace EventLog

/-- What a close call comes back with. -/
abbrev CloseResult := Except IoError Unit

/-- Whether an effect belongs to a close call. -/
def Effect.ofClosing : Effect → Bool
  | .markedClosed => true
  | .closerCalled _ => true
  | .notice .closing => true
  | _ => false

/-- What a close call does when the closer comes back with a result, in this order. -/
def callEffects (result : CloseResult) : List Effect :=
  [.markedClosed, .notice .closing, .closerCalled result]

variable {ρ : Type}

namespace Stream

/-- What the stream has done in close calls, the first effect first. -/
def closingEffects (s : Stream ρ) : List Effect := (s.history.filter Effect.ofClosing).reverse

/-- What the next close calls come back with: what the closer does, one time after the other, or
that all is well if there is none. -/
def answers (s : Stream ρ) (n : ℕ) : List CloseResult :=
  match s.closer with
  | none => List.replicate n (.ok ())
  | some closer => (List.range' s.closings n).map closer

/-- What close calls come back with that are made one after the other. -/
def closeResults (s : Stream ρ) : ℕ → List CloseResult
  | 0 => []
  | n + 1 => s.close.1 :: s.close.2.closeResults n

/-- What the close calls come back with that are made during some reads. -/
def readResults (s : Stream ρ) : List Read → List CloseResult
  | [] => []
  | r :: reads => s.closeResults r.closings ++ (s.afterRead r).readResults reads

lemma close_of_no_closer {s : Stream ρ} (h : s.closer = none) : s.close = (.ok (), s) := by
  simp only [close, h]

lemma closingEffects_after (s : Stream ρ) {e : Effect} (h : e.ofClosing = false) :
    (s.after e).closingEffects = s.closingEffects := by
  simp [closingEffects, after, h]

lemma length_closeResults (s : Stream ρ) (n : ℕ) : (s.closeResults n).length = n := by
  induction n generalizing s with
  | zero => rfl
  | succ n ih => rw [closeResults, List.length_cons, ih]

lemma length_readResults (s : Stream ρ) (reads : List Read) :
    (s.readResults reads).length = (reads.map Read.closings).sum := by
  induction reads generalizing s with
  | nil => rfl
  | cons r reads ih =>
    rw [readResults, List.length_append, length_closeResults, ih, List.map_cons, List.sum_cons]

/-- The stream `t` is the stream `s` after close calls with these results, perhaps with other things
in between. -/
structure Called (s : Stream ρ) (results : List CloseResult) (t : Stream ρ) : Prop where
  closer : t.closer = s.closer
  closings : s.closer.isSome → t.closings = s.closings + results.length
  answered : results = s.answers results.length
  effects : s.closer.isSome → t.closingEffects = s.closingEffects ++ results.flatMap callEffects

namespace Called

variable {s t u : Stream ρ} {results results' : List CloseResult}

lemma of_same (hcloser : t.closer = s.closer) (hclosings : t.closings = s.closings)
    (heffects : t.closingEffects = s.closingEffects) : Called s [] t := by
  refine ⟨hcloser, fun _ => hclosings, ?_, fun _ => by simp [heffects]⟩
  unfold answers
  split <;> rfl

lemma trans (h : Called s results t) (h' : Called t results' u) :
    Called s (results ++ results') u := by
  refine ⟨h'.closer.trans h.closer, fun hc => ?_, ?_, fun hc => ?_⟩
  · rw [h'.closings (h.closer ▸ hc), h.closings hc, List.length_append, Nat.add_assoc]
  · have hr := h.answered
    have hr' := h'.answered
    have hclosings := h.closings
    rw [answers, h.closer] at hr'
    rw [answers] at hr ⊢
    rw [List.length_append]
    cases hc : s.closer with
    | none =>
      simp only [hc] at hr hr' ⊢
      rw [List.replicate_add, ← hr, ← hr']
    | some closer =>
      simp only [hc] at hr hr' hclosings ⊢
      rw [hclosings rfl] at hr'
      rw [← List.range'_append_1, List.map_append, ← hr, ← hr']
  · rw [h'.effects (h.closer ▸ hc), h.effects hc, List.flatMap_append, List.append_assoc]

/-- **One close call.** -/
lemma close (s : Stream ρ) : Called s [s.close.1] s.close.2 := by
  cases hc : s.closer with
  | none =>
    rw [close_of_no_closer hc]
    refine ⟨rfl, ?_, by simp [answers, hc], ?_⟩ <;> simp [hc]
  | some closer =>
    simp only [Stream.close, hc]
    refine ⟨rfl, fun _ => rfl, by simp [answers, hc], fun _ => ?_⟩
    simp [closingEffects, callEffects, Stream.after, List.filter_cons, Effect.ofClosing]

lemma closeTimes (s : Stream ρ) (n : ℕ) : Called s (s.closeResults n) (s.closeTimes n) := by
  induction n generalizing s with
  | zero => exact of_same rfl rfl rfl
  | succ n ih => exact (close s).trans (ih s.close.2)

lemma afterRead (s : Stream ρ) (r : Read) :
    Called s (s.closeResults r.closings) (s.afterRead r) := by
  have hread : Called (s.closeTimes r.closings) [] (s.afterRead r) :=
    of_same rfl rfl (closingEffects_after _ rfl)
  have h := (closeTimes s r.closings).trans hread
  rwa [List.append_nil] at h

lemma afterReads (s : Stream ρ) (reads : List Read) :
    Called s (s.readResults reads) (reads.foldl Stream.afterRead s) := by
  induction reads generalizing s with
  | nil => exact of_same rfl rfl rfl
  | cons r reads ih => exact (afterRead s r).trans (ih (s.afterRead r))

/-- What is made of a line has nothing to do with closing. -/
lemma settle [LogRecord ρ] (s : Stream ρ) (found : Find) : Called s [] (s.settle found).2 := by
  have hfail : ∀ e, Called s [] (s.fail e) := by
    intro e
    unfold Stream.fail
    split
    · exact of_same rfl rfl (closingEffects_after _ rfl)
    · exact of_same rfl rfl (closingEffects_after _ rfl)
  cases found with
  | line =>
    simp only [Stream.settle, decodeLine]
    split
    · exact of_same rfl rfl rfl
    · split
      · exact of_same rfl rfl rfl
      · exact hfail _
  | tooLong => exact hfail _
  | ended => exact of_same rfl rfl (closingEffects_after _ rfl)
  | failed e => exact hfail _

end Called

end Stream

namespace Session

/-! ### Sessions -/

/-- What the close calls come back with that are made during the search for a line. -/
def searchResults (s : Session ρ) : List CloseResult := s.stream.readResults s.search.reads

variable [LogRecord ρ]

/-- What the close calls come back with that are made during the search for a record. -/
def seekResults (s : Session ρ) : List CloseResult :=
  match _h : s.step with
  | (some _, _) => s.searchResults
  | (none, t) => s.searchResults ++ t.seekResults
termination_by s.size
decreasing_by
  have h := step_size (s := s)
  rw [_h] at h
  exact h nofun

/-- What the close calls come back with that are made by an operation or in the course of it. -/
def performResults (s : Session ρ) : Operation → List CloseResult
  | .advance => if s.stream.isOpen then s.seekResults else []
  | .close => [s.close.1]

/-- What all close calls of a run come back with, in their order. -/
def closeResults (s : Session ρ) : List Operation → List CloseResult
  | [] => []
  | op :: ops => s.performResults op ++ (s.perform op).closeResults ops

lemma step_called (s : Session ρ) :
    Stream.Called s.stream s.searchResults s.step.2.stream ∧
      s.searchResults.length + s.step.2.script.closings = s.script.closings := by
  have hreads := Stream.Called.afterReads s.stream s.search.reads
  have hsearched : Stream.Called s.stream s.searchResults s.searched :=
    ⟨hreads.closer, hreads.closings, hreads.answered, hreads.effects⟩
  refine ⟨?_, ?_⟩
  · have h := hsearched.trans (Stream.Called.settle s.searched s.search.find)
    rwa [List.append_nil] at h
  · rw [searchResults, Stream.length_readResults]
    exact Feed.take_closings s.stream.feed.startLine s.script

lemma seek_called (s : Session ρ) :
    Stream.Called s.stream s.seekResults s.seek.2.stream ∧
      s.seekResults.length + s.seek.2.script.closings = s.script.closings := by
  fun_induction seek s with
  | case1 s more t ht =>
    have h := s.step_called
    rw [ht] at h
    rw [seekResults, ht]
    exact h
  | case2 s t ht ih =>
    obtain ⟨hcalled, hcount⟩ := s.step_called
    rw [ht] at hcalled hcount
    rw [seekResults, ht]
    refine ⟨hcalled.trans ih.1, ?_⟩
    rw [List.length_append, Nat.add_assoc, ih.2]
    exact hcount

lemma perform_called (s : Session ρ) (op : Operation) :
    Stream.Called s.stream (s.performResults op) (s.perform op).stream ∧
      (s.performResults op).length + (s.perform op).script.closings =
        [op].count .close + s.script.closings := by
  cases op with
  | advance =>
    by_cases hopen : s.stream.isOpen
    · rw [performResults, if_pos hopen, perform, advance_of_open hopen]
      exact ⟨s.seek_called.1, s.seek_called.2.trans (Nat.zero_add _).symm⟩
    · rw [performResults, if_neg hopen, perform, advance_of_not_open hopen]
      exact ⟨.of_same rfl rfl rfl, rfl⟩
  | close => exact ⟨Stream.Called.close s.stream, rfl⟩

/-- **The close calls of a run.** -/
theorem run_called (s : Session ρ) (ops : List Operation) :
    Stream.Called s.stream (s.closeResults ops) (s.run ops).stream := by
  induction ops generalizing s with
  | nil => exact .of_same rfl rfl rfl
  | cons op ops ih => exact (s.perform_called op).1.trans (ih (s.perform op))

theorem length_closeResults (s : Session ρ) (ops : List Operation) :
    (s.closeResults ops).length = s.closeCalls ops := by
  have hcount : (s.closeResults ops).length + (s.run ops).script.closings =
      ops.count .close + s.script.closings := by
    induction ops generalizing s with
    | nil => rfl
    | cons op ops ih =>
      have hop := (s.perform_called op).2
      have hrest := ih (s.perform op)
      have hsplit : (op :: ops).count .close = [op].count .close + ops.count .close := by
        rw [← List.count_append, List.singleton_append]
      have hrun : s.run (op :: ops) = (s.perform op).run ops := rfl
      rw [closeResults, List.length_append, hrun]
      omega
  have hle := s.run_closings ops
  rw [closeCalls]
  omega

end Session

end EventLog
