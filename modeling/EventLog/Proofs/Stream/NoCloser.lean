import EventLog.Proofs.Stream.Calls
import EventLog.Proofs.Stream.Quiet
import EventLog.Proofs.Stream.UntilEnd

/-!
# Streams without a closer

A stream that nothing can close does not notice close calls at all, whether they are made between
two operations or while it waits for a read. It runs as it would without them: the same searches
with the same answers, the same reads and the same notices.

* `Session.advance_quiet`: one search.
* `Session.run_quiet`: a run, in which the close calls are hidden steps.
* `Session.closing_unseen`: all that can be seen of a run.
-/

namespace EventLog

variable {ρ : Type}

namespace Stream

variable {s : Stream ρ}

lemma closeTimes_of_no_closer (h : s.closer = none) (n : ℕ) : s.closeTimes n = s := by
  induction n with
  | zero => rfl
  | succ n ih => rw [closeTimes, close_of_no_closer h, ih]

/-- Of its reads, a stream without a closer notices only what they come back with. -/
lemma foldl_afterRead_of_no_closer (h : s.closer = none) (reads : List Read) :
    reads.foldl afterRead s =
      (reads.map Read.outcome).foldl (fun s outcome => s.after (.read outcome)) s := by
  induction reads generalizing s with
  | nil => rfl
  | cons r reads ih =>
    have hread : s.afterRead r = s.after (.read r.outcome) := by
      rw [afterRead, closeTimes_of_no_closer h]
    have hcloser : (s.after (.read r.outcome)).closer = none := h
    rw [List.foldl_cons, hread, ih hcloser, List.map_cons, List.foldl_cons]

lemma afterSearch_quiet (h : s.closer = none) {r r' : Feed.Search} (hr : r.Quiet r') :
    s.afterSearch r' = s.afterSearch r := by
  rw [afterSearch, afterSearch, foldl_afterRead_of_no_closer h, foldl_afterRead_of_no_closer h,
    hr.outcomes, hr.feed]

end Stream

namespace Session

variable [LogRecord ρ] {s : Session ρ}

/-! ### One search -/

lemma step_quiet (h : s.stream.closer = none) : s.quiet.step = (s.step.1, s.step.2.quiet) := by
  have hquiet := s.search_quiet
  have hsearched : s.quiet.searched = s.searched := Stream.afterSearch_quiet h hquiet
  rw [step_eq, step_eq, hsearched, hquiet.find, hquiet.rest]
  rfl

lemma seek_quiet (h : s.stream.closer = none) : s.quiet.seek = (s.seek.1, s.seek.2.quiet) := by
  fun_induction seek s with
  | case1 s more t ht =>
    have hstep := step_quiet h
    rw [ht] at hstep
    exact seek_of_some hstep
  | case2 s t ht ih =>
    have hstep := step_quiet h
    have hcloser : t.stream.closer = none := by
      have hkept := s.step_kept
      rw [ht] at hkept
      exact hkept.closer.trans h
    rw [ht] at hstep
    rw [seek_of_none hstep]
    exact ih hcloser

/-- **A search does not notice that it is closed into.** -/
theorem advance_quiet (h : s.stream.closer = none) :
    s.quiet.advance = (s.advance.1, s.advance.2.quiet) := by
  by_cases hopen : s.stream.isOpen
  · have hopen' : s.quiet.stream.isOpen := hopen
    rw [advance_of_open hopen, advance_of_open hopen']
    exact seek_quiet h
  · have hopen' : ¬ s.quiet.stream.isOpen := hopen
    rw [advance_of_not_open hopen, advance_of_not_open hopen']

/-! ### A run -/

/-- What the searches of a run answer, each with the stream as it is then. -/
def shown (s : Session ρ) : List Operation → List (Bool × Stream ρ)
  | [] => []
  | .advance :: ops => (s.advance.1, s.advance.2.stream) :: s.advance.2.shown ops
  | .close :: ops => s.close.2.shown ops

omit [LogRecord ρ] in
lemma close_of_no_closer (h : s.stream.closer = none) : s.close = (.ok (), s) := by
  rw [close, Stream.close_of_no_closer h]

/-- **A run without the close calls** shows the same and leaves the same, except for the closings
that the source still has ahead. -/
theorem run_quiet (h : s.stream.closer = none) (ops : List Operation) :
    s.quiet.shown (ops.filter (· ≠ .close)) = s.shown ops ∧
      s.quiet.run (ops.filter (· ≠ .close)) = (s.run ops).quiet := by
  induction ops generalizing s with
  | nil => exact ⟨rfl, rfl⟩
  | cons op ops ih =>
    cases op with
    | advance =>
      have hadvance := advance_quiet h
      obtain ⟨hshown, hrun⟩ := ih (s := s.advance.2) (s.advance_kept.closer.trans h)
      have hcons : (Operation.advance :: ops).filter (· ≠ .close) =
          .advance :: ops.filter (· ≠ .close) := by simp
      rw [hcons]
      constructor
      · rw [shown, shown, hadvance, hshown]
        rfl
      · have hperform : s.quiet.perform .advance = s.advance.2.quiet :=
          congrArg Prod.snd hadvance
        have hquiet : s.quiet.run (.advance :: ops.filter (· ≠ .close)) =
            (s.quiet.perform .advance).run (ops.filter (· ≠ .close)) := rfl
        rw [hquiet, hperform, hrun]
        rfl
    | close =>
      -- the hidden step: neither side moves
      have hclose : s.close.2 = s := congrArg Prod.snd (close_of_no_closer h)
      have hcons : (Operation.close :: ops).filter (· ≠ .close) = ops.filter (· ≠ .close) := by simp
      have hrun : s.run (.close :: ops) = s.close.2.run ops := rfl
      rw [hcons, shown, hrun, hclose]
      exact ih h

/-- **Without a closer, closing cannot be seen.** Take any run of a stream without a closer, with
close calls between its operations and during its reads, and the same run without any of them. Both
show the same after each search and at the end: the answers, the lines, the records, the failures,
the counts of records, the reads and the notices. The source is as far in the one as in the other,
the stream is never marked as closed, and every close call comes back with success. -/
theorem closing_unseen (limits : Limits) (script : Script) (ops : List Operation) :
    let s : Session ρ := .new limits none script
    let t : Session ρ := .new limits none script.quiet
    let others := ops.filter (· ≠ .close)
    t.shown others = s.shown ops ∧ (t.run others).stream = (s.run ops).stream ∧
      (t.run others).intoSource = (s.run ops).intoSource ∧
      (s.run ops).stream.closed = false ∧
      s.closeResults ops = List.replicate (s.closeCalls ops) (.ok ()) := by
  intro s t others
  have hcloser : s.stream.closer = none := rfl
  obtain ⟨hshown, hrun⟩ := run_quiet hcloser ops
  have hstream := congrArg Session.stream hrun
  have hsource := congrArg Session.intoSource hrun
  refine ⟨hshown, hstream, ?_, s.run_closed ops, ?_⟩
  · exact hsource.trans (Script.unread_quiet _)
  · have hanswered := (s.run_called ops).answered
    rwa [Stream.answers, hcloser, length_closeResults] at hanswered

end Session

end EventLog
