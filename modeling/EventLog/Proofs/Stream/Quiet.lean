import EventLog.Proofs.Feed.End
import EventLog.Stream.Session

/-!
# Sources that leave the stream alone

While a stream waits for a read it may be closed from elsewhere. The same source without these
closings (`Script.quiet`) hands out the same bytes in the same reads, so that a search for a line
finds the same over either.

* `Script.read_quiet`: one read.
* `Feed.take_quiet`: the search for a line.
-/

namespace EventLog

namespace Script

/-- The same source, when nobody closes the stream during its reads. -/
def quiet (script : Script) : Script := script.filter (· ≠ .close)

@[simp] lemma quiet_keep (bs : Bytes) (script : Script) :
    quiet (keep bs script) = keep bs (quiet script) := by
  cases bs <;> simp [keep, quiet]

lemma closings_quiet (script : Script) : script.quiet.closings = 0 := by
  rw [closings, quiet, List.count_eq_zero]
  simp

lemma unread_quiet (script : Script) : script.quiet.unread = script.unread := by
  induction script with
  | nil => rfl
  | cons step script ih =>
    cases step with
    | data bs => exact congrArg (bs ++ ·) ih
    | _ => exact ih

/-- What a source has ahead is the same, and so is the way in which that ends. -/
lemma ahead_quiet (script : Script) :
    script.quiet.ahead = script.ahead ∧ script.quiet.ending = script.ending := by
  induction script with
  | nil => exact ⟨rfl, rfl⟩
  | cons step script ih =>
    cases step with
    | data bs => exact ⟨congrArg (bs ++ ·) ih.1, ih.2⟩
    | endOfData => exact ⟨rfl, rfl⟩
    | fail e =>
      have hcons : quiet (.fail e :: script) = .fail e :: quiet script := by simp [quiet]
      rw [hcons, ahead, ahead, ending, ending, ih.1, ih.2]
      exact ⟨rfl, rfl⟩
    | close => exact ih

/-- A read brings the same; only the closings during it are gone. -/
lemma read_quiet (capacity : ℕ) (script : Script) :
    read capacity script.quiet =
      ⟨0, (read capacity script).outcome, (read capacity script).rest.quiet⟩ := by
  induction script with
  | nil => rfl
  | cons step script ih =>
    cases step with
    | data bs =>
      have hcons : quiet (.data bs :: script) = .data bs :: quiet script := by
        simp [quiet]
      rw [hcons]
      cases bs with
      | nil => exact ih
      | cons b bs => simp [read]
    | endOfData => simp [quiet, read]
    | fail e => simp [quiet, read]
    | close =>
      have hcons : quiet (.close :: script) = quiet script := by
        simp [quiet]
      rw [hcons, ih, read]

end Script

namespace Feed

/-- Two searches that differ only in the closings during their reads: there are none during those of
the second. -/
structure Search.Quiet (s s' : Search) : Prop where
  feed : s'.feed = s.feed
  find : s'.find = s.find
  outcomes : s'.reads.map Read.outcome = s.reads.map Read.outcome
  rest : s'.rest = s.rest.quiet

lemma Search.Quiet.after {s s' : Search} (h : s.Quiet s') {r r' : Read}
    (hr : r'.outcome = r.outcome) : (s.after r).Quiet (s'.after r') := by
  refine ⟨h.feed, h.find, ?_, h.rest⟩
  simp only [Search.after, List.map_cons, hr, h.outcomes]

/-- **The search for a line does not depend on closings.** -/
theorem take_quiet (f : Feed) (script : Script) :
    (f.take script).Quiet (f.take script.quiet) := by
  fun_induction take f script with
  | case1 f script g hg =>
    rw [take_found hg]
    exact ⟨rfl, rfl, rfl, rfl⟩
  | case2 f script g hg ho r =>
    have hr := Script.read_quiet f.limits.capacity script
    rw [take_endOfData hg (by rw [hr, ho]), hr]
    exact ⟨rfl, rfl, rfl, rfl⟩
  | case3 f script g hg bytes ho r ih =>
    have hr := Script.read_quiet f.limits.capacity script
    rw [take_data hg (by rw [hr, ho]), hr]
    exact ih.after rfl
  | case4 f script g hg e ho r hk ih =>
    have hr := Script.read_quiet f.limits.capacity script
    rw [take_interrupted hg (by rw [hr, ho]) hk, hr]
    exact ih.after rfl
  | case5 f script g hg e ho r hk =>
    have hr := Script.read_quiet f.limits.capacity script
    rw [take_failed hg (by rw [hr, ho]) hk, hr]
    exact ⟨rfl, rfl, rfl, rfl⟩

end Feed

namespace Session

variable {ρ : Type}

/-- The session over the same source, when nobody closes the stream during its reads. -/
def quiet (s : Session ρ) : Session ρ := ⟨s.stream, s.script.quiet⟩

lemma search_quiet (s : Session ρ) : s.search.Quiet s.quiet.search :=
  Feed.take_quiet s.stream.feed.startLine s.script

end Session

end EventLog
