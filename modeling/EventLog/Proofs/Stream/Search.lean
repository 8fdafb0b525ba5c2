import EventLog.Proofs.Stream
import EventLog.Stream.Session

/-!
# Looking for a record

A session looks at one line after the other until there is an answer. What it comes to is what
stands at the front of the pending bytes (`Session.Sought`): the next line that is not empty, or the
ending of the source.

* `Session.step_sought`: one line.
* `Session.seek_sought`: as many lines as it takes.
-/

namespace EventLog.Session

open Log

variable {ρ : Type}

/-- The longest line that a session accepts. -/
def limit (s : Session ρ) : ℕ := s.stream.feed.limits.maxLine

/-- The bytes that a session can still get hold of before its source ends or fails. -/
def pending (s : Session ρ) : Bytes := s.stream.feed.pending s.script

/-- The contents of the lines that these bytes make, without the empty ones. -/
def lines (s : Session ρ) : List Bytes := Log.lines s.limit s.script.ending s.pending

/-- What a session keeps while it looks for a record. It is closed afterwards if it was before or
has been closed during a read. -/
structure Kept (s t : Session ρ) : Prop where
  limits : t.stream.feed.limits = s.stream.feed.limits
  closer : t.stream.closer = s.stream.closer
  closings : t.script.closings ≤ s.script.closings
  closed : t.stream.closed = (s.stream.closed ||
    (s.stream.closer.isSome && decide (t.script.closings < s.script.closings)))

lemma Kept.trans {s t u : Session ρ} (h : s.Kept t) (h' : t.Kept u) : s.Kept u where
  limits := h'.limits.trans h.limits
  closer := h'.closer.trans h.closer
  closings := Nat.le_trans h'.closings h.closings
  closed := by
    have h₁ := h.closings
    have h₂ := h'.closings
    have hiff : (t.script.closings < s.script.closings ∨ u.script.closings < t.script.closings) ↔
        u.script.closings < s.script.closings := by omega
    rw [h'.closed, h.closed, h.closer, Bool.or_assoc, ← Bool.and_or_distrib_left,
      ← Bool.decide_or]
    simp only [hiff]

/-- The session `t` has the lines `more` before it: they are still pending, or there are none and
the source has ended. -/
def Leaves (s : Session ρ) (more : List Bytes) (t : Session ρ) : Prop :=
  (t.script.ending = s.script.ending ∧ t.script.beyond = s.script.beyond ∧ t.lines = more) ∨
    (more = [] ∧ s.script.ending = .endOfData ∧ t.stream.feed.buffer = [] ∧
      t.script = s.script.beyond)

/-! ### The search for a line -/

/-- The stream of a session after the search for a line. -/
def searched (s : Session ρ) : Stream ρ := s.stream.afterSearch s.search

lemma searched_closings (s : Session ρ) :
    Stream.AfterClosings { s.stream with feed := s.search.feed } s.search.closings s.searched :=
  Stream.afterClosings_search s.stream s.search

lemma lines_eq_filter {s : Session ρ} {l : List Bytes}
    (h : contents s.limit s.script.ending s.pending = l) : s.lines = l.filter (· ≠ []) := by
  rw [lines, Log.lines, h]

lemma lines_searched {s : Session ρ} {t : Stream ρ} {cs : List Bytes}
    (ht : t.feed = s.search.feed) (he : s.search.rest.ending = s.script.ending)
    (h : contents s.limit s.script.ending (s.search.feed.pending s.search.rest) = cs) :
    lines ⟨t, s.search.rest⟩ = cs.filter (· ≠ []) := by
  have hlim : limit ⟨t, s.search.rest⟩ = s.limit := by
    rw [limit, ht]
    exact congrArg Limits.maxLine (Feed.next_limits s.stream.feed s.script)
  refine lines_eq_filter ?_
  rw [hlim, pending, ht, he]
  exact h

/-! ### What the line is worth -/

variable [LogRecord ρ]

/-- What stands at the front of these bytes. -/
def next (s : Session ρ) : Next ρ := Log.next s.limit s.script.ending s.pending

/-- The answer of a session that has looked for a record, and the session afterwards. -/
inductive Sought (s : Session ρ) : Bool → Session ρ → Prop
  /-- The next line holds a record. -/
  | record {t : Session ρ} {c : Bytes} {more : List Bytes} {v : ρ} (lines : s.lines = c :: more)
      (judge : judge s.limit c = .ok v) (bytes : t.stream.bytes = c) (value : t.stream.record = v)
      (eventsRead : t.stream.eventsRead = s.stream.eventsRead + 1)
      (state : t.stream.state = s.stream.state) (left : s.Leaves more t) : Sought s true t
  /-- There is a failure, which counts unless the stream has been closed. -/
  | failed {t : Session ρ} {e : Failure} (next : s.next = .failed e)
      (state : t.stream.state = if t.stream.closed then .exhausted else .failed e)
      (record : t.stream.record = s.stream.record)
      (eventsRead : t.stream.eventsRead = s.stream.eventsRead) : Sought s false t
  /-- There are no more lines. -/
  | ended {t : Session ρ} (next : s.next = .nothing) (state : t.stream.state = .exhausted)
      (record : t.stream.record = s.stream.record)
      (eventsRead : t.stream.eventsRead = s.stream.eventsRead) : Sought s false t

/-- An empty line is passed over. -/
structure Passed (s t : Session ρ) : Prop where
  ending : t.script.ending = s.script.ending
  beyond : t.script.beyond = s.script.beyond
  suffix : t.pending <:+ s.pending
  lines : t.lines = s.lines
  limit : t.limit = s.limit
  record : t.stream.record = s.stream.record
  state : t.stream.state = s.stream.state
  eventsRead : t.stream.eventsRead = s.stream.eventsRead

/-- What comes after an empty line comes anyway. -/
lemma Sought.of_passed {s t u : Session ρ} {more : Bool} (hp : s.Passed t) (h : t.Sought more u) :
    s.Sought more u := by
  have hnext : t.next = s.next := by
    have hl : Log.lines t.limit t.script.ending t.pending =
        Log.lines s.limit s.script.ending s.pending := hp.lines
    rw [Session.next, Session.next, Log.next, Log.next, hl, hp.limit, hp.ending]
  cases h with
  | record lines judge bytes value eventsRead state left =>
    refine .record (hp.lines.symm.trans lines) (hp.limit ▸ judge) bytes value
      (hp.eventsRead ▸ eventsRead) (state.trans hp.state) ?_
    rcases left with ⟨h₁, h₂, h₃⟩ | ⟨h₁, h₂, h₃, h₄⟩
    · exact Or.inl ⟨h₁.trans hp.ending, h₂.trans hp.beyond, h₃⟩
    · exact Or.inr ⟨h₁, hp.ending.symm.trans h₂, h₃, h₄.trans hp.beyond⟩
  | failed next state record eventsRead =>
    exact .failed (hnext.symm.trans next) state (record.trans hp.record)
      (eventsRead.trans hp.eventsRead)
  | ended next state record eventsRead =>
    exact .ended (hnext.symm.trans next) state (record.trans hp.record)
      (eventsRead.trans hp.eventsRead)

/-! ### One line -/

lemma step_eq (s : Session ρ) :
    s.step = ((s.searched.settle s.search.find).1,
      ⟨(s.searched.settle s.search.find).2, s.search.rest⟩) := rfl

lemma step_kept (s : Session ρ) : s.Kept s.step.2 := by
  have h := s.searched_closings
  have hcl := Feed.take_closings s.stream.feed.startLine s.script
  have hiff : 0 < s.search.closings ↔ s.search.rest.closings < s.script.closings := by
    simp only [search, Feed.next]
    omega
  obtain ⟨h₁, h₂⟩ := s.searched.settle_closed s.search.find
  rw [step_eq]
  refine ⟨?_, h₁.trans h.closer, ?_, ?_⟩
  · simp only [Stream.settle_feed, h.feed]
    exact Feed.next_limits s.stream.feed s.script
  · simp only [search, Feed.next]
    omega
  · simp only [h₂, h.closed, hiff]

lemma seek_kept (s : Session ρ) : s.Kept s.seek.2 := by
  fun_induction seek s with
  | case1 s more t ht =>
    have h := s.step_kept
    rwa [ht] at h
  | case2 s t ht ih =>
    have h := s.step_kept
    rw [ht] at h
    exact h.trans ih

lemma fail_sought {s : Session ρ} {e : Failure} (h : s.next = .failed e) :
    s.Sought false ⟨s.searched.fail e, s.search.rest⟩ := by
  have hs := s.searched_closings
  refine .failed h ?_ ?_ ?_
  · rw [Stream.fail_eq]
  · rw [Stream.fail_eq]
    exact hs.record
  · rw [Stream.fail_eq]
    exact hs.eventsRead

/-- Without a line, the session comes to what the source does. -/
lemma ending_sought {s : Session ρ} (hc : Feed.Counts s.stream.feed.limits s.pending)
    (hl : contents s.limit s.script.ending s.pending = []) :
    s.step.1 = some false ∧ s.Sought false s.step.2 := by
  have hs := s.searched_closings
  have hnext := next_of_lines_nil (ρ := ρ) (lines_eq_filter hl)
  have hfind : s.search.find = _ := (Feed.next_of_contents_nil hc hl).1
  rw [step_eq, hfind]
  cases hend : s.script.ending with
  | endOfData =>
    refine ⟨rfl, ?_⟩
    rw [hend] at hnext
    exact .ended (by rw [next, hend, hnext]; rfl) rfl hs.record hs.eventsRead
  | failed e =>
    rw [hend] at hnext
    exact ⟨rfl, fail_sought (by rw [next, hend, hnext]; rfl)⟩

/-- A line that is too long ends the stream. -/
lemma tooLong_sought {s : Session ρ} {c : Bytes} {cs : List Bytes}
    (hl : contents s.limit s.script.ending s.pending = c :: cs) (hlong : s.limit < c.length)
    (hfind : s.search.find = .tooLong) :
    s.step.1 = some false ∧ s.Sought false s.step.2 := by
  have h0 : c ≠ [] := by
    rintro rfl
    exact Nat.not_lt_zero _ hlong
  have hlines := lines_eq_filter hl
  rw [List.filter_cons_of_pos (by simpa using h0)] at hlines
  have hlim : s.searched.feed.limits.maxLine = s.limit :=
    congrArg Limits.maxLine (Feed.next_limits s.stream.feed s.script)
  have hstep : s.step = (some false, ⟨s.searched.fail (.lineTooLong s.limit), s.search.rest⟩) := by
    rw [step_eq, hfind, ← hlim]
    rfl
  rw [hstep]
  exact ⟨rfl, fail_sought (next_of_judge_error hlines (if_pos hlong))⟩

/-- A line with content is a record or ends the stream. -/
lemma line_sought {s : Session ρ} {c : Bytes} {cs : List Bytes}
    (hlines : s.lines = c :: cs) (h0 : c ≠ []) (hle : c.length ≤ s.limit)
    (hfind : s.search.find = .line) (hb : s.search.feed.line.bytes = c)
    (hleft : ∀ t : Stream ρ, t.feed = s.search.feed → s.Leaves cs ⟨t, s.search.rest⟩) :
    ∃ more, s.step.1 = some more ∧ s.Sought more s.step.2 := by
  have hs := s.searched_closings
  have hlim : s.searched.feed.limits.maxLine = s.limit :=
    congrArg Limits.maxLine (Feed.next_limits s.stream.feed s.script)
  rw [step_eq, hfind]
  cases hj : judge (ρ := ρ) s.limit c with
  | ok v =>
    rw [Stream.settle_record (s := s.searched) hb h0 (by rw [hlim, hj])]
    refine ⟨true, rfl, ?_⟩
    exact .record hlines hj hb rfl (congrArg (· + 1) hs.eventsRead) hs.state (hleft _ rfl)
  | error e =>
    rw [Stream.settle_failed (s := s.searched) hb h0 (by rw [hlim]; exact hle) (by rw [hlim, hj])]
    exact ⟨false, rfl, fail_sought (next_of_judge_error hlines hj)⟩

/-- **One line.** It is passed over if it is empty, and otherwise it is what the session was looking
for. -/
theorem step_sought {s : Session ρ} (hc : Feed.Counts s.stream.feed.limits s.pending) :
    (s.step.1 = none ∧ s.Passed s.step.2) ∨
      ∃ more, s.step.1 = some more ∧ s.Sought more s.step.2 := by
  have hs := s.searched_closings
  rcases hl : contents s.limit s.script.ending s.pending with _ | ⟨c, cs⟩
  · exact Or.inr ⟨false, ending_sought hc hl⟩
  · have hlines := lines_eq_filter hl
    rcases Feed.next_of_contents_cons hc hl with ⟨hlong, hfind⟩ | ⟨hle, hfind, hb, hleft⟩
    · exact Or.inr ⟨false, tooLong_sought hl hlong hfind⟩
    · by_cases h0 : c = []
      · -- an empty line: what is pending after it makes the same lines
        subst h0
        obtain ⟨he, hbe, hlen, hcs⟩ := hleft.resolve_right fun h => h.1 rfl
        have hstep : s.step = (none, ⟨s.searched, s.search.rest⟩) := by
          rw [step_eq, show s.search.find = .line from hfind,
            Stream.settle_blank (s := s.searched) hb]
        rw [hstep]
        refine Or.inl ⟨rfl, he, hbe, hlen, ?_,
          congrArg Limits.maxLine (Feed.next_limits _ _), hs.record, hs.state, hs.eventsRead⟩
        rw [lines_searched rfl he hcs, hlines, List.filter_cons_of_neg (by simp)]
      · rw [List.filter_cons_of_pos (by simpa using h0)] at hlines
        refine Or.inr (line_sought hlines h0 hle hfind hb fun t ht => ?_)
        · rcases hleft with ⟨he, hbe, -, hcs⟩ | ⟨-, rfl, he, hbuf, hrest⟩
          · exact Or.inl ⟨he, hbe, lines_searched ht he hcs⟩
          · exact Or.inr ⟨rfl, he, (congrArg Feed.buffer ht).trans hbuf, hrest⟩

/-! ### As many lines as it takes -/

/-- **Looking for a record.** The session comes to what stands at the front of the pending bytes. -/
theorem seek_sought {s : Session ρ} (hc : Feed.Counts s.stream.feed.limits s.pending) :
    s.Sought s.seek.1 s.seek.2 := by
  fun_induction seek s with
  | case1 s more t ht =>
    rcases step_sought hc with ⟨hnone, -⟩ | ⟨more', hsome, hsought⟩
    · rw [ht] at hnone
      cases hnone
    · rw [ht] at hsome hsought
      obtain rfl := Option.some.inj hsome
      exact hsought
  | case2 s t ht ih =>
    rcases step_sought hc with ⟨-, hp⟩ | ⟨more', hsome, -⟩
    · have hk := s.step_kept
      rw [ht] at hk hp
      have hlim : t.stream.feed.limits = s.stream.feed.limits := hk.limits
      exact (ih (hlim ▸ hc.of_infix hp.suffix.isInfix)).of_passed hp
    · rw [ht] at hsome
      cases hsome

end EventLog.Session
