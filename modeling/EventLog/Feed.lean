import EventLog.Limits
import EventLog.Line
import EventLog.Source

/-!
# Feeds of lines

A feed cuts what a source delivers into lines. It asks for more only when what has been read does
not make a whole line, and it never looks further into a line than the window of its limits.

A feed does not read by itself: either it finds a line in what has been read or it says that it
needs more (`Feed.poll`). For a scripted source `Feed.next` puts both together.

* `Feed.next`: the next line of a source.
* `Feed.next_size`: a line uses up some of what is left.
-/

namespace EventLog

/-- What has been read of a source and has not become a line yet. -/
structure Feed where
  /-- The limits of lines and reads. -/
  limits : Limits
  /-- What has been read and belongs to later lines. -/
  buffer : Bytes
  /-- The line that was looked at last, or as much of it as there was. -/
  line : Line
  deriving DecidableEq, Repr

/-- What comes of looking for a line. -/
inductive Find
  /-- There is a line; it may be empty. -/
  | line
  /-- There is a line that is longer than the limit. -/
  | tooLong
  /-- There are no more lines. -/
  | ended
  /-- The source has failed. -/
  | failed (error : IoError)
  deriving DecidableEq, Repr

namespace Feed

/-- A feed of which nothing has been read. -/
def new (limits : Limits) : Feed :=
  ⟨limits, [], .start limits.window⟩

/-- A feed that looks for another line. -/
def startLine (f : Feed) : Feed :=
  { f with line := .start f.limits.window }

/-- The line must be within the limit. -/
def judged (f : Feed) : Find :=
  if f.limits.maxLine < f.line.taken.length then .tooLong else .line

/-- What a feed comes to without another read. -/
inductive Poll
  /-- It needs more; all that has been read belongs to the line. -/
  | blocked (f : Feed)
  /-- It has a whole line, or as much of one as its window has room for. -/
  | found (f : Feed)
  deriving DecidableEq, Repr

/-- Goes on with the line. -/
def poll (f : Feed) : Poll :=
  match f.line.fill f.buffer with
  | .unfinished l => .blocked { f with line := l, buffer := [] }
  | .complete l r => .found { f with line := l.content, buffer := r }

/-- A feed that needed more, after a read that brought bytes. -/
def supply (f : Feed) (bytes : Bytes) : Feed :=
  { f with buffer := bytes }

/-- What comes of a read that brought no bytes. What has been taken for a line is a line then, with
nothing that would end it. -/
def atEnd (f : Feed) : Find :=
  if f.line.taken = [] then .ended else f.judged

/-! ### Lines of a source -/

/-- What comes of looking for a line of a source. -/
structure Search where
  /-- The feed afterwards. -/
  feed : Feed
  /-- What was found. -/
  find : Find
  /-- The reads, in order. -/
  reads : List Read
  /-- What the source does next. -/
  rest : Script

/-- A search with a read before it. -/
def Search.after (r : Read) (s : Search) : Search :=
  { s with reads := r :: s.reads }

/-- Goes on with the line, with as many reads as it takes. An interrupted read is repeated. -/
def take (f : Feed) (script : Script) : Search :=
  match f.poll with
  | .found g => ⟨g, g.judged, [], script⟩
  | .blocked g =>
    match _h : (script.read f.limits.capacity).outcome with
    | .endOfData =>
      let r := script.read f.limits.capacity
      ⟨g, g.atEnd, [r], r.rest⟩
    | .data bytes =>
      let r := script.read f.limits.capacity
      ((g.supply bytes).take r.rest).after r
    | .failed e =>
      let r := script.read f.limits.capacity
      if e.kind = .interrupted then (g.take r.rest).after r
      else ⟨g, .failed e, [r], r.rest⟩
termination_by script.weight
decreasing_by all_goals exact Script.read_rest_weight (by rw [_h]; exact nofun)

/-- The next line of a source. -/
def next (f : Feed) (script : Script) : Search :=
  f.startLine.take script

/-! ### A line uses up some of what is left -/

theorem poll_blocked {f g : Feed} (h : f.poll = .blocked g) :
    g.buffer = [] ∧ g.line.taken.length = f.line.taken.length + f.buffer.length := by
  unfold poll at h
  split at h
  · next l hl =>
    cases h
    exact ⟨rfl, Line.fill_unfinished_length hl⟩
  · cases h

theorem poll_found {f g : Feed} (h : f.poll = .found g) : g.buffer.length < f.buffer.length := by
  unfold poll at h
  split at h
  · cases h
  · next l r hl =>
    cases h
    exact (Line.fill_complete_length hl).2

theorem atEnd_taken {f : Feed} (h : f.atEnd ≠ .ended) : f.line.taken ≠ [] := by
  intro hf
  exact h (if_pos hf)

/-- What is left after a line is less than what there was, what had been taken for the line
included. -/
theorem take_size {f : Feed} {script : Script}
    (h : (f.take script).find = .line ∨ (f.take script).find = .tooLong) :
    (f.take script).rest.weight + (f.take script).feed.buffer.length
      < script.weight + f.buffer.length + f.line.taken.length := by
  fun_induction take f script with
  | case1 f script g hg =>
    have := poll_found hg
    simp only
    omega
  | case2 f script g hg ho r =>
    obtain ⟨hb, ht⟩ := poll_blocked hg
    have h₁ := Script.read_weight f.limits.capacity script
    have h₂ : 0 < g.line.taken.length := by
      refine List.length_pos_iff.2 (atEnd_taken ?_)
      rcases h with h | h <;> exact fun h' => nomatch h'.symm.trans h
    simp only [hb, List.length_nil, r]
    omega
  | case3 f script g hg bytes ho r ih =>
    obtain ⟨hb, ht⟩ := poll_blocked hg
    have h₁ := Script.read_weight f.limits.capacity script
    have h₂ := ih h
    rw [ho] at h₁
    simp only [supply, Search.after, ReadOutcome.bytes, r] at h₁ h₂ ⊢
    omega
  | case4 f script g hg e ho r he ih =>
    obtain ⟨hb, ht⟩ := poll_blocked hg
    have h₁ := Script.read_weight f.limits.capacity script
    have h₂ := ih h
    simp only [Search.after, hb, List.length_nil, r] at h₁ h₂ ⊢
    omega
  | case5 f script g hg e ho r he =>
    rcases h with h | h <;> cases h

/-- A line uses up some of what is left. -/
theorem next_size {f : Feed} {script : Script}
    (h : (f.next script).find = .line ∨ (f.next script).find = .tooLong) :
    (f.next script).rest.weight + (f.next script).feed.buffer.length
      < script.weight + f.buffer.length :=
  take_size h

end Feed

end EventLog
