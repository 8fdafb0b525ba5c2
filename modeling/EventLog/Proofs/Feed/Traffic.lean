import EventLog.Proofs.Feed

/-!
# What passes between a feed and its source

A feed reads from its source and uses up the bytes that come, line by line. The traffic is the
account of both, and it tells at each moment which bytes have been delivered and not yet been used
up. Traffic is sparing if these bytes are looked at first: a read is made only while there is no
line feed among them and still room for more of the line.

* `Traffic.outstanding`: the bytes that have not been used up.
* `Traffic.Due`: what may come next, given the traffic before.
* `Traffic.Due.of_terminated`, `Traffic.Due.of_full`: lines that are waiting come first.
* `Traffic.Sparing`: traffic in which nothing else comes.
* `Feed.next_sparing`: the search for a line makes such traffic.
-/

namespace EventLog

open Ascii Log

/-- What happens to the bytes of a source: they are delivered, and they are used up. -/
inductive Traffic
  /-- A read. -/
  | read (outcome : ReadOutcome)
  /-- The end of a search for a line: what was found, and the bytes that it has used up. -/
  | line (find : Find) (raw : Bytes)
  deriving DecidableEq

namespace Traffic

/-- The bytes that are outstanding after some have been delivered or used up. -/
def update (p : Bytes) : Traffic → Bytes
  | .read o => p ++ o.bytes
  | .line _ raw => p.drop raw.length

/-- The bytes that have been delivered since the end of the last line. -/
def outstanding (ts : List Traffic) : Bytes := ts.foldl update []

/-- What a read has come back with, if this is one. -/
def outcome? : Traffic → Option ReadOutcome
  | .read o => some o
  | .line _ _ => none

/-- Only a line that is within the limit lets the stream go on. -/
def Ends : Traffic → Prop
  | .read _ => False
  | .line find _ => find ≠ .line

/-- What may come next after some traffic, if lines have a limit. -/
inductive Due (limit : ℕ) (before : List Traffic) : Traffic → Prop
  /-- A read, while there is no line feed and still room. -/
  | read {o : ReadOutcome} (free : lineFeed ∉ outstanding before)
      (room : (outstanding before).length < limit + 2) : Due limit before (.read o)
  /-- A line with its line feed. -/
  | line {l more : Bytes} (split : outstanding before = l ++ lineFeed :: more)
      (free : lineFeed ∉ l) (room : l.length < limit + 2) :
      Due limit before
        (.line (if limit < (chomp l).length then .tooLong else .line) (l ++ [lineFeed]))
  /-- The front of a line that leaves no room. -/
  | full {l more : Bytes} (split : outstanding before = l ++ more) (free : lineFeed ∉ l)
      (length : l.length = limit + 2) : Due limit before (.line .tooLong l)
  /-- All that is there, after a read that has brought nothing. -/
  | rest {o : ReadOutcome} {find : Find} (free : lineFeed ∉ outstanding before)
      (room : (outstanding before).length < limit + 2)
      (read : before.getLast? = some (.read o)) (nothing : o.bytes = []) :
      Due limit before (.line find (outstanding before))

/-- The front of a text without a line feed is not longer than what stands before a line feed. -/
lemma length_le_of_free {l l' more more' : Bytes} (h : l ++ lineFeed :: more = l' ++ more')
    (hfree : lineFeed ∉ l') : l'.length ≤ l.length := by
  by_contra hlt
  have hwhole : l ++ [lineFeed] <+: l' ++ more' := by
    rw [← h]
    exact ⟨more, by rw [List.append_assoc, List.singleton_append]⟩
  have hfront : l ++ [lineFeed] <+: l' := by
    refine List.prefix_of_prefix_length_le hwhole (List.prefix_append _ _) ?_
    rw [List.length_append, List.length_singleton]
    omega
  exact hfree (hfront.subset (by simp))

/-- A line whose line feed is outstanding is due, and nothing else is. -/
lemma Due.of_terminated {limit : ℕ} {before : List Traffic} {e : Traffic} {l more : Bytes}
    (h : Due limit before e) (hsplit : outstanding before = l ++ lineFeed :: more)
    (hfree : lineFeed ∉ l) (hroom : l.length < limit + 2) :
    e = .line (if limit < (chomp l).length then .tooLong else .line) (l ++ [lineFeed]) := by
  have hmem : lineFeed ∈ outstanding before := by
    rw [hsplit]
    simp
  cases h with
  | read free room => exact absurd hmem free
  | @line l' more' split free room =>
    have he := split.symm.trans hsplit
    have hle := length_le_of_free he hfree
    have hge := length_le_of_free he.symm free
    rw [(List.append_inj he (Nat.le_antisymm hge hle)).1]
  | full split free length =>
    have hle := length_le_of_free (hsplit.symm.trans split) free
    omega
  | rest free => exact absurd hmem free

/-- A line that leaves no room is due, and nothing else is. -/
lemma Due.of_full {limit : ℕ} {before : List Traffic} {e : Traffic} {l more : Bytes}
    (h : Due limit before e) (hsplit : outstanding before = l ++ more) (hfree : lineFeed ∉ l)
    (hlength : l.length = limit + 2) : e = .line .tooLong l := by
  have hle : limit + 2 ≤ (outstanding before).length := by
    rw [hsplit, List.length_append]
    omega
  cases h with
  | read free room => omega
  | line split free room =>
    have hle' := length_le_of_free (split.symm.trans hsplit) hfree
    omega
  | full split free length =>
    have he := split.symm.trans hsplit
    rw [(List.append_inj he (length.trans hlength.symm)).1]
  | rest free room => omega

/-- Traffic in which nothing comes before it is due, and nothing after the end. -/
inductive Sparing (limit : ℕ) : List Traffic → List Traffic → Prop
  | nil {before : List Traffic} : Sparing limit before []
  | cons {before ts : List Traffic} {e : Traffic} (due : Due limit before e)
      (last : e.Ends → ts = []) (tail : Sparing limit (before ++ [e]) ts) :
      Sparing limit before (e :: ts)

variable {limit : ℕ} {before ts us after : List Traffic} {e : Traffic}

lemma outstanding_concat (ts : List Traffic) (e : Traffic) :
    outstanding (ts ++ [e]) = update (outstanding ts) e :=
  List.foldl_concat _ _ _ _

lemma Sparing.append (h : Sparing limit before ts) (hgo : us ≠ [] → ∀ e ∈ ts, ¬ e.Ends)
    (h' : Sparing limit (before ++ ts) us) : Sparing limit before (ts ++ us) := by
  induction h with
  | nil => rwa [List.append_nil] at h'
  | @cons before ts e due last tail ih =>
    refine .cons due (fun hends => ?_) (ih (fun hus x hx => hgo hus x (by simp [hx])) ?_)
    · by_contra hne
      have hus : us ≠ [] := by
        rintro rfl
        exact hne (by rw [last hends]; rfl)
      exact hgo hus e List.mem_cons_self hends
    · rwa [List.append_assoc, List.singleton_append]

lemma Sparing.rest {o : ReadOutcome} (find : Find) (free : lineFeed ∉ outstanding before)
    (room : (outstanding before).length < limit + 2) (nothing : o.bytes = []) :
    Sparing limit before [.read o, .line find (outstanding before)] := by
  have hsame : outstanding (before ++ [.read o]) = outstanding before := by
    rw [outstanding_concat, update, nothing, List.append_nil]
  refine .cons (.read free room) False.elim (.cons ?_ (fun _ => rfl) .nil)
  rw [← hsame] at free room ⊢
  exact .rest free room List.getLast?_concat nothing

/-- **What comes in sparing traffic**, wherever it is looked at. -/
lemma Sparing.due (h : Sparing limit before (ts ++ e :: us)) :
    Due limit (before ++ ts) e ∧ (e.Ends → us = []) := by
  induction ts generalizing before with
  | nil =>
    cases h with
    | cons due last tail => exact ⟨by rwa [List.append_nil], last⟩
  | cons t ts ih =>
    cases h with
    | cons due last tail => simpa using ih tail

end Traffic

/-! ### One search -/

namespace Line

lemma extend_extend (l : Line) (s t : Bytes) : (l.extend s).extend t = l.extend (s ++ t) := by
  simp only [extend, List.reverse_append, List.append_assoc, List.length_append, Line.mk.injEq,
    true_and]
  omega

end Line

namespace Feed

open Traffic

/-- The line of a feed has taken some bytes and goes on. -/
structure Underway (f : Feed) (taken : Bytes) : Prop where
  /-- They are the bytes of the line. -/
  line : f.line = (Line.start (f.limits.maxLine + 2)).extend taken
  /-- The line has not ended. -/
  free : lineFeed ∉ taken
  /-- There is room for more. -/
  room : taken.length < f.limits.maxLine + 2

variable {f g : Feed} {taken : Bytes}

lemma Underway.line_room (h : f.Underway taken) :
    f.line.room + taken.length = f.limits.maxLine + 2 := by
  have hroom := h.room
  rw [h.line]
  simp only [Line.extend, Line.start]
  omega

/-- A feed that needs more has taken all that was buffered. -/
lemma Underway.blocked (h : f.Underway taken) (hg : f.poll = .blocked g) :
    g.Underway (taken ++ f.buffer) ∧ g.buffer = [] ∧ g.limits = f.limits := by
  have hroom := h.line_room
  have htaken := h.room
  unfold poll at hg
  split at hg
  · next l hl =>
    cases hg
    obtain ⟨hfree, hlength⟩ := Line.fill_unfinished hl (by omega)
    have hline : l = f.line.extend f.buffer :=
      Line.Fill.unfinished.inj (hl.symm.trans (Line.fill_free hfree hlength))
    refine ⟨⟨?_, ?_, ?_⟩, rfl, rfl⟩
    · rw [hline, h.line, Line.extend_extend]
    · rw [List.mem_append, not_or]
      exact ⟨h.free, hfree⟩
    · rw [List.length_append]
      show taken.length + f.buffer.length < f.limits.maxLine + 2
      omega
  · cases hg

lemma Underway.found (h : f.Underway taken) (hg : f.poll = .found g) :
    g.limits = f.limits ∧
      ((∃ l, taken ++ f.buffer = l ++ lineFeed :: g.buffer ∧ lineFeed ∉ l ∧
          l.length < f.limits.maxLine + 2 ∧ g.line.bytes = chomp l) ∨
        ∃ l, taken ++ f.buffer = l ++ g.buffer ∧ lineFeed ∉ l ∧
          l.length = f.limits.maxLine + 2 ∧ g.line.bytes = l) := by
  have hroom := h.line_room
  have htaken := h.room
  unfold poll at hg
  split at hg
  · cases hg
  · next l r hl =>
    cases hg
    refine ⟨rfl, ?_⟩
    rcases window_cases (s := f.buffer) (w := f.line.room) with
      ⟨a, b, ha, hlength, hb⟩ | ⟨a, b, ha, hlength, hb⟩ | ⟨ha, hlength⟩
    · -- the line feed comes first
      rw [hb, Line.fill_terminated ha hlength] at hl
      obtain ⟨rfl, rfl⟩ := Line.Fill.complete.inj hl
      refine Or.inl ⟨taken ++ a, by simp [hb], ?_, ?_, ?_⟩
      · rw [List.mem_append, not_or]
        exact ⟨h.free, ha⟩
      · rw [List.length_append]
        omega
      · rw [h.line, Line.extend_extend, ← List.append_assoc, Line.content_terminated]
    · -- the window is full first
      have hne : a ≠ [] := by
        rintro rfl
        rw [List.length_nil] at hlength
        omega
      have hfree : lineFeed ∉ taken ++ a := by
        rw [List.mem_append, not_or]
        exact ⟨h.free, ha⟩
      rw [hb, Line.fill_full ha hlength hne] at hl
      obtain ⟨rfl, rfl⟩ := Line.Fill.complete.inj hl
      refine Or.inr ⟨taken ++ a, by simp [hb], hfree, ?_, ?_⟩
      · rw [List.length_append]
        omega
      · rw [h.line, Line.extend_extend, Line.content_free hfree]
    · -- neither comes
      rw [Line.fill_free ha hlength] at hl
      cases hl

/-- All bytes that the reads of a search have brought. -/
def Search.delivered (s : Search) : Bytes := s.reads.flatMap (·.outcome.bytes)

/-- The traffic of a search that uses up some bytes. -/
def Search.traffic (s : Search) (raw : Bytes) : List Traffic :=
  s.reads.map (.read ·.outcome) ++ [.line s.find raw]

lemma Search.outcomes_traffic (s : Search) (raw : Bytes) :
    (s.traffic raw).filterMap outcome? = s.reads.map Read.outcome := by
  simp [Search.traffic, List.filterMap_map, Function.comp_def, outcome?]

lemma Search.line_mem_traffic {s : Search} {raw raw' : Bytes} {find : Find} :
    .line find raw' ∈ s.traffic raw ↔ find = s.find ∧ raw' = raw := by
  simp [Search.traffic]

lemma Search.not_ends {s : Search} (h : s.find = .line) (raw : Bytes) :
    ∀ e ∈ s.traffic raw, ¬ e.Ends := by
  intro e he hends
  cases e with
  | read o => exact hends
  | line find raw' => exact hends ((line_mem_traffic.1 he).1.trans h)

/-- A search accounts for all bytes and does so with sparing traffic. -/
def Search.Spares (s : Search) (limit : ℕ) (before : List Traffic) : Prop :=
  ∃ raw, outstanding before ++ s.delivered = raw ++ s.feed.buffer ∧
    Sparing limit before (s.traffic raw)

lemma Underway.after (h : f.Underway taken) (hg : f.poll = .blocked g) {before : List Traffic}
    (hbefore : outstanding before = taken ++ f.buffer) {r : Read} {s : Search}
    (hs : s.Spares f.limits.maxLine (before ++ [.read r.outcome])) :
    (s.after r).Spares f.limits.maxLine before := by
  obtain ⟨hu, -, hlimits⟩ := h.blocked hg
  obtain ⟨raw, hraw, hsparing⟩ := hs
  refine ⟨raw, ?_, .cons (.read ?_ ?_) False.elim hsparing⟩
  · rw [outstanding_concat, update, List.append_assoc] at hraw
    exact hraw
  · rw [hbefore]
    exact hu.free
  · rw [hbefore, ← hlimits]
    exact hu.room

lemma Underway.stop (h : f.Underway taken) (hg : f.poll = .blocked g) {before : List Traffic}
    (hbefore : outstanding before = taken ++ f.buffer) {r : Read} (hr : r.outcome.bytes = [])
    (find : Find) (rest : Script) :
    Search.Spares ⟨g, find, [r], rest⟩ f.limits.maxLine before := by
  obtain ⟨hu, hbuffer, hlimits⟩ := h.blocked hg
  have hfree : lineFeed ∉ outstanding before := by
    rw [hbefore]
    exact hu.free
  have hroom : (outstanding before).length < f.limits.maxLine + 2 := by
    rw [hbefore, ← hlimits]
    exact hu.room
  refine ⟨outstanding before, ?_, .rest find hfree hroom hr⟩
  simp [Search.delivered, hr, hbuffer]

/-- **A search for a line reads only what it needs.** What it has taken and what is buffered are the
bytes outstanding. -/
lemma take_sparing (f : Feed) (script : Script) :
    ∀ taken before, f.Underway taken → outstanding before = taken ++ f.buffer →
      (f.take script).Spares f.limits.maxLine before := by
  fun_induction take f script with
  | case1 f script g hg =>
    intro taken before h hbefore
    obtain ⟨hlimits, ⟨l, hsplit, hfree, hroom, hbytes⟩ | ⟨l, hsplit, hfree, hlength, hbytes⟩⟩ :=
      h.found hg
    · -- the buffer holds the line feed
      have hfind : g.judged = if f.limits.maxLine < (chomp l).length then .tooLong else .line := by
        rw [judged_eq, hlimits, hbytes]
      refine ⟨l ++ [lineFeed], ?_, .cons ?_ (fun _ => rfl) .nil⟩
      · simp [Search.delivered, hbefore, hsplit]
      · rw [hfind]
        exact .line (hbefore.trans hsplit) hfree hroom
    · -- the buffer leaves no room
      have hfind : g.judged = .tooLong := by
        rw [judged_eq, hlimits, hbytes, hlength, if_pos (by omega)]
      refine ⟨l, ?_, .cons ?_ (fun _ => rfl) .nil⟩
      · simp [Search.delivered, hbefore, hsplit]
      · rw [hfind]
        exact .full (hbefore.trans hsplit) hfree hlength
  | case2 f script g hg ho r =>
    intro taken before h hbefore
    exact h.stop hg hbefore (by rw [ho]; rfl) _ _
  | case3 f script g hg bytes ho r ih =>
    -- what the read brings is outstanding as well
    intro taken before h hbefore
    obtain ⟨hu, -, hlimits⟩ := h.blocked hg
    have hs := ih (taken ++ f.buffer) (before ++ [.read r.outcome]) ⟨hu.line, hu.free, hu.room⟩
      (by rw [outstanding_concat, update, hbefore, ho]; rfl)
    exact h.after hg hbefore (hlimits ▸ hs)
  | case4 f script g hg e ho r hk ih =>
    intro taken before h hbefore
    obtain ⟨hu, hbuffer, hlimits⟩ := h.blocked hg
    have hs := ih (taken ++ f.buffer) (before ++ [.read r.outcome]) hu
      (by rw [outstanding_concat, update, hbefore, ho, hbuffer]; rfl)
    exact h.after hg hbefore (hlimits ▸ hs)
  | case5 f script g hg e ho r hk =>
    intro taken before h hbefore
    exact h.stop hg hbefore (by rw [ho]; rfl) _ _

/-! ### The traffic of a search -/

/-- The bytes that a search uses up, if some were buffered before: what there was and what came,
less what is buffered afterwards. -/
def Search.used (s : Search) (buffered : Bytes) : Bytes :=
  (buffered ++ s.delivered).take ((buffered ++ s.delivered).length - s.feed.buffer.length)

/-- What passes between a feed and its source while the feed looks for the next line. -/
def traffic (f : Feed) (script : Script) : List Traffic :=
  (f.next script).traffic ((f.next script).used f.buffer)

lemma outstanding_traffic (s : Search) (raw : Bytes) (before : List Traffic) :
    outstanding (before ++ s.traffic raw) =
      (outstanding before ++ s.delivered).drop raw.length := by
  have hreads : ∀ (reads : List Read) (p : Bytes),
      (reads.map fun r => Traffic.read r.outcome).foldl update p =
        p ++ reads.flatMap (·.outcome.bytes) := by
    intro reads
    induction reads with
    | nil => exact fun p => (List.append_nil p).symm
    | cons r reads ih =>
      intro p
      rw [List.map_cons, List.foldl_cons, ih, update, List.flatMap_cons, List.append_assoc]
  rw [Search.traffic, ← List.append_assoc, outstanding_concat, outstanding, List.foldl_append,
    hreads]
  rfl

/-- **The search for the next line reads only what it needs**, and leaves what is buffered. -/
theorem next_sparing (f : Feed) (script : Script) (hwindow : f.limits.window = f.limits.maxLine + 2)
    {before : List Traffic} (hbefore : outstanding before = f.buffer) :
    Sparing f.limits.maxLine before (f.traffic script) ∧
      outstanding (before ++ f.traffic script) = (f.next script).feed.buffer := by
  have hstart : f.startLine.Underway [] := by
    refine ⟨?_, List.not_mem_nil, Nat.succ_pos _⟩
    show Line.start f.limits.window = _
    rw [hwindow]
    rfl
  obtain ⟨raw, hraw, hsparing⟩ := take_sparing f.startLine script [] before hstart hbefore
  have hused : (f.next script).used f.buffer = raw := by
    rw [Search.used, ← hbefore, next, hraw]
    simp
  rw [traffic, hused]
  refine ⟨hsparing, ?_⟩
  rw [outstanding_traffic, next, hraw, List.drop_left]

end Feed

end EventLog
