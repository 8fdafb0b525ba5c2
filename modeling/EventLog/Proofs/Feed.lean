import EventLog.Feed
import EventLog.Proofs.Line

/-!
# Looking for a line

What a feed finds depends only on the bytes that are pending: what has been read and is still
buffered, and what the source has ahead (`Feed.pending`). The pieces in which the source hands them
out, the capacity of the reads and the interrupted reads between them do not matter.

* `Feed.take_follows`: the search for a line against all pending bytes at once.
* `Feed.next_found`: the three things that a search can come to.
* `Feed.take_closings`: a closing during a read is seen by the search that makes the read.
-/

namespace EventLog.Feed

open Ascii Log

/-- The bytes that a feed can still get hold of before the source ends or fails. -/
def pending (f : Feed) (script : Script) : Bytes := f.buffer ++ script.ahead

/-- What comes of a line that the source leaves without terminator. -/
def unfinished (f : Feed) : SourceEnd → Find
  | .endOfData => f.atEnd
  | .failed e => .failed e

/-- How often the stream was closed during the reads of a search. -/
def Search.closings (s : Search) : ℕ := (s.reads.map Read.closings).sum

/-- What a search comes to, given what becomes of the line when it is offered all pending bytes. -/
def Search.Follows (s : Search) (f : Feed) (script : Script) : Line.Fill → Prop
  | .complete l r =>
    s.feed.limits = f.limits ∧ s.feed.line = l.content ∧ s.find = s.feed.judged ∧
      s.feed.pending s.rest = r ∧ s.rest.ending = script.ending ∧ s.rest.beyond = script.beyond
  | .unfinished l =>
    s.feed = { f with line := l, buffer := [] } ∧ s.find = s.feed.unfinished script.ending ∧
      s.rest = script.beyond

lemma fill_of_poll_blocked {f g : Feed} (h : f.poll = .blocked g) :
    g = { f with line := g.line, buffer := [] } ∧
      ∀ t, f.line.fill (f.buffer ++ t) = g.line.fill t := by
  unfold poll at h
  split at h
  · next l hl =>
    cases h
    refine ⟨rfl, fun t => ?_⟩
    rw [Line.fill_append, hl]
  · cases h

/-- A read before the search only has to leave the pending bytes and the ending as they are. -/
lemma Search.Follows.after {s : Search} {f g : Feed} {script rest : Script} {r : Read}
    {fill : Line.Fill} (h : s.Follows g rest fill)
    (hf : ∀ l, { g with line := l, buffer := [] } = ({ f with line := l, buffer := [] } : Feed))
    (he : rest.ending = script.ending) (hb : rest.beyond = script.beyond) :
    (s.after r).Follows f script fill := by
  cases fill with
  | complete l t =>
    obtain ⟨h₁, h₂, h₃, h₄, h₅, h₆⟩ := h
    have hl : g.limits = f.limits := (Feed.mk.inj (hf l)).1
    exact ⟨h₁.trans hl, h₂, h₃, h₄, h₅.trans he, h₆.trans hb⟩
  | unfinished l =>
    obtain ⟨h₁, h₂, h₃⟩ := h
    exact ⟨h₁.trans (hf l), he ▸ h₂, h₃.trans hb⟩

/-- **A search sees only the pending bytes.** It comes to what the line comes to when it is offered
all of them at once. -/
theorem take_follows (f : Feed) (script : Script) :
    (f.take script).Follows f script (f.line.fill (f.pending script)) := by
  fun_induction take f script with
  | case1 f script g hg =>
    -- the buffer holds the end of the line
    unfold poll at hg
    split at hg
    · cases hg
    · next l r hl =>
      cases hg
      rw [pending, Line.fill_append, hl]
      exact ⟨rfl, rfl, rfl, rfl, rfl, rfl⟩
  | case2 f script g hg ho r =>
    -- the source reports the end of its data
    obtain ⟨hf, hfill⟩ := fill_of_poll_blocked hg
    obtain ⟨ha, he, hb⟩ := Script.read_endOfData ho
    rw [pending, hfill, ha]
    exact ⟨hf, by rw [he]; rfl, hb⟩
  | case3 f script g hg bytes ho r ih =>
    -- what the source hands out moves into the buffer, and is pending as before
    obtain ⟨hf, hfill⟩ := fill_of_poll_blocked hg
    obtain ⟨ha, he, hb⟩ := Script.read_data ho
    rw [pending, hfill, ha]
    refine ih.after (fun l => ?_) he hb
    rw [hf]
    rfl
  | case4 f script g hg e ho r hk ih =>
    -- an interrupted read is made again
    obtain ⟨hf, hfill⟩ := fill_of_poll_blocked hg
    have hr := Script.read_failed ho
    rw [if_pos hk] at hr
    obtain ⟨ha, he, hb⟩ := hr
    have hp : g.pending r.rest = script.ahead := by
      rw [pending, hf, List.nil_append, ha]
    rw [hp] at ih
    rw [pending, hfill]
    refine ih.after (fun l => ?_) he hb
    rw [hf]
  | case5 f script g hg e ho r hk =>
    -- the source fails
    obtain ⟨hf, hfill⟩ := fill_of_poll_blocked hg
    have hr := Script.read_failed ho
    rw [if_neg hk] at hr
    obtain ⟨ha, he, hb⟩ := hr
    rw [pending, hfill, ha]
    exact ⟨hf, by rw [he]; rfl, hb⟩

/-- The closings during the reads of a search are those that the source no longer has ahead. -/
theorem take_closings (f : Feed) (script : Script) :
    (f.take script).closings + (f.take script).rest.closings = script.closings := by
  fun_induction take f script with
  | case1 f script g hg => simp [Search.closings]
  | case2 f script g hg ho r =>
    have := Script.read_closings f.limits.capacity script
    simpa [Search.closings] using this
  | case3 f script g hg bytes ho r ih =>
    have := Script.read_closings f.limits.capacity script
    simp only [Search.closings, Search.after, List.map_cons, List.sum_cons, r] at ih ⊢
    omega
  | case4 f script g hg e ho r hk ih =>
    have := Script.read_closings f.limits.capacity script
    simp only [Search.closings, Search.after, List.map_cons, List.sum_cons, r] at ih ⊢
    omega
  | case5 f script g hg e ho r hk =>
    have := Script.read_closings f.limits.capacity script
    simpa [Search.closings] using this

/-- A source that delivers its data once is not closed into by a search, and goes on delivering its
data unless it has failed. -/
lemma take_delivers (f : Feed) (script : Script) {ending : SourceEnd} :
    ∀ log, script.Delivers log ending →
      (f.take script).closings = 0 ∧
        ((∃ rest, (f.take script).rest.Delivers rest ending) ∨
          ∃ e, (f.take script).find = .failed e) := by
  fun_induction take f script with
  | case1 f script g hg => exact fun log h => ⟨rfl, Or.inl ⟨log, h⟩⟩
  | case2 f script g hg ho r =>
    intro log h
    obtain ⟨hc, ⟨rest, hr⟩ | ⟨e, he, -⟩⟩ := h.read f.limits.capacity
    · exact ⟨by simpa [Search.closings] using hc, Or.inl ⟨rest, hr⟩⟩
    · exact absurd (ho.symm.trans he) (by simp)
  | case3 f script g hg bytes ho r ih =>
    intro log h
    obtain ⟨hc, ⟨rest, hr⟩ | ⟨e, he, -⟩⟩ := h.read f.limits.capacity
    · obtain ⟨hc', hr'⟩ := ih rest hr
      refine ⟨?_, hr'⟩
      simp only [Search.closings, Search.after, List.map_cons, List.sum_cons, r] at hc' ⊢
      omega
    · exact absurd (ho.symm.trans he) (by simp)
  | case4 f script g hg e ho r hk ih =>
    intro log h
    obtain ⟨hc, ⟨rest, hr⟩ | ⟨e', he, hk'⟩⟩ := h.read f.limits.capacity
    · obtain ⟨hc', hr'⟩ := ih rest hr
      refine ⟨?_, hr'⟩
      simp only [Search.closings, Search.after, List.map_cons, List.sum_cons, r] at hc' ⊢
      omega
    · obtain rfl : e = e' := ReadOutcome.failed.inj (ho.symm.trans he)
      exact absurd hk hk'
  | case5 f script g hg e ho r hk =>
    intro log h
    have hc := (h.read f.limits.capacity).1
    exact ⟨by simpa [Search.closings] using hc, Or.inr ⟨e, rfl⟩⟩

/-- The bytes that a feed may ever get hold of: what is buffered, and all that the source still has.
-/
def reach (f : Feed) (script : Script) : Bytes := f.buffer ++ script.unread

lemma pending_infix_reach (f : Feed) (script : Script) : f.pending script <:+: f.reach script :=
  ((List.prefix_append_right_inj f.buffer).2 script.ahead_prefix).isInfix

lemma buffer_of_poll_found {f g : Feed} (h : f.poll = .found g) : g.buffer <:+ f.buffer := by
  unfold poll at h
  split at h
  · cases h
  · next l r hl =>
    cases h
    exact Line.fill_complete_suffix hl

/-- A read on behalf of a feed that needs more uses up the front of what there is, unless its bytes
go into the buffer. -/
lemma reach_of_poll_blocked {f g : Feed} {script : Script} (h : f.poll = .blocked g) :
    g.reach (Script.read f.limits.capacity script).rest <:+ f.reach script := by
  have hu := Script.read_unread f.limits.capacity script
  rw [reach, reach, (poll_blocked h).1, ← hu, List.nil_append]
  exact (List.suffix_append _ _).trans (List.suffix_append _ _)

theorem take_reach (f : Feed) (script : Script) :
    (f.take script).feed.reach (f.take script).rest <:+ f.reach script := by
  fun_induction take f script with
  | case1 f script g hg =>
    obtain ⟨t, ht⟩ := buffer_of_poll_found hg
    exact ⟨t, by rw [reach, reach, ← ht, List.append_assoc]⟩
  | case2 f script g hg ho r => exact reach_of_poll_blocked hg
  | case3 f script g hg bytes ho r ih =>
    have hu := Script.read_unread f.limits.capacity script
    rw [ho, ReadOutcome.bytes] at hu
    refine ih.trans ?_
    rw [reach, reach, ← hu]
    exact List.suffix_append f.buffer _
  | case4 f script g hg e ho r hk ih => exact ih.trans (reach_of_poll_blocked hg)
  | case5 f script g hg e ho r hk => exact reach_of_poll_blocked hg

/-! ### The next line -/

lemma next_limits (f : Feed) (script : Script) : (f.next script).feed.limits = f.limits := by
  have h := take_follows f.startLine script
  unfold next
  cases hfill : f.startLine.line.fill (f.startLine.pending script) with
  | complete l r =>
    rw [hfill] at h
    exact h.1
  | unfinished l =>
    rw [hfill] at h
    rw [h.1]
    rfl

/-- What looking for the next line comes to. -/
inductive Found (f : Feed) (script : Script) (s : Search) : Prop
  /-- There is a line feed within the window. -/
  | terminated (line rest : Bytes) (free : lineFeed ∉ line)
      (pending : f.pending script = line ++ lineFeed :: rest)
      (bytes : s.feed.line.bytes = chomp line) (find : s.find = s.feed.judged)
      (left : s.feed.pending s.rest = rest) (ending : s.rest.ending = script.ending)
      (beyond : s.rest.beyond = script.beyond)
  /-- The window is full without one. -/
  | full (line rest : Bytes) (free : lineFeed ∉ line) (length : line.length = f.limits.window)
      (pending : f.pending script = line ++ rest) (bytes : s.feed.line.bytes = line)
      (find : s.find = s.feed.judged)
      (left : s.feed.pending s.rest = rest) (ending : s.rest.ending = script.ending)
      (beyond : s.rest.beyond = script.beyond)
  /-- The source ends or fails before either. -/
  | tail (free : lineFeed ∉ f.pending script) (length : (f.pending script).length < f.limits.window)
      (bytes : s.feed.line.bytes = f.pending script) (buffer : s.feed.buffer = [])
      (find : s.find = s.feed.unfinished script.ending) (rest : s.rest = script.beyond)

/-- A text that is longer than a window has a line feed within it, or the window is full without
one. -/
lemma window_cases {s : Bytes} {w : ℕ} :
    (∃ a r, lineFeed ∉ a ∧ a.length < w ∧ s = a ++ lineFeed :: r) ∨
      (∃ a r, lineFeed ∉ a ∧ a.length = w ∧ s = a ++ r) ∨ (lineFeed ∉ s ∧ s.length < w) := by
  by_cases hw : lineFeed ∈ s.take w
  · obtain ⟨a, r, hs, ha⟩ := List.eq_append_cons_of_mem hw
    refine Or.inl ⟨a, r ++ s.drop w, ha, ?_, ?_⟩
    · have := congrArg List.length hs
      simp only [List.length_take, List.length_append, List.length_cons] at this
      omega
    · rw [← List.cons_append, ← List.append_assoc, ← hs, List.take_append_drop]
  · by_cases hl : s.length < w
    · rw [List.take_of_length_le (by omega)] at hw
      exact Or.inr (Or.inr ⟨hw, hl⟩)
    · refine Or.inr (Or.inl ⟨s.take w, s.drop w, hw, ?_, (List.take_append_drop w s).symm⟩)
      simp only [List.length_take]
      omega

/-- The three things that looking for the next line can come to. -/
theorem next_found (f : Feed) (script : Script) : Found f script (f.next script) := by
  have h := take_follows f.startLine script
  have hw : 0 < f.limits.window := by
    simp only [Limits.window]
    omega
  rcases window_cases (s := f.pending script) (w := f.limits.window) with
    ⟨a, r, ha, hl, hp⟩ | ⟨a, r, ha, hl, hp⟩ | ⟨ha, hl⟩
  · -- the line feed comes before the window is full
    have hfill : f.startLine.line.fill (f.startLine.pending script) =
        .complete ((Line.start f.limits.window).extend (a ++ [lineFeed])) r :=
      (congrArg _ hp).trans (Line.fill_terminated ha hl r)
    rw [hfill] at h
    obtain ⟨-, h₂, h₃, h₄, h₅, h₆⟩ := h
    refine .terminated a r ha hp ?_ h₃ h₄ h₅ h₆
    exact (congrArg Line.bytes h₂).trans (Line.content_terminated _ a)
  · -- the window is full first
    have h0 : a ≠ [] := by
      rintro rfl
      exact absurd hl (by simp only [List.length_nil]; omega)
    have hfill : f.startLine.line.fill (f.startLine.pending script) =
        .complete ((Line.start f.limits.window).extend a) r :=
      (congrArg _ hp).trans (Line.fill_full ha hl h0 r)
    rw [hfill] at h
    obtain ⟨-, h₂, h₃, h₄, h₅, h₆⟩ := h
    refine .full a r ha hl hp ?_ h₃ h₄ h₅ h₆
    exact (congrArg Line.bytes h₂).trans (Line.content_free ha)
  · -- the source comes to its end first
    have hfill : f.startLine.line.fill (f.startLine.pending script) =
        .unfinished ((Line.start f.limits.window).extend (f.pending script)) :=
      Line.fill_free ha hl
    rw [hfill] at h
    obtain ⟨h₁, h₂, h₃⟩ := h
    refine .tail ha hl ?_ ?_ h₂ h₃
    · exact (congrArg (fun g : Feed => g.line.bytes) h₁).trans (Line.bytes_extend_start _ _)
    · exact congrArg Feed.buffer h₁

/-! ### What a search leaves in the line -/

lemma judged_eq (f : Feed) :
    f.judged = if f.limits.maxLine < f.line.bytes.length then .tooLong else .line := by
  rw [judged, Line.length_bytes]

/-- No line goes beyond the window. -/
lemma length_next_le (f : Feed) (script : Script) :
    (f.next script).feed.line.bytes.length ≤ f.limits.window := by
  have hroom : 0 < f.startLine.line.room := by
    simp only [startLine, Line.start, Limits.window]
    omega
  have hfill := Line.length_fill_le (f.startLine.pending script) hroom
  have hstart : f.startLine.line.taken.length + f.startLine.line.room = f.limits.window :=
    Nat.zero_add _
  have h := take_follows f.startLine script
  rw [Line.length_bytes, next]
  cases hl : f.startLine.line.fill (f.startLine.pending script) with
  | complete l r =>
    rw [hl] at h hfill
    obtain ⟨-, hline, -⟩ := h
    have hstrip := Line.stripped_length l.taken
    rw [hline]
    simp only [Line.content, Line.Fill.line] at hfill ⊢
    omega
  | unfinished l =>
    rw [hl] at h hfill
    rw [h.1]
    simp only [Line.Fill.line] at hfill ⊢
    omega

lemma bytes_next (f : Feed) (script : Script) :
    (f.next script).feed.line.bytes <+: f.pending script := by
  cases next_found f script with
  | terminated line rest free pending bytes =>
    rw [bytes, pending]
    exact (isPrefix_chomp line).trans (List.prefix_append line _)
  | full line rest free length pending bytes =>
    rw [bytes, pending]
    exact List.prefix_append line rest
  | tail free length bytes =>
    rw [bytes]

/-- No line has a line feed in it, and what was found of a line goes by its length. -/
lemma next_line (f : Feed) (script : Script) :
    lineFeed ∉ (f.next script).feed.line.bytes ∧
      ((f.next script).find = .line →
        (f.next script).feed.line.bytes.length ≤ f.limits.maxLine) ∧
      ((f.next script).find = .tooLong →
        f.limits.maxLine < (f.next script).feed.line.bytes.length) := by
  have hjudged : (f.next script).find = (f.next script).feed.judged →
      ((f.next script).find = .line →
        (f.next script).feed.line.bytes.length ≤ f.limits.maxLine) ∧
      ((f.next script).find = .tooLong →
        f.limits.maxLine < (f.next script).feed.line.bytes.length) := by
    intro h
    rw [h, judged_eq, next_limits]
    split
    next hlong => exact ⟨nofun, fun _ => hlong⟩
    next hshort => exact ⟨fun _ => Nat.le_of_not_lt hshort, nofun⟩
  cases next_found f script with
  | terminated line rest free pending bytes find =>
    rw [bytes] at hjudged ⊢
    exact ⟨fun h => free ((isPrefix_chomp line).subset h), hjudged find⟩
  | full line rest free length pending bytes find =>
    rw [bytes] at hjudged ⊢
    exact ⟨free, hjudged find⟩
  | tail free length bytes buffer find rest =>
    rw [bytes] at hjudged ⊢
    refine ⟨free, ?_⟩
    cases hend : script.ending with
    | failed e =>
      rw [hend] at find
      rw [find]
      exact ⟨nofun, nofun⟩
    | endOfData =>
      rw [hend, unfinished, atEnd] at find
      split at find
      · rw [find]
        exact ⟨nofun, nofun⟩
      · exact hjudged find

/-- Without terminator, only the report of the end makes a line, and not of nothing. -/
lemma line_of_unfinished {f : Feed} {ending : SourceEnd} (h : f.unfinished ending = .line) :
    ending = .endOfData ∧ f.line.bytes ≠ [] := by
  cases ending with
  | endOfData =>
    refine ⟨rfl, fun hb => ?_⟩
    have htaken : f.line.taken = [] := List.reverse_eq_nil_iff.1 hb
    rw [unfinished, atEnd, if_pos htaken] at h
    cases h
  | failed e => cases h

/-- What looking for the next line comes to: bytes, or the ending of the source. -/
lemma next_cases (f : Feed) (script : Script) :
    ((f.next script).find = .line ∨ (f.next script).find = .tooLong) ∨
      ((f.next script).find = .ended ∧ script.ending = .endOfData ∧
        (f.next script).feed.line.bytes = []) ∨
      ∃ e, (f.next script).find = .failed e ∧ script.ending = .failed e := by
  have hjudged : (f.next script).feed.judged = .line ∨ (f.next script).feed.judged = .tooLong := by
    rw [judged]
    split
    · exact Or.inr rfl
    · exact Or.inl rfl
  cases next_found f script with
  | terminated line rest free pending bytes find =>
    rw [find]
    exact Or.inl hjudged
  | full line rest free length pending bytes find =>
    rw [find]
    exact Or.inl hjudged
  | tail free length bytes buffer find =>
    cases hend : script.ending with
    | failed e =>
      rw [hend] at find
      exact Or.inr (Or.inr ⟨e, find, rfl⟩)
    | endOfData =>
      rw [hend, unfinished, atEnd] at find
      by_cases htaken : (f.next script).feed.line.taken = []
      · rw [if_pos htaken] at find
        exact Or.inr (Or.inl ⟨find, rfl, List.reverse_eq_nil_iff.2 htaken⟩)
      · rw [if_neg htaken] at find
        rw [find]
        exact Or.inl hjudged

/-! ### The contents that a feed finds -/

/-- Whether 64 bits are enough to count the bytes that are taken for a line: they count the longest
line with its terminator, or else every stretch of bytes that there is without a line feed. The
latter holds of every log that fits into a memory with addresses of 64 bits. -/
def Counts (limits : Limits) (log : Bytes) : Prop :=
  limits.maxLine + 2 ≤ 0xFFFFFFFFFFFFFFFF ∨
    ∀ s, s <:+: log → lineFeed ∉ s → s.length < 0xFFFFFFFFFFFFFFFF

lemma Counts.window {limits : Limits} {line rest : Bytes} (h : Counts limits (line ++ rest))
    (hf : lineFeed ∉ line) (hw : line.length = limits.window) :
    line.length = limits.maxLine + 2 := by
  rcases h with h | h
  · simp only [Limits.window] at hw
    omega
  · have := h line (List.prefix_append line rest).isInfix hf
    simp only [Limits.window] at hw
    omega

lemma Counts.of_infix {limits : Limits} {log log' : Bytes} (h : Counts limits log)
    (hl : log' <:+: log) : Counts limits log' :=
  h.imp_right fun h s hs => h s (hs.trans hl)

lemma window_le (limits : Limits) : limits.window ≤ limits.maxLine + 2 :=
  Nat.min_le_left _ _

/-- The first content of bytes that start with a full window is longer than the limit. -/
lemma contents_full (limit : ℕ) (ending : SourceEnd) {a : Bytes} (r : Bytes) (ha : lineFeed ∉ a)
    (hl : a.length = limit + 2) :
    ∃ c cs, contents limit ending (a ++ r) = c :: cs ∧ limit < c.length := by
  rcases free_or_terminated r with hr | ⟨line, rest, hline, rfl⟩
  · -- there is no line feed: the bytes are a tail, which counts because it is too long
    refine ⟨a ++ r, [], ?_, ?_⟩
    · have hne : a ++ r ≠ [] := by
        rintro h
        rw [List.append_eq_nil_iff] at h
        simp [h.1] at hl
      rw [contents_free (by simp [ha, hr])]
      cases ending with
      | endOfData => exact if_neg hne
      | failed e => exact if_pos (by simp only [List.length_append]; omega)
    · simp only [List.length_append]
      omega
  · -- the first line loses at most its carriage return
    refine ⟨chomp (a ++ line), contents limit ending rest, ?_, ?_⟩
    · rw [← List.append_assoc, contents_terminated (by simp [ha, hline])]
    · have := (length_chomp (a ++ line)).2
      simp only [List.length_append] at this
      omega

lemma judged_of_bytes {f : Feed} {c : Bytes} (h : f.line.bytes = c) :
    f.judged = if f.limits.maxLine < c.length then .tooLong else .line := by
  rw [judged, ← Line.length_bytes, h]

/-- **Where the pending bytes make no line, the source decides.** -/
theorem next_of_contents_nil {f : Feed} {script : Script}
    (hc : Counts f.limits (f.pending script))
    (h : contents f.limits.maxLine script.ending (f.pending script) = []) :
    (f.next script).find = (match script.ending with
      | .endOfData => .ended
      | .failed e => .failed e) ∧
      (f.next script).feed.buffer = [] ∧ (f.next script).rest = script.beyond := by
  cases next_found f script with
  | terminated line rest free pending =>
    rw [pending, contents_terminated free] at h
    cases h
  | full line rest free length pending =>
    rw [pending] at hc
    obtain ⟨c, cs, hcs, -⟩ := contents_full f.limits.maxLine script.ending rest free
      (hc.window free length)
    rw [pending, hcs] at h
    cases h
  | tail free length bytes buffer find rest =>
    refine ⟨?_, buffer, rest⟩
    rw [contents_free free] at h
    rw [find]
    cases hend : script.ending with
    | failed e => rfl
    | endOfData =>
      rw [hend] at h
      have hp : f.pending script = [] := by
        by_contra hne
        rw [tailContents, if_neg hne] at h
        cases h
      refine if_pos ?_
      rw [hp] at bytes
      exact List.reverse_eq_nil_iff.1 bytes

/-- **The feed finds the first content of the pending bytes.** If it is within the limit, the others
are still there afterwards. -/
theorem next_of_contents_cons {f : Feed} {script : Script} {c : Bytes} {cs : List Bytes}
    (hc : Counts f.limits (f.pending script))
    (h : contents f.limits.maxLine script.ending (f.pending script) = c :: cs) :
    (f.limits.maxLine < c.length ∧ (f.next script).find = .tooLong) ∨
      (c.length ≤ f.limits.maxLine ∧ (f.next script).find = .line ∧
        (f.next script).feed.line.bytes = c ∧
        (((f.next script).rest.ending = script.ending ∧
            (f.next script).rest.beyond = script.beyond ∧
            (f.next script).feed.pending (f.next script).rest <:+ f.pending script ∧
            contents f.limits.maxLine script.ending
              ((f.next script).feed.pending (f.next script).rest) = cs) ∨
          (c ≠ [] ∧ cs = [] ∧ script.ending = .endOfData ∧ (f.next script).feed.buffer = [] ∧
            (f.next script).rest = script.beyond))) := by
  have hlim := next_limits f script
  cases next_found f script with
  | terminated line rest free pending bytes find left ending beyond =>
    rw [pending, contents_terminated free] at h
    obtain ⟨rfl, rfl⟩ := List.cons.inj h
    rw [judged_of_bytes bytes, hlim] at find
    by_cases hlong : f.limits.maxLine < (chomp line).length
    · exact Or.inl ⟨hlong, find.trans (if_pos hlong)⟩
    · refine Or.inr ⟨Nat.le_of_not_lt hlong, find.trans (if_neg hlong), bytes,
        Or.inl ⟨ending, beyond, ?_, by rw [left]⟩⟩
      rw [left, pending]
      exact (List.suffix_cons _ _).trans (List.suffix_append _ _)
  | full line rest free length pending bytes find left ending beyond =>
    rw [pending] at hc
    obtain ⟨d, ds, hds, hlong⟩ := contents_full f.limits.maxLine script.ending rest free
      (hc.window free length)
    rw [pending, hds] at h
    obtain ⟨rfl, rfl⟩ := List.cons.inj h
    have hw := hc.window free length
    refine Or.inl ⟨hlong, ?_⟩
    rw [find, judged_of_bytes bytes, hlim, if_pos (by omega)]
  | tail free length bytes buffer find rest =>
    have hw := window_le f.limits
    rw [contents_free free] at h
    cases hend : script.ending with
    | failed e =>
      rw [hend, tailContents, if_neg (by omega)] at h
      cases h
    | endOfData =>
      rw [hend, tailContents] at h
      split at h
      · cases h
      · next hne =>
        obtain ⟨rfl, rfl⟩ := List.cons.inj h
        have ht : (f.next script).feed.line.taken ≠ [] := by
          intro h0
          rw [Line.bytes, h0] at bytes
          exact hne bytes.symm
        rw [hend, unfinished, atEnd, if_neg ht, judged_of_bytes bytes, hlim] at find
        by_cases hlong : f.limits.maxLine < (f.pending script).length
        · exact Or.inl ⟨hlong, find.trans (if_pos hlong)⟩
        · exact Or.inr ⟨Nat.le_of_not_lt hlong, find.trans (if_neg hlong), bytes,
            Or.inr ⟨hne, rfl, rfl, buffer, rest⟩⟩

end EventLog.Feed
