import EventLog.Proofs.Feed

/-!
# The first report of the end

A source may report the end of its data and hand out more afterwards. Up to its first report it
cannot be told from the source that ends there for good (`Script.untilEnd`): a search over either
makes the same reads and finds the same. Whether a search comes to the report depends on the pending
bytes alone.

* `Script.read_untilEnd`: one read.
* `Feed.take_untilEnd`: the search for a line.
* `Feed.next_meetsEnd`: the searches that come to the report.
-/

namespace EventLog

open Ascii

namespace Script

/-- What a source does before it first reports the end of its data. As a script of its own it
reports the end for good after that. -/
def untilEnd (script : Script) : Script := script.takeWhile (· ≠ .endOfData)

@[simp] lemma untilEnd_keep (bs : Bytes) (script : Script) :
    untilEnd (keep bs script) = keep bs (untilEnd script) := by
  cases bs <;> simp [keep, untilEnd]

/-- A read before the first report is the same; the report itself is the last thing of note. -/
lemma read_untilEnd (capacity : ℕ) (script : Script) :
    read capacity script.untilEnd =
      ⟨(read capacity script).closings, (read capacity script).outcome,
        if (read capacity script).outcome = .endOfData then []
        else (read capacity script).rest.untilEnd⟩ := by
  induction script with
  | nil => rfl
  | cons step script ih =>
    cases step with
    | data bs =>
      have hcons : untilEnd (.data bs :: script) = .data bs :: untilEnd script := by
        simp [untilEnd]
      rw [hcons]
      cases bs with
      | nil => exact ih
      | cons b bs => simp [read]
    | endOfData => simp [untilEnd, read]
    | fail e => simp [untilEnd, read]
    | close =>
      have hcons : untilEnd (.close :: script) = .close :: untilEnd script := by
        simp [untilEnd]
      rw [hcons, read, read, ih]

lemma closings_beyond_le (script : Script) : script.beyond.closings ≤ script.closings := by
  have h : script.beyond <:+ script := by
    induction script with
    | nil => exact List.suffix_rfl
    | cons step script ih =>
      have hcons := List.suffix_cons step script
      cases step with
      | data bs => exact ih.trans hcons
      | endOfData => exact hcons
      | fail e =>
        rw [beyond]
        split
        · exact ih.trans hcons
        · exact hcons
      | close => exact ih.trans hcons
  exact h.sublist.count_le _

end Script

/-- What a stream gets to know of a read. -/
def Read.told (r : Read) : ℕ × ReadOutcome := (r.closings, r.outcome)

namespace Feed

/-! ### The search for a line, case by case -/

section

variable {f g : Feed} {script : Script}

lemma take_found (h : f.poll = .found g) : f.take script = ⟨g, g.judged, [], script⟩ := by
  rw [take, h]

lemma take_endOfData (h : f.poll = .blocked g)
    (ho : (script.read f.limits.capacity).outcome = .endOfData) :
    f.take script =
      ⟨g, g.atEnd, [script.read f.limits.capacity], (script.read f.limits.capacity).rest⟩ := by
  rw [take, h]
  simp only
  split <;> simp_all

lemma take_data {bytes : Bytes} (h : f.poll = .blocked g)
    (ho : (script.read f.limits.capacity).outcome = .data bytes) :
    f.take script =
      ((g.supply bytes).take (script.read f.limits.capacity).rest).after
        (script.read f.limits.capacity) := by
  rw [take, h]
  simp only
  split <;> simp_all

lemma take_interrupted {e : IoError} (h : f.poll = .blocked g)
    (ho : (script.read f.limits.capacity).outcome = .failed e) (he : e.kind = .interrupted) :
    f.take script =
      (g.take (script.read f.limits.capacity).rest).after (script.read f.limits.capacity) := by
  rw [take, h]
  simp only
  split <;> simp_all

lemma take_failed {e : IoError} (h : f.poll = .blocked g)
    (ho : (script.read f.limits.capacity).outcome = .failed e) (he : e.kind ≠ .interrupted) :
    f.take script =
      ⟨g, .failed e, [script.read f.limits.capacity], (script.read f.limits.capacity).rest⟩ := by
  rw [take, h]
  simp only
  split <;> simp_all

end

/-! ### A source that ends for good instead -/

/-- A search comes to a report of the end. -/
def Search.MeetsEnd (s : Search) : Prop := ReadOutcome.endOfData ∈ s.reads.map Read.outcome

/-- Two searches that a stream cannot tell from each other. -/
structure Search.Alike (s s' : Search) : Prop where
  feed : s'.feed = s.feed
  find : s'.find = s.find
  told : s'.reads.map Read.told = s.reads.map Read.told

lemma Search.Alike.after {s s' : Search} (h : s.Alike s') {r r' : Read} (hr : r'.told = r.told) :
    (s.after r).Alike (s'.after r') := by
  refine ⟨h.feed, h.find, ?_⟩
  simp only [Search.after, List.map_cons, hr, h.told]

lemma Search.meetsEnd_after {s : Search} {r : Read} (h : r.outcome ≠ .endOfData) :
    (s.after r).MeetsEnd ↔ s.MeetsEnd := by
  simp [MeetsEnd, after, h.symm]

/-- What a search is with the source cut off at its first report: the same, and afterwards the
source is cut off there, or has come to its end. -/
structure Search.Cut (s s' : Search) : Prop where
  alike : s.Alike s'
  ended : s.MeetsEnd → s'.rest = []
  going : ¬ s.MeetsEnd → s'.rest = s.rest.untilEnd

lemma Search.Cut.after {s s' : Search} (h : s.Cut s') {r r' : Read} (hr : r'.told = r.told)
    (ho : r.outcome ≠ .endOfData) : (s.after r).Cut (s'.after r') := by
  refine ⟨h.alike.after hr, ?_, ?_⟩
  · rw [meetsEnd_after ho]
    exact h.ended
  · rw [meetsEnd_after ho]
    exact h.going

/-- **The search for a line sees nothing of what comes after the first report.** -/
theorem take_untilEnd (f : Feed) (script : Script) :
    (f.take script).Cut (f.take script.untilEnd) := by
  fun_induction take f script with
  | case1 f script g hg =>
    rw [take_found hg]
    exact ⟨⟨rfl, rfl, rfl⟩, fun h => absurd h List.not_mem_nil, fun _ => rfl⟩
  | case2 f script g hg ho r =>
    have hr := Script.read_untilEnd f.limits.capacity script
    have hmeets : ReadOutcome.endOfData ∈ [r].map Read.outcome := by simp [r, ho]
    rw [take_endOfData hg (by rw [hr, ho]), hr]
    refine ⟨⟨rfl, rfl, rfl⟩, fun _ => if_pos ho, fun h => absurd hmeets h⟩
  | case3 f script g hg bytes ho r ih =>
    have hr := Script.read_untilEnd f.limits.capacity script
    have hne : r.outcome ≠ .endOfData := by simp [r, ho]
    rw [take_data hg (by rw [hr, ho]), hr]
    refine Search.Cut.after ?_ rfl hne
    rw [if_neg hne]
    exact ih
  | case4 f script g hg e ho r hk ih =>
    have hr := Script.read_untilEnd f.limits.capacity script
    have hne : r.outcome ≠ .endOfData := by simp [r, ho]
    rw [take_interrupted hg (by rw [hr, ho]) hk, hr]
    refine Search.Cut.after ?_ rfl hne
    rw [if_neg hne]
    exact ih
  | case5 f script g hg e ho r hk =>
    have hr := Script.read_untilEnd f.limits.capacity script
    have hne : r.outcome ≠ .endOfData := by simp [r, ho]
    have hmeets : ¬ ReadOutcome.endOfData ∈ [r].map Read.outcome := by simp [hne.symm]
    rw [take_failed hg (by rw [hr, ho]) hk, hr]
    exact ⟨⟨rfl, rfl, rfl⟩, fun h => absurd h hmeets, fun _ => if_neg hne⟩

/-! ### Which searches come to the report -/

/-- A search comes to a report of the end if that is next and the line is still unfinished then. -/
lemma take_meetsEnd (f : Feed) (script : Script) :
    (f.take script).MeetsEnd ↔
      (∃ l, f.line.fill (f.pending script) = .unfinished l) ∧ script.ending = .endOfData := by
  fun_induction take f script with
  | case1 f script g hg =>
    unfold poll at hg
    split at hg
    · cases hg
    · next l r hl =>
      rw [pending, Line.fill_append, hl]
      simp [Search.MeetsEnd]
  | case2 f script g hg ho r =>
    obtain ⟨-, hfill⟩ := fill_of_poll_blocked hg
    obtain ⟨ha, he, -⟩ := Script.read_endOfData ho
    rw [pending, hfill, ha, he]
    simp [Search.MeetsEnd, r, ho, Line.fill]
  | case3 f script g hg bytes ho r ih =>
    obtain ⟨-, hfill⟩ := fill_of_poll_blocked hg
    obtain ⟨ha, he, -⟩ := Script.read_data ho
    have hne : r.outcome ≠ .endOfData := by simp [r, ho]
    have hp : f.line.fill (f.pending script) =
        (g.supply bytes).line.fill ((g.supply bytes).pending r.rest) := by
      rw [pending, hfill, ha]
      rfl
    rw [Search.meetsEnd_after hne, ih, hp, he]
  | case4 f script g hg e ho r hk ih =>
    obtain ⟨hf, hfill⟩ := fill_of_poll_blocked hg
    have hr := Script.read_failed ho
    rw [if_pos hk] at hr
    obtain ⟨ha, he, -⟩ := hr
    have hne : r.outcome ≠ .endOfData := by simp [r, ho]
    have hp : g.pending r.rest = script.ahead := by
      rw [pending, hf, List.nil_append, ha]
    rw [Search.meetsEnd_after hne, ih, hp, pending, hfill, he]
  | case5 f script g hg e ho r hk =>
    have hr := Script.read_failed ho
    rw [if_neg hk] at hr
    have hne : r.outcome ≠ .endOfData := by simp [r, ho]
    simp [Search.MeetsEnd, hr.2.1, hne.symm]

/-- The next search comes to a report of the end if the pending bytes are one unfinished line and
the report is next. -/
lemma next_meetsEnd (f : Feed) (script : Script) :
    (f.next script).MeetsEnd ↔
      (lineFeed ∉ f.pending script ∧ (f.pending script).length < f.limits.window) ∧
        script.ending = .endOfData := by
  have hpending : f.startLine.pending script = f.pending script := rfl
  have hroom : 0 < f.startLine.line.room := by
    simp only [startLine, Line.start, Limits.window]
    omega
  rw [next, take_meetsEnd, hpending]
  refine and_congr_left fun _ => ?_
  constructor
  · rintro ⟨l, hl⟩
    exact Line.fill_unfinished hl hroom
  · rintro ⟨hfree, hlen⟩
    exact ⟨_, Line.fill_free hfree hlen⟩

end Feed

end EventLog
