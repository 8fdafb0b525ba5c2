import EventLog.Proofs.Feed.End
import EventLog.Proofs.Stream.Answer

/-!
# A session up to the end of its data

What a session comes to before its source first reports the end of its data does not depend on what
the source does after that (`Session.seek_untilEnd`). A search that finds a record has either found
it in front of a line feed (`Session.FoundInside`), or it has taken the last bytes before the report
for a line, and the source goes on with what comes after the report (`Session.FoundLast`).

* `Session.step_untilEnd`, `Session.seek_untilEnd`: the session and the one that ends for good.
* `Session.seek_found`: the two ways of finding a record.
* `Session.seek_blank`: a search among empty lines.
-/

namespace EventLog

open Ascii Log

variable {ρ : Type}

namespace Stream

/-- What reads do to a stream goes by what it gets to know of them. -/
lemma foldl_afterRead (s : Stream ρ) (reads : List Read) :
    reads.foldl afterRead s =
      (reads.map Read.told).foldl (fun s r => (s.closeTimes r.1).after (.read r.2)) s := by
  rw [List.foldl_map]
  rfl

/-- A stream cannot tell two searches that agree in what it gets to know. -/
lemma afterSearch_alike (s : Stream ρ) {r r' : Feed.Search} (h : r.Alike r') :
    s.afterSearch r' = s.afterSearch r := by
  rw [afterSearch, afterSearch, foldl_afterRead, foldl_afterRead, h.told, h.feed]

end Stream

namespace Session

/-- The session whose source ends for good where it first reports the end of its data. -/
def untilEnd (s : Session ρ) : Session ρ := ⟨s.stream, s.script.untilEnd⟩

/-- The session whose source has ended for good. -/
def atEnd (s : Session ρ) : Session ρ := ⟨s.stream, []⟩

/-- What a search that comes to a report of the end leaves: all pending bytes are in the line. -/
structure Drained (s t : Session ρ) : Prop where
  free : lineFeed ∉ s.pending
  ending : s.script.ending = .endOfData
  bytes : t.stream.bytes = s.pending
  buffer : t.stream.feed.buffer = []
  script : t.script = s.script.beyond

variable [LogRecord ρ]

lemma seek_of_some {s t : Session ρ} {more : Bool} (h : s.step = (some more, t)) :
    s.seek = (more, t) := by
  rw [seek]
  split <;> simp_all

lemma seek_of_none {s t : Session ρ} (h : s.step = (none, t)) : s.seek = t.seek := by
  rw [seek]
  split <;> simp_all

lemma step_find {s t : Session ρ} {more : Option Bool} (h : s.step = (more, t))
    (hne : more ≠ some false) : s.search.find = .line := by
  obtain rfl : s.step.1 = more := congrArg Prod.fst h
  exact Stream.settle_line hne

/-- A search for a line does not see what the source does after its first report of the end. -/
lemma step_untilEnd (s : Session ρ) :
    (s.search.MeetsEnd → s.untilEnd.step = (s.step.1, s.step.2.atEnd)) ∧
      (¬ s.search.MeetsEnd → s.untilEnd.step = (s.step.1, s.step.2.untilEnd)) := by
  have hcut : s.search.Cut s.untilEnd.search := Feed.take_untilEnd _ _
  have hsearched : s.untilEnd.searched = s.searched :=
    Stream.afterSearch_alike s.stream hcut.alike
  constructor
  · intro h
    rw [step_eq, step_eq, hsearched, hcut.alike.find, hcut.ended h]
    rfl
  · intro h
    rw [step_eq, step_eq, hsearched, hcut.alike.find, hcut.going h]
    rfl

/-- A search that comes to the report takes the pending bytes for the last line, and ends there. -/
lemma step_drained {s t : Session ρ} {more : Option Bool} (hm : s.search.MeetsEnd)
    (h : s.step = (more, t)) : s.Drained t ∧ more ≠ none := by
  obtain ⟨⟨hfree, hlen⟩, hend⟩ := (Feed.next_meetsEnd s.stream.feed s.script).1 hm
  obtain ⟨hfeed, hscript⟩ := step_feed h
  cases Feed.next_found s.stream.feed s.script with
  | terminated line rest free pending =>
    rw [pending] at hfree
    exact absurd (by simp) hfree
  | full line rest free length pending =>
    rw [pending, List.length_append] at hlen
    omega
  | tail free length bytes buffer find rest =>
    refine ⟨⟨free, hend, (bytes_of_step h).trans bytes, (congrArg Feed.buffer hfeed).trans buffer,
      hscript.trans rest⟩, ?_⟩
    -- an empty line at the end of the data is no line
    rintro rfl
    have hempty : s.search.feed.line.bytes = [] :=
      (bytes_of_step h).symm.trans (unchanged_of_step h).empty
    exact (Feed.line_of_unfinished (find.symm.trans (step_find h nofun))).2 hempty

/-- **A search for a record does not see it either.** -/
theorem seek_untilEnd (s : Session ρ) :
    s.untilEnd.seek.1 = s.seek.1 ∧ s.untilEnd.seek.2.stream = s.seek.2.stream := by
  fun_induction seek s with
  | case1 s more t ht =>
    by_cases h : s.search.MeetsEnd
    · have hstep := s.step_untilEnd.1 h
      rw [ht] at hstep
      rw [seek_of_some hstep]
      exact ⟨rfl, rfl⟩
    · have hstep := s.step_untilEnd.2 h
      rw [ht] at hstep
      rw [seek_of_some hstep]
      exact ⟨rfl, rfl⟩
  | case2 s t ht ih =>
    have hm : ¬ s.search.MeetsEnd := fun hm => (step_drained hm ht).2 rfl
    have hstep := s.step_untilEnd.2 hm
    rw [ht] at hstep
    rw [seek_of_none hstep]
    exact ih

/-! ### Finding a record -/

/-- The session `s` has found the record of the session `t` in front of a line feed, and what comes
after it is still pending. -/
structure FoundInside (s t : Session ρ) : Prop where
  pending : ∃ front, s.pending = front ++ lineFeed :: t.pending
  lines : Log.lines s.limit .endOfData s.pending =
    t.stream.bytes :: Log.lines s.limit .endOfData t.pending
  ending : t.script.ending = s.script.ending
  beyond : t.script.beyond = s.script.beyond
  untilEnd : s.untilEnd.seek = (true, t.untilEnd)

/-- The session `s` has found the record of the session `t` in the last bytes before the report of
the end. -/
structure FoundLast (s t : Session ρ) : Prop where
  unterminated : Unterminated s.pending
  lines : Log.lines s.limit .endOfData s.pending = [t.stream.bytes]
  ending : s.script.ending = .endOfData
  script : t.script = s.script.beyond
  buffer : t.stream.feed.buffer = []
  untilEnd : s.untilEnd.seek = (true, t.atEnd)

/-- A line that a search passes over, and what is pending after it. -/
lemma step_none {s t : Session ρ} (h : s.step = (none, t)) :
    ∃ line, lineFeed ∉ line ∧ chomp line = [] ∧ s.pending = line ++ lineFeed :: t.pending ∧
      t.script.ending = s.script.ending ∧ t.script.beyond = s.script.beyond := by
  have hempty : s.search.feed.line.bytes = [] :=
    (bytes_of_step h).symm.trans (unchanged_of_step h).empty
  rw [pending_of_step h, (step_feed h).2]
  cases Feed.next_found s.stream.feed s.script with
  | terminated line rest free pending bytes find left ending beyond =>
    have hchomp : chomp line = [] := bytes.symm.trans hempty
    have hrest : s.search.feed.pending s.search.rest = rest := left
    exact ⟨line, free, hchomp, hrest ▸ pending, ending, beyond⟩
  | full line rest free length pending bytes =>
    -- the window has room for more than nothing
    have hnil : line = [] := bytes.symm.trans hempty
    rw [hnil] at length
    simp only [List.length_nil, Limits.window] at length
    omega
  | tail free length bytes buffer find rest =>
    exact absurd hempty (Feed.line_of_unfinished (find.symm.trans (step_find h (by simp)))).2

/-- An empty line before it makes no difference to how a record is found. -/
lemma found_of_step {s t u : Session ρ} (h : s.step = (none, t))
    (hf : t.FoundInside u ∨ t.FoundLast u) : s.FoundInside u ∨ s.FoundLast u := by
  obtain ⟨line, hfree, hchomp, hpending, hending, hbeyond⟩ := step_none h
  have hlim : t.limit = s.limit := (unchanged_of_step h).limit
  have hlines : Log.lines s.limit .endOfData s.pending =
      Log.lines t.limit .endOfData t.pending := by
    rw [hpending, lines_terminated hfree, if_pos hchomp, hlim]
  have hcut : s.untilEnd.seek = t.untilEnd.seek := by
    have hm : ¬ s.search.MeetsEnd := fun hm => (step_drained hm h).2 rfl
    have hstep := s.step_untilEnd.2 hm
    rw [h] at hstep
    exact seek_of_none hstep
  rcases hf with hf | hf
  · obtain ⟨front, hfront⟩ := hf.pending
    refine Or.inl ⟨⟨line ++ lineFeed :: front, ?_⟩, ?_, hf.ending.trans hending,
      hf.beyond.trans hbeyond, hcut.trans hf.untilEnd⟩
    · rw [hpending, hfront, List.append_assoc, List.cons_append]
    · rw [hlines, hf.lines, hlim]
  · refine Or.inr ⟨?_, hlines.trans hf.lines, hending.symm.trans hf.ending,
      hf.script.trans hbeyond, hf.buffer, hcut.trans hf.untilEnd⟩
    rw [hpending, unterminated_append]
    exact hf.unterminated

/-- A search that comes to the report of the end finds its record in the last line. -/
lemma found_last_of_step {s t : Session ρ} (hm : s.search.MeetsEnd)
    (h : s.step = (some true, t)) : s.FoundLast t := by
  obtain ⟨hdrained, -⟩ := step_drained hm h
  have hne : s.pending ≠ [] := by
    rw [← hdrained.bytes]
    cases answered_of_step h with
    | record content => exact content
  have hcut := s.step_untilEnd.1 hm
  rw [h] at hcut
  refine ⟨unterminated_free hdrained.free hne, ?_, hdrained.ending, hdrained.script,
    hdrained.buffer, seek_of_some hcut⟩
  rw [lines_tail hdrained.free, if_neg hne, hdrained.bytes]

/-- A search that does not come to the report finds its record in front of a line feed. -/
lemma found_inside_of_step {s t : Session ρ}
    (hc : Feed.Counts s.stream.feed.limits s.pending) (hm : ¬ s.search.MeetsEnd)
    (h : s.step = (some true, t)) : s.FoundInside t := by
  have hscript := (step_feed h).2
  have hbytes := bytes_of_step h
  obtain ⟨hcontent, hwithin⟩ : t.stream.bytes ≠ [] ∧ t.stream.bytes.length ≤ s.limit := by
    cases answered_of_step h with
    | record content within => exact ⟨content, within⟩
  have hcut := s.step_untilEnd.2 hm
  rw [h] at hcut
  cases Feed.next_found s.stream.feed s.script with
  | terminated line rest free pending bytes find left ending beyond =>
    have hchomp : chomp line = t.stream.bytes := (hbytes.trans bytes).symm
    have hrest : t.pending = rest := (pending_of_step h).trans left
    have hpending : s.pending = line ++ lineFeed :: t.pending := hrest ▸ pending
    refine ⟨⟨line, hpending⟩, ?_, hscript ▸ ending, hscript ▸ beyond, seek_of_some hcut⟩
    rw [hpending, lines_terminated free, if_neg (hchomp ▸ hcontent), hchomp]
  | full line rest free length pending bytes =>
    -- a line that fills the window is longer than the limit
    have hp : s.pending = line ++ rest := pending
    rw [hp] at hc
    have hlong := hc.window free length
    have heq : t.stream.bytes = line := hbytes.trans bytes
    rw [heq] at hwithin
    simp only [limit] at hwithin
    omega
  | tail free length bytes buffer find rest =>
    -- only the report of the end makes a line of these bytes
    obtain ⟨hend, -⟩ := Feed.line_of_unfinished (find.symm.trans (step_find h (by simp)))
    exact absurd ((Feed.next_meetsEnd s.stream.feed s.script).2 ⟨⟨free, length⟩, hend⟩) hm

/-- **The two ways of finding a record.** -/
theorem seek_found {s : Session ρ} (hc : Feed.Counts s.stream.feed.limits s.pending)
    (h : s.seek.1 = true) : s.FoundInside s.seek.2 ∨ s.FoundLast s.seek.2 := by
  fun_induction seek s with
  | case1 s more t ht =>
    obtain rfl : more = true := h
    by_cases hm : s.search.MeetsEnd
    · exact Or.inr (found_last_of_step hm ht)
    · exact Or.inl (found_inside_of_step hc hm ht)
  | case2 s t ht ih =>
    obtain ⟨line, -, -, hpending, -⟩ := step_none ht
    have hsuffix : t.pending <:+ s.pending := by
      rw [hpending]
      exact (List.suffix_cons _ _).trans (List.suffix_append _ _)
    have hk := s.step_kept
    rw [ht] at hk
    have hlim : t.stream.feed.limits = s.stream.feed.limits := hk.limits
    exact found_of_step ht (ih (hlim ▸ hc.of_infix hsuffix.isInfix) h)

/-- A line that a search does not pass over is empty only if nothing is pending. -/
lemma step_blank {s t : Session ρ} {more : Bool} (h : s.step = (some more, t)) :
    t.stream.bytes = [] ↔ Log.lines s.limit .endOfData s.pending = [] := by
  rw [bytes_of_step h]
  cases Feed.next_found s.stream.feed s.script with
  | terminated line rest free pending bytes find =>
    have hb : s.search.feed.line.bytes = chomp line := bytes
    have hp : s.pending = line ++ lineFeed :: rest := pending
    have hne : chomp line ≠ [] := by
      intro hnil
      -- an empty line does not settle anything
      have hempty : s.searched.bytes = [] := hb.trans hnil
      have hline : s.search.find = .line := by
        refine find.trans ?_
        rw [Feed.judged_eq, bytes, hnil]
        exact if_neg (Nat.not_lt_zero _)
      rw [step_eq, hline, Stream.settle_blank hempty] at h
      cases h
    rw [hp, lines_terminated free, if_neg hne, hb]
    exact iff_of_false hne (List.cons_ne_nil _ _)
  | full line rest free length pending bytes =>
    have hb : s.search.feed.line.bytes = line := bytes
    have hp : s.pending = line ++ rest := pending
    have hlen : 2 ≤ line.length := by
      rw [length]
      simp only [Limits.window]
      omega
    have hne : line ≠ [] := by
      rintro rfl
      exact absurd hlen (by decide)
    rw [hp, hb]
    exact iff_of_false hne (lines_append_ne_nil free hlen rest)
  | tail free length bytes =>
    have hb : s.search.feed.line.bytes = s.pending := bytes
    have hfree : lineFeed ∉ s.pending := free
    rw [hb, lines_tail hfree]
    split
    next hnil => exact iff_of_true hnil rfl
    next hne => exact iff_of_false hne (List.cons_ne_nil _ _)

/-- **A search among empty lines.** It looks at a line that is not empty exactly if the pending
bytes make one, the last of them included. -/
theorem seek_blank (s : Session ρ) :
    s.seek.2.stream.bytes = [] ↔ Log.lines s.limit .endOfData s.pending = [] := by
  fun_induction seek s with
  | case1 s more t ht => exact step_blank ht
  | case2 s t ht ih =>
    obtain ⟨line, hfree, hchomp, hpending, -⟩ := step_none ht
    rw [ih, (unchanged_of_step ht).limit, hpending, lines_terminated hfree, if_pos hchomp]

end Session

end EventLog
