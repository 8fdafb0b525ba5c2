import EventLog.Proofs.Stream.Account
import EventLog.Proofs.Stream.Closing
import EventLog.Proofs.Stream.Ended
import EventLog.Proofs.Stream.UntilEnd

/-!
# The end of the data

A source may report the end of its data and hand out more afterwards. A stream that comes to the
report between two lines ends there. If it comes to the report within a line, it takes what there is
of it for the last line. When that line holds a record, the stream stays open, and the next search
goes on with what the source hands out after the report.

* `Session.Alike`: two sessions that nobody can tell from each other.
* `Session.alike_untilEnd`: when a session cannot be told from the one whose source ends for good.
* `Session.endIsFinal_iff`: when the end of the data is final.
-/

namespace EventLog

open Log

variable {ρ : Type} [LogRecord ρ]

namespace Session

/-! ### Sessions that cannot be told from each other -/

/-- Two sessions show the same record, the same line and the same count of records. -/
structure Shows (s t : Session ρ) : Prop where
  record : s.stream.record = t.stream.record
  bytes : s.stream.bytes = t.stream.bytes
  eventsRead : s.stream.eventsRead = t.stream.eventsRead

omit [LogRecord ρ] in
lemma Shows.of_stream {s t : Session ρ} (h : s.stream = t.stream) : s.Shows t :=
  ⟨congrArg Stream.record h, congrArg Stream.bytes h, congrArg Stream.eventsRead h⟩

/-- Whatever is asked of two sessions, they show the same. -/
def Alike (s t : Session ρ) : Prop := ∀ ops, (s.run ops).Shows (t.run ops)

/-- Sessions that are not open any more go on showing what they show. -/
lemma alike_of_ended {s t : Session ρ} (hs : ¬ s.stream.isOpen) (ht : ¬ t.stream.isOpen)
    (h : s.Shows t) : s.Alike t := by
  intro ops
  have h₁ := run_rests hs ops
  have h₂ := run_rests ht ops
  refine ⟨?_, ?_, ?_⟩
  · rw [h₁.record, h₂.record, h.record]
  · rw [h₁.bytes, h₂.bytes, h.bytes]
  · rw [h₁.eventsRead, h₂.eventsRead, h.eventsRead]

omit [LogRecord ρ] in
/-- Closing ends a session, or it changes nothing. -/
lemma close_cases (s : Session ρ) :
    (s.stream.closer = none ∧ s.close.2 = s) ∨
      (s.stream.closer.isSome ∧ ¬ s.close.2.stream.isOpen) := by
  cases hc : s.stream.closer with
  | none =>
    refine Or.inl ⟨rfl, ?_⟩
    simp only [close, Stream.close, hc]
  | some closer =>
    refine Or.inr ⟨rfl, ?_⟩
    have hclosed := s.close_closings.closed
    rw [hc] at hclosed
    simp [Stream.isOpen, hclosed]

/-- As long as two sessions have the same stream, only a search can tell them from each other. -/
lemma alike_iff_advance {s t : Session ρ} (h : s.stream = t.stream) :
    s.Alike t ↔ s.advance.2.Alike t.advance.2 := by
  constructor
  · intro halike ops
    exact halike (.advance :: ops)
  · intro halike ops
    induction ops with
    | nil => exact .of_stream h
    | cons op ops ih =>
      cases op with
      | advance => exact halike ops
      | close =>
        -- with a closer both sessions end here, with the same stream
        have hclose : s.close.2.stream = t.close.2.stream := congrArg (fun u => u.close.2) h
        change (s.close.2.run ops).Shows (t.close.2.run ops)
        rcases s.close_cases with ⟨hc, hs⟩ | ⟨hc, hs⟩
        · rcases t.close_cases with ⟨-, ht⟩ | ⟨hc', -⟩
          · rw [hs, ht]
            exact ih
          · rw [← h, hc] at hc'
            cases hc'
        · exact alike_of_ended hs (hclose ▸ hs) (.of_stream hclose) ops

/-! ### After the report -/

lemma seek_of_blank {s : Session ρ} (h : s.seek.2.stream.bytes = []) :
    ¬ s.seek.2.stream.isOpen ∧ s.seek.2.stream.record = s.stream.record ∧
      s.seek.2.stream.eventsRead = s.stream.eventsRead := by
  cases hmore : s.seek.1 with
  | true =>
    cases answered_of_seek hmore with
    | record content => exact absurd h content
  | false =>
    have hanswered := answered_of_seek hmore
    refine ⟨hanswered.not_open, ?_⟩
    cases hanswered with
    | ended record eventsRead => exact ⟨record, eventsRead⟩

/-- A session that has come to the report and is still open is as good as ended exactly if what its
source hands out after the report makes no line. -/
lemma alike_atEnd {s : Session ρ} (hopen : s.stream.isOpen) (hbuffer : s.stream.feed.buffer = []) :
    s.Alike s.atEnd ↔ Log.lines s.limit .endOfData s.script.ahead = [] := by
  have hpending : s.pending = s.script.ahead := by
    rw [pending, Feed.pending, hbuffer, List.nil_append]
  have hblank := s.seek_blank
  rw [hpending] at hblank
  have hatEnd : s.atEnd.seek.2.stream.bytes = [] := by
    have hnil : s.atEnd.pending = [] := by
      rw [pending, Feed.pending, atEnd, hbuffer]
      rfl
    rw [seek_blank, hnil]
    rfl
  have hopen' : s.atEnd.stream.isOpen := hopen
  have hstream : s.stream = s.atEnd.stream := rfl
  rw [alike_iff_advance hstream, advance_of_open hopen, advance_of_open hopen', ← hblank]
  constructor
  · intro halike
    exact (halike []).bytes.trans hatEnd
  · intro hs
    obtain ⟨h₁, h₂, h₃⟩ := seek_of_blank hs
    obtain ⟨h₁', h₂', h₃'⟩ := seek_of_blank hatEnd
    exact alike_of_ended h₁ h₁' ⟨h₂.trans h₂'.symm, hs.trans hatEnd.symm, h₃.trans h₃'.symm⟩

/-- A session goes on after the report: the last line before it has no line feed, all lines before
it hold records, the stream is not closed by then, and there is a line after it. -/
structure Resumes (s : Session ρ) : Prop where
  ending : s.script.ending = .endOfData
  unterminated : Unterminated s.pending
  records : (Log.read (ρ := ρ) s.limit .endOfData s.pending).failure = none
  unclosed : s.stream.closer.isSome → s.script.beyond.closings = s.script.closings
  more : Log.lines s.limit .endOfData s.script.beyond.ahead ≠ []

/-- A session that goes on after the report finds a record before it. -/
lemma Resumes.advance {s : Session ρ} (h : s.Resumes) (hopen : s.stream.isOpen)
    (hc : Feed.Counts s.stream.feed.limits s.pending) : s.advance.1 = true := by
  have hrecords := h.records
  rw [advance_eq_true_iff hopen hc, lines, h.ending]
  rw [Log.read] at hrecords
  cases hlines : Log.lines s.limit .endOfData s.pending with
  | nil => exact absurd hlines (lines_ne_nil h.unterminated)
  | cons c more =>
    rw [hlines, failure_readLines_cons] at hrecords
    obtain ⟨⟨v, hv⟩, -⟩ := hrecords
    exact ⟨c, v, rfl, judge_eq_ok.1 hv⟩

lemma judge_of_seek {s : Session ρ} (h : s.seek.1 = true) :
    judge s.limit s.seek.2.stream.bytes = .ok s.seek.2.stream.record := by
  cases answered_of_seek h with
  | record content within decoded => exact judge_eq_ok.2 ⟨within, decoded⟩

lemma isOpen_of_seek {s : Session ρ} (hopen : s.stream.isOpen) (h : s.seek.1 = true) :
    s.seek.2.stream.isOpen ↔
      (s.stream.closer.isSome → s.seek.2.script.closings = s.script.closings) := by
  have hk := s.seek_kept
  have hle := hk.closings
  rw [Stream.isOpen, Bool.and_eq_true, decide_eq_true_eq, Bool.not_eq_true'] at hopen
  cases answered_of_seek h with
  | record _ _ _ _ state =>
    rw [Stream.isOpen, state, hopen.1, hk.closed, hopen.2]
    cases s.stream.closer.isSome with
    | false => simp
    | true =>
      simp only [decide_true, Bool.true_and, Bool.false_or, Bool.not_eq_true',
        decide_eq_false_iff_not, true_implies]
      omega

/-- After a record in front of a line feed, what matters is still to come. -/
lemma FoundInside.resumes {s : Session ρ} (hopen : s.stream.isOpen) (htrue : s.seek.1 = true)
    (h : s.FoundInside s.seek.2) :
    s.Resumes ↔ s.seek.2.stream.isOpen ∧ s.seek.2.Resumes := by
  obtain ⟨front, hfront⟩ := h.pending
  have hk := s.seek_kept
  have hlim : s.seek.2.limit = s.limit := congrArg Limits.maxLine hk.limits
  have hrecords : (Log.read (ρ := ρ) s.limit .endOfData s.pending).failure = none ↔
      (Log.read (ρ := ρ) s.seek.2.limit .endOfData s.seek.2.pending).failure = none := by
    rw [Log.read, Log.read, h.lines, failure_readLines_cons, hlim]
    exact and_iff_right ⟨_, judge_of_seek htrue⟩
  have hunterminated : Unterminated s.pending ↔ Unterminated s.seek.2.pending := by
    rw [hfront, unterminated_append]
  rw [isOpen_of_seek hopen htrue]
  constructor
  · intro hs
    -- all closings come after the report, and so after the record
    have hclosings : s.stream.closer.isSome → s.seek.2.script.closings = s.script.closings := by
      intro hcloser
      have h₁ := hs.unclosed hcloser
      have h₂ := s.seek.2.script.closings_beyond_le
      have h₃ := hk.closings
      rw [h.beyond] at h₂
      omega
    refine ⟨hclosings, h.ending.trans hs.ending, hunterminated.1 hs.unterminated,
      hrecords.1 hs.records, ?_, ?_⟩
    · rw [hk.closer, h.beyond]
      exact fun hcloser => (hs.unclosed hcloser).trans (hclosings hcloser).symm
    · rw [hlim, h.beyond]
      exact hs.more
  · rintro ⟨hclosings, ht⟩
    refine ⟨h.ending.symm.trans ht.ending, hunterminated.2 ht.unterminated,
      hrecords.2 ht.records, ?_, ?_⟩
    · intro hcloser
      rw [← h.beyond]
      exact (ht.unclosed (hk.closer ▸ hcloser)).trans (hclosings hcloser)
    · rw [← hlim, ← h.beyond]
      exact ht.more

/-- After a record in the last bytes before the report, only what comes after it matters. -/
lemma FoundLast.resumes {s : Session ρ} (hopen : s.stream.isOpen) (htrue : s.seek.1 = true)
    (h : s.FoundLast s.seek.2) :
    s.Resumes ↔ s.seek.2.stream.isOpen ∧
      Log.lines s.seek.2.limit .endOfData s.seek.2.script.ahead ≠ [] := by
  have hlim : s.seek.2.limit = s.limit := congrArg Limits.maxLine s.seek_kept.limits
  rw [isOpen_of_seek hopen htrue, hlim, h.script]
  constructor
  · intro hs
    exact ⟨hs.unclosed, hs.more⟩
  · rintro ⟨hclosings, hmore⟩
    refine ⟨h.ending, h.unterminated, ?_, hclosings, hmore⟩
    rw [Log.read, h.lines, failure_readLines_cons]
    exact ⟨⟨_, judge_of_seek htrue⟩, rfl⟩

lemma FoundInside.counts {s : Session ρ} (h : s.FoundInside s.seek.2)
    (hc : Feed.Counts s.stream.feed.limits s.pending) :
    Feed.Counts s.seek.2.stream.feed.limits s.seek.2.pending := by
  obtain ⟨front, hfront⟩ := h.pending
  rw [s.seek_kept.limits]
  refine hc.of_infix ?_
  rw [hfront]
  exact ((List.suffix_cons _ _).trans (List.suffix_append _ _)).isInfix

/-- An open session and the one whose source ends for good differ only after a search. -/
lemma alike_untilEnd_iff_seek {s : Session ρ} (hopen : s.stream.isOpen) :
    s.Alike s.untilEnd ↔ s.seek.2.Alike s.untilEnd.seek.2 := by
  have hopen' : s.untilEnd.stream.isOpen := hopen
  have hstream : s.stream = s.untilEnd.stream := rfl
  rw [alike_iff_advance hstream, advance_of_open hopen, advance_of_open hopen']

/-- **When the end is final.** An open session cannot be told from the one whose source ends for
good where it first reports the end, unless it goes on after the report. -/
theorem alike_untilEnd {s : Session ρ} (hopen : s.stream.isOpen)
    (hc : Feed.Counts s.stream.feed.limits s.pending) : s.Alike s.untilEnd ↔ ¬ s.Resumes := by
  -- one record after the other, until there is none or the last line before the report holds one
  fun_induction drain s with
  | case1 s t ht records last hdrain ih =>
    rw [advance_of_open hopen] at ht
    obtain ⟨htrue, rfl⟩ := Prod.mk.inj ht
    rw [alike_untilEnd_iff_seek hopen]
    rcases seek_found hc htrue with h | h
    · rw [h.untilEnd, h.resumes hopen htrue]
      by_cases hopen' : s.seek.2.stream.isOpen
      · rw [ih hopen' (h.counts hc)]
        exact not_congr (and_iff_right hopen').symm
      · exact iff_of_true (alike_of_ended hopen' hopen' (.of_stream rfl)) fun h => hopen' h.1
    · -- the report has come: from here on the one source hands out nothing
      rw [h.untilEnd, h.resumes hopen htrue]
      by_cases hopen' : s.seek.2.stream.isOpen
      · rw [alike_atEnd hopen' h.buffer, and_iff_right hopen', not_not]
      · exact iff_of_true (alike_of_ended hopen' hopen' (.of_stream rfl)) fun h => hopen' h.1
  | case2 s t ht =>
    -- a session that finds no record ends with or without the report
    have hfalse : s.advance.1 = false := congrArg Prod.fst ht
    have hended := advance_false hfalse
    rw [advance_of_open hopen] at hended
    have hsame := s.seek_untilEnd.2
    rw [alike_untilEnd_iff_seek hopen]
    refine iff_of_true (alike_of_ended hended (hsame ▸ hended) (.of_stream hsame.symm)) ?_
    intro h
    exact nomatch hfalse.symm.trans (h.advance hopen hc)

/-! ### Streams -/

lemma perform_bytes {s : Session ρ} {log : Bytes} (hb : s.stream.bytes <:+: log)
    (hr : s.reach <:+ log) (op : Operation) : (s.perform op).stream.bytes <:+: log := by
  cases op with
  | advance =>
    by_cases hopen : s.stream.isOpen
    · rw [perform, advance_of_open hopen]
      exact s.seek_bytes.trans hr.isInfix
    · rw [perform_advance_of_not_open hopen]
      exact hb
  | close =>
    have h : s.close.2.stream.bytes = s.stream.bytes :=
      congrArg (fun f : Feed => f.line.bytes) s.close_closings.feed
    rw [perform, h]
    exact hb

/-- What a stream shows of a line comes from its source. -/
lemma run_bytes (limits : Limits) (closer : Option Closer) (script : Script)
    (ops : List Operation) :
    ((new limits closer script : Session ρ).run ops).stream.bytes <:+: script.unread := by
  induction ops using List.reverseRecOn with
  | nil => exact List.nil_infix
  | append_singleton ops op ih =>
    rw [run_concat]
    exact perform_bytes ih (run_reach (new limits closer script : Session ρ) ops) op

variable (ρ) in
/-- The end of the data is final for a stream of records of the type `ρ`. Whatever is asked of the
stream, it shows what it would show if the source handed out nothing after its first report of the
end, and the line that it shows comes from the data before the report. -/
structure EndIsFinal (limits : Limits) (closer : Option Closer) (script : Script) : Prop where
  same : ∀ ops, ((new limits closer script : Session ρ).run ops).Shows
    ((new limits closer script.untilEnd : Session ρ).run ops)
  origin : ∀ ops, ((new limits closer script : Session ρ).run ops).stream.bytes <:+:
    script.untilEnd.unread

/-- **When the end of the data is final.** It is final unless all of these hold: the data before the
first report is not empty and does not end with a line feed, every line of it holds a record, a
stream with a closer is not closed during the reads up to the report, and the source then hands out
another line. -/
theorem endIsFinal_iff (limits : Limits) (closer : Option Closer) (script : Script)
    (hc : Feed.Counts limits script.ahead) :
    EndIsFinal ρ limits closer script ↔
      ¬ (script.ending = .endOfData ∧ Unterminated script.ahead ∧
        (Log.read (ρ := ρ) limits.maxLine .endOfData script.ahead).failure = none ∧
        (closer.isSome → script.beyond.closings = script.closings) ∧
        Log.lines limits.maxLine .endOfData script.beyond.ahead ≠ []) := by
  have halike := alike_untilEnd (s := (new limits closer script : Session ρ)) rfl hc
  constructor
  · rintro hfinal ⟨hending, hunterminated, hrecords, hunclosed, hmore⟩
    exact halike.1 hfinal.same ⟨hending, hunterminated, hrecords, hunclosed, hmore⟩
  · intro h
    have hsame : (new limits closer script : Session ρ).Alike
        (new limits closer script.untilEnd) := by
      refine halike.2 fun hs => h ?_
      exact ⟨hs.ending, hs.unterminated, hs.records, hs.unclosed, hs.more⟩
    refine ⟨hsame, fun ops => ?_⟩
    rw [(hsame ops).bytes]
    exact run_bytes limits closer script.untilEnd ops

/-- The data ends with a line feed, and the source grows afterwards. -/
theorem endIsFinal_terminated :
    let script : Script := [.data (utf8 "\x7b\"message\":\"first\"\x7d\n"), .endOfData,
      .data (utf8 "\x7b\"message\":\"late\"\x7d\n")]
    Feed.Counts .standard script.ahead ∧ EndIsFinal ErrorEvent .standard none script := by
  intro script
  have hc : Feed.Counts .standard script.ahead := Or.inl (by decide)
  have hterminated : ¬ Unterminated script.ahead := by decide +kernel
  exact ⟨hc, (endIsFinal_iff .standard none script hc).2 fun h => hterminated h.2.1⟩

/-- The data ends within a line, and the source grows afterwards: the second search finds a record
that the source has handed out after its report of the end. -/
theorem endIsFinal_unterminated :
    let script : Script := [.data (utf8 "\x7b\"message\":\"first\"\x7d"), .endOfData,
      .data (utf8 "\x7b\"message\":\"late\"\x7d\n")]
    let s : Session ErrorEvent := new .standard none script
    (s.run [.advance, .advance]).stream.record = ⟨"late"⟩ ∧
      ¬ EndIsFinal ErrorEvent .standard none script := by
  intro script s
  have hlate : (s.run [.advance, .advance]).stream.record = ⟨"late"⟩ := by decide +kernel
  refine ⟨hlate, fun h => ?_⟩
  have hsame := (h.same [.advance, .advance]).record
  have hfirst : ((new .standard none script.untilEnd : Session ErrorEvent).run
      [.advance, .advance]).stream.record = ⟨"first"⟩ := by decide +kernel
  exact absurd (hlate.symm.trans (hsame.trans hfirst)) (by decide)

end Session

end EventLog
