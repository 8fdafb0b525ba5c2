import EventLog.Proofs.Stream.Answer

/-!
# What a stream says about itself

A stream can be asked for the record and the line that it looked at last, for the number of records
and for the failure that has ended it. In every state that a stream can be in, these answers make
one consistent account of the records found so far (`Session.records`).

* `Session.run_consistent`: the account of a run.
* `Session.account_consistent`: what it says about each of the answers.
-/

namespace EventLog

open Ascii

variable {ρ : Type}

/-! ### Places in a line -/

namespace Json

lemma line_ofPrefix {s : Bytes} (h : lineFeed ∉ s) : (Position.ofPrefix s).line = 1 := by
  have hline : ∀ p : Position, (s.foldl Position.after p).line = p.line := by
    induction s with
    | nil => exact fun _ => rfl
    | cons b s ih =>
      intro p
      simp only [List.mem_cons, not_or] at h
      rw [List.foldl_cons, ih h.2, Position.after, if_neg fun hb => h.1 hb.symm]
  exact hline ⟨1, 0⟩

/-- A fault in a single line is in its first line. -/
lemma Shape.line_of_decode_error {shape : Shape ρ} {text : Bytes} {e : Error}
    (h : shape.decode text = .error e) (hfree : lineFeed ∉ text) : e.position.line = 1 := by
  unfold Shape.decode at h
  split at h
  · cases h
  · next f hf =>
    cases h
    exact line_ofPrefix fun hmem => hfree (List.mem_of_mem_take hmem)

end Json

namespace Session

variable [LogRecord ρ]

/-! ### The records of a run -/

/-- The record that an operation brings, if it brings one, with its line. -/
def brought (s : Session ρ) : Operation → List (Bytes × ρ)
  | .advance =>
    if s.advance.1 then [(s.advance.2.stream.bytes, s.advance.2.stream.record)] else []
  | .close => []

/-- The records that the searches of a run find, each with its line: one for each search that says
so. -/
def records (s : Session ρ) : List Operation → List (Bytes × ρ)
  | [] => []
  | op :: ops => s.brought op ++ (s.perform op).records ops

lemma records_concat (s : Session ρ) (ops : List Operation) (op : Operation) :
    s.records (ops ++ [op]) = s.records ops ++ (s.run ops).brought op := by
  induction ops generalizing s with
  | nil => simp [records]
  | cons op' ops ih =>
    rw [List.cons_append, records, records, ih, List.append_assoc]
    rfl

/-- What a session shows is an account of the given records. -/
structure Consistent (s : Session ρ) (records : List (Bytes × ρ)) : Prop where
  count : s.stream.eventsRead = records.length
  last : s.stream.record = records.getLast?.elim (LogRecord.shape : Json.Shape ρ).initial Prod.snd
  decoded : ∀ r ∈ records, LogRecord.decode r.1 = .ok r.2
  free : lineFeed ∉ s.stream.bytes
  length : s.stream.bytes.length ≤ s.limit + 2
  failure : ∀ e, s.stream.state = .failed e → s.stream.Explains e

lemma consistent_new (limits : Limits) (closer : Option Closer) (script : Script) :
    (Session.new limits closer script : Session ρ).Consistent [] where
  count := rfl
  last := rfl
  decoded := nofun
  free := nofun
  length := Nat.zero_le _
  failure := nofun

lemma advance_consistent {s : Session ρ} {records : List (Bytes × ρ)} (h : s.Consistent records) :
    s.advance.2.Consistent (records ++ s.brought .advance) := by
  by_cases hopen : s.stream.isOpen
  · have hline := s.seek_line
    have hanswered := s.seek_answered
    have hlim : s.seek.2.limit = s.limit := congrArg Limits.maxLine s.seek_kept.limits
    rw [brought, advance_of_open hopen]
    cases hmore : s.seek.1 with
    | true =>
      cases answered_of_seek hmore with
      | record content within decoded eventsRead state =>
        rw [if_pos rfl]
        refine ⟨?_, ?_, ?_, hline.1, hlim ▸ hline.2, ?_⟩
        · rw [eventsRead, h.count, List.length_append, List.length_singleton]
        · rw [List.getLast?_concat]
          rfl
        · intro r hr
          rcases List.mem_append.1 hr with hr | hr
          · exact h.decoded r hr
          · obtain rfl := List.mem_singleton.1 hr
            exact decoded
        · -- an open stream has no failure, and neither has it after a record
          intro e he
          rw [Stream.isOpen, Bool.and_eq_true, decide_eq_true_eq] at hopen
          rw [state, hopen.1] at he
          cases he
    | false =>
      cases answered_of_seek hmore with
      | ended record eventsRead state =>
        rw [if_neg Bool.false_ne_true, List.append_nil]
        refine ⟨eventsRead.trans h.count, record.trans h.last, h.decoded, hline.1,
          hlim ▸ hline.2, ?_⟩
        intro e he
        rcases state with hstate | ⟨e', hstate, hexplains⟩
        · rw [hstate] at he
          cases he
        · rw [hstate] at he
          cases he
          exact hexplains
  · rw [brought, advance_of_not_open hopen, if_neg Bool.false_ne_true, List.append_nil]
    exact h

lemma close_consistent {s : Session ρ} {records : List (Bytes × ρ)} (h : s.Consistent records) :
    s.close.2.Consistent records := by
  have hc := s.close_closings
  have hb : s.close.2.stream.bytes = s.stream.bytes :=
    congrArg (fun f : Feed => f.line.bytes) hc.feed
  have hlim : s.close.2.limit = s.limit := congrArg (fun f : Feed => f.limits.maxLine) hc.feed
  refine ⟨hc.eventsRead.trans h.count, hc.record.trans h.last, h.decoded, hb ▸ h.free,
    hb ▸ hlim ▸ h.length, ?_⟩
  intro e he
  exact (h.failure e (hc.state.symm.trans he)).of_feed hc.feed

/-- **The account of a run.** -/
theorem run_consistent (limits : Limits) (closer : Option Closer) (script : Script)
    (ops : List Operation) :
    let s : Session ρ := .new limits closer script
    (s.run ops).Consistent (s.records ops) := by
  intro s
  induction ops using List.reverseRecOn with
  | nil => exact consistent_new limits closer script
  | append_singleton ops op ih =>
    rw [run_concat, records_concat]
    cases op with
    | advance => exact advance_consistent ih
    | close =>
      have hnone : (s.run ops).brought .close = [] := rfl
      rw [hnone, List.append_nil]
      exact close_consistent ih

/-- A failure that a stream shows is borne out by the line that it shows. -/
lemma Consistent.explains {s : Session ρ} {records : List (Bytes × ρ)} (h : s.Consistent records)
    {e : Failure} (he : s.stream.err = some e) : s.stream.Explains e := by
  unfold Stream.err at he
  split at he
  next e' hstate =>
    cases he
    exact h.failure _ hstate
  next => cases he

/-- **A stream gives a consistent account of itself.** Whatever has been asked of it and whatever
the source has done:

* it counts the searches that have found a record, and its record is what the line of the last of
  them makes, or the initial record if there was none;
* its line has no line feed, and at most two bytes more than the limit;
* after a search that finds a record, the line is not empty, is within the limit and makes the
  record;
* if a fault has ended it, the line is not empty, is within the limit and has this fault, which is
  then in its first line;
* if a line that is too long has ended it, the failure names the limit, and the line exceeds it by
  one or two bytes. -/
theorem account_consistent (limits : Limits) (closer : Option Closer) (script : Script)
    (ops : List Operation) :
    let s : Session ρ := .new limits closer script
    let t := s.run ops
    let records := s.records ops
    t.stream.eventsRead = records.length ∧
      t.stream.record = records.getLast?.elim (LogRecord.shape : Json.Shape ρ).initial Prod.snd ∧
      (∀ r ∈ records, LogRecord.decode r.1 = .ok r.2) ∧
      lineFeed ∉ t.stream.bytes ∧ t.stream.bytes.length ≤ limits.maxLine + 2 ∧
      (t.advance.1 = true →
        let u := t.advance.2.stream
        u.bytes ≠ [] ∧ u.bytes.length ≤ limits.maxLine ∧ LogRecord.decode u.bytes = .ok u.record) ∧
      (∀ e, t.stream.err = some (.decode e) →
        t.stream.bytes ≠ [] ∧ t.stream.bytes.length ≤ limits.maxLine ∧
          LogRecord.decode (ρ := ρ) t.stream.bytes = .error e ∧ e.position.line = 1) ∧
      (∀ limit, t.stream.err = some (.lineTooLong limit) →
        limit = limits.maxLine ∧
          (t.stream.bytes.length = limits.maxLine + 1 ∨
            t.stream.bytes.length = limits.maxLine + 2)) := by
  intro s t records
  have h : t.Consistent records := run_consistent limits closer script ops
  have hlimits : t.stream.feed.limits = limits := s.run_limits ops
  have hlimit : t.limit = limits.maxLine := congrArg Limits.maxLine hlimits
  have hlength : t.stream.bytes.length ≤ limits.maxLine + 2 := hlimit ▸ h.length
  refine ⟨h.count, h.last, h.decoded, h.free, hlength, ?_, ?_, ?_⟩
  · intro htrue
    have hopen : t.stream.isOpen := by
      by_contra hn
      rw [advance_of_not_open hn] at htrue
      cases htrue
    rw [advance_of_open hopen] at htrue ⊢
    cases answered_of_seek htrue with
    | record content within decoded eventsRead state => exact ⟨content, hlimit ▸ within, decoded⟩
  · intro e he
    cases h.explains he with
    | decode content within fault =>
      exact ⟨content, hlimits ▸ within, fault, Json.Shape.line_of_decode_error fault h.free⟩
  · intro limit he
    have hexplains := h.explains he
    generalize hfailure : Failure.lineTooLong limit = failure at hexplains
    cases hexplains with
    | lineTooLong long =>
      cases hfailure
      rw [hlimits] at long ⊢
      exact ⟨rfl, by omega⟩
    | decode => cases hfailure
    | read => cases hfailure

/-- A line that is broken after a line that holds a record. -/
theorem account_consistent_broken :
    let s : Session ErrorEvent := .new ⟨64, 16⟩ none
      [.data (utf8 "\x7b\"message\":\"first\"\x7d\n\x7bbroken\n")]
    let t := s.run [.advance, .advance]
    let e : Json.Error := ⟨.expectedKey, ⟨1, 2⟩⟩
    t.stream.err = some (.decode e) ∧ t.stream.eventsRead = 1 ∧ t.stream.record = ⟨"first"⟩ ∧
      t.stream.bytes = utf8 "\x7bbroken" ∧
      LogRecord.decode (ρ := ErrorEvent) t.stream.bytes = .error e ∧ e.position.line = 1 := by
  intro s t e
  have herr : t.stream.err = some (.decode e) := by decide +kernel
  obtain ⟨hcount, hlast, -, -, -, -, hdecode, -⟩ := account_consistent (ρ := ErrorEvent) ⟨64, 16⟩
    none [.data (utf8 "\x7b\"message\":\"first\"\x7d\n\x7bbroken\n")] [.advance, .advance]
  obtain ⟨-, -, hfault, hline⟩ := hdecode e herr
  refine ⟨herr, hcount.trans ?_, hlast.trans ?_, ?_, hfault, hline⟩
  · decide +kernel
  · decide +kernel
  · decide +kernel

end Session

end EventLog
