import EventLog.Proofs.Feed.Traffic

/-!
# No byte is lost

A search for a line uses up the line and the terminator that it takes off, if there is one, and
nothing else. Whatever else has been read stays in the buffer. So the lines and terminators of all
searches, then the buffer, and then what the source has left are the whole log, also if some of the
searches have found a line that is too long.

What a search finds depends on the bytes that are left alone: it is the content up to the next line
feed or up to the end, unless that is longer than the limit.

* `Feed.used_append_reach`: a search uses up the front of what there is.
* `Feed.call_accounts`: the line and the terminator of a search.
* `Feed.calls_account`: any number of searches.
* `Feed.calls_conserve`: the searches of a log from its beginning.
-/

namespace EventLog

open Ascii Log

/-! ### Sources and buffers -/

namespace Script

lemma length_read_le {capacity : ℕ} (h : 0 < capacity) (script : Script) :
    (read capacity script).outcome.bytes.length ≤ capacity := by
  induction script with
  | nil => exact Nat.zero_le _
  | cons step script ih =>
    cases step with
    | data bs =>
      cases bs with
      | nil => exact ih
      | cons b bs =>
        simp only [read, ReadOutcome.bytes, List.length_cons, List.length_take]
        omega
    | endOfData => exact Nat.zero_le _
    | fail e => exact Nat.zero_le _
    | close => exact ih

/-- What a source has left is what it has ahead, and whatever comes after that. -/
lemma unread_eq (script : Script) : script.unread = script.ahead ++ script.beyond.unread := by
  induction script with
  | nil => rfl
  | cons step script ih =>
    cases step with
    | data bs => rw [unread, ih, ahead, beyond, List.append_assoc]
    | endOfData => rfl
    | fail e =>
      show unread script = _
      by_cases he : e.kind = .interrupted
      · rw [ih, ahead, beyond, if_pos he, if_pos he]
      · rw [ahead, beyond, if_neg he, if_neg he, List.nil_append]
    | close => exact ih

lemma Delivers.unread_eq {script : Script} {log : Bytes} (h : Delivers script log .endOfData) :
    script.unread = log := by
  generalize hending : SourceEnd.endOfData = ending at h
  induction h with
  | nil => rfl
  | data bs _ ih => exact congrArg (bs ++ ·) (ih hending)
  | interrupted _ _ ih => exact ih hending
  | endOfData _ ih => exact ih rfl
  | failed _ _ => cases hending

end Script

namespace Traffic

/-- Nothing that is used up at once is longer than a line with its terminator. -/
lemma Due.length_le {limit : ℕ} {before : List Traffic} {find : Find} {raw : Bytes}
    (h : Due limit before (.line find raw)) : raw.length ≤ limit + 2 := by
  cases h with
  | line split free room =>
    rw [List.length_append, List.length_singleton]
    omega
  | full split free length => exact length.le
  | rest free room => exact room.le

end Traffic

namespace Feed

open Traffic

lemma length_buffer_take_le (f : Feed) (script : Script)
    (h : f.buffer.length ≤ f.limits.capacity) :
    (f.take script).feed.buffer.length ≤ f.limits.capacity := by
  have hpositive : 0 < f.limits.capacity := by
    simp only [Limits.capacity]
    omega
  fun_induction take f script with
  | case1 f script g hg => exact (poll_found hg).le.trans h
  | case2 f script g hg ho r =>
    rw [(poll_blocked hg).1]
    exact Nat.zero_le _
  | case3 f script g hg bytes ho r ih =>
    -- the read fills an empty buffer
    have hlimits : (g.supply bytes).limits = f.limits := by
      rw [(fill_of_poll_blocked hg).1]
      rfl
    have hread := Script.length_read_le hpositive script
    rw [ho] at hread
    rw [hlimits] at ih
    exact ih hread hpositive
  | case4 f script g hg e ho r hk ih =>
    have hlimits : g.limits = f.limits := by
      rw [(fill_of_poll_blocked hg).1]
    rw [hlimits, (poll_blocked hg).1] at ih
    exact ih (Nat.zero_le _) hpositive
  | case5 f script g hg e ho r hk =>
    rw [(poll_blocked hg).1]
    exact Nat.zero_le _

lemma take_delivered (f : Feed) (script : Script) :
    (f.take script).delivered ++ (f.take script).rest.unread = script.unread := by
  fun_induction take f script with
  | case1 f script g hg => rfl
  | case2 f script g hg ho r => simpa [Search.delivered] using Script.read_unread _ script
  | case3 f script g hg bytes ho r ih =>
    rw [← Script.read_unread f.limits.capacity script, ← ih]
    simp [Search.delivered, Search.after, r]
  | case4 f script g hg e ho r hk ih =>
    rw [← Script.read_unread f.limits.capacity script, ← ih]
    simp [Search.delivered, Search.after, r]
  | case5 f script g hg e ho r hk => simpa [Search.delivered] using Script.read_unread _ script

/-! ### What a search uses up -/

/-- A search uses up the front of what there is. -/
lemma used_append_reach (f : Feed) (script : Script) :
    (f.next script).used f.buffer ++ (f.next script).feed.reach (f.next script).rest =
      f.reach script := by
  have hreach : (f.next script).feed.reach (f.next script).rest <:+ f.reach script :=
    take_reach f.startLine script
  have hunread : (f.next script).delivered ++ (f.next script).rest.unread = script.unread :=
    take_delivered f.startLine script
  rw [reach, reach, ← hunread, ← List.append_assoc, List.suffix_append_self_iff,
    List.suffix_iff_eq_append] at hreach
  rw [reach, ← List.append_assoc, Search.used, hreach, List.append_assoc, hunread, reach]

/-- A search with a full window for its line uses up at most the window. -/
lemma length_used_le (f : Feed) (script : Script)
    (hwindow : f.limits.window = f.limits.maxLine + 2) :
    ((f.next script).used f.buffer).length ≤ f.limits.maxLine + 2 := by
  have hbefore : outstanding [.read (.data f.buffer)] = f.buffer := rfl
  exact (next_sparing f script hwindow hbefore).1.due.1.length_le

/-- What there is, is pending or comes after the source has next ended. -/
lemma reach_eq (f : Feed) (script : Script) :
    f.reach script = f.pending script ++ script.beyond.unread := by
  rw [reach, pending, script.unread_eq, List.append_assoc]

end Feed

/-! ### What a search is to come to -/

namespace Log

/-- The content at the front of bytes after which the data end: what stands before the next line
feed, less at most one carriage return, or all of the bytes if there is no line feed. -/
def firstContent (left : Bytes) : Bytes :=
  if lineFeed ∈ left then chomp (left.takeWhile (· ≠ lineFeed)) else left

lemma firstContent_free {left : Bytes} (h : lineFeed ∉ left) : firstContent left = left :=
  if_neg h

lemma firstContent_terminated {line : Bytes} (h : lineFeed ∉ line) (rest : Bytes) :
    firstContent (line ++ lineFeed :: rest) = chomp line := by
  have hall : ∀ b ∈ line, decide (b ≠ lineFeed) = true := by
    intro b hb
    exact decide_eq_true fun hbl => h (hbl ▸ hb)
  rw [firstContent, if_pos (by simp), List.takeWhile_append_of_pos hall,
    List.takeWhile_cons_of_neg (by simp), List.append_nil]

/-- A content whose front leaves no room for a terminator is longer than the limit. -/
lemma lt_length_firstContent {limit : ℕ} {front : Bytes} (hfree : lineFeed ∉ front)
    (hlength : front.length = limit + 2) (rest : Bytes) :
    limit < (firstContent (front ++ rest)).length := by
  rcases free_or_terminated rest with hrest | ⟨line, more, hline, rfl⟩
  · rw [firstContent_free (by simp [hfree, hrest]), List.length_append]
    omega
  · have hchomp := (length_chomp (front ++ line)).2
    rw [← List.append_assoc, firstContent_terminated (by simp [hfree, hline])]
    rw [List.length_append] at hchomp
    omega

/-- All that a line loses is one carriage return. -/
lemma chomp_append (line : Bytes) :
    chomp line ++ [] = line ∨ chomp line ++ [carriageReturn] = line := by
  unfold chomp
  split
  · next h => exact Or.inr (List.dropLast_append_getLast? _ h)
  · exact Or.inl (List.append_nil line)

end Log

/-- A search for a line, as its caller sees it. -/
structure Call where
  /-- What was found. -/
  find : Find
  /-- The line, without terminator. -/
  line : Bytes
  /-- What was used up behind the line. -/
  terminator : Bytes
  deriving DecidableEq

namespace Call

/-- All bytes that were used up. -/
def bytes (c : Call) : Bytes := c.line ++ c.terminator

/-- What a search has to come to if lines have a limit, given the bytes that are left before it. -/
structure Accounts (limit : ℕ) (left : Bytes) (c : Call) : Prop where
  /-- The terminator is a line feed, a carriage return and a line feed, or nothing. -/
  terminator : c.terminator = [] ∨ c.terminator = [lineFeed] ∨
    c.terminator = [carriageReturn, lineFeed]
  /-- A line without terminator comes only at the end, unless it is too long. -/
  unterminated : c.find ≠ .tooLong → c.terminator = [] → c.bytes = left
  /-- A line is too long exactly if the content is longer than the limit. -/
  tooLong : c.find = .tooLong ↔ limit < (firstContent left).length
  /-- A line that is not too long is the content. -/
  content : c.find ≠ .tooLong → c.line = firstContent left
  /-- There are no more lines exactly if there are no bytes left. -/
  ended : c.find = .ended ↔ left = []
  /-- The source does not fail. -/
  sound : ∀ e, c.find ≠ .failed e
  /-- No more is used up than the longest line with its terminator. -/
  length : c.bytes.length ≤ limit + 2

variable {limit : ℕ} {line rest terminator : Bytes}

lemma terminator_cases (split : chomp line ++ terminator = line ++ [lineFeed]) :
    terminator = [lineFeed] ∨ terminator = [carriageReturn, lineFeed] := by
  rcases chomp_append line with h | h
  · refine Or.inl (List.append_cancel_left (split.trans ?_))
    rw [← List.append_nil (chomp line), h]
  · refine Or.inr (List.append_cancel_left (split.trans ?_))
    rw [List.append_cons (chomp line), h]

lemma Accounts.terminated (free : lineFeed ∉ line) (room : line.length < limit + 2)
    (split : chomp line ++ terminator = line ++ [lineFeed]) :
    Accounts limit (line ++ lineFeed :: rest)
      ⟨if limit < (chomp line).length then .tooLong else .line, chomp line, terminator⟩ where
  terminator := Or.inr (terminator_cases split)
  unterminated := by
    intro _ h
    rcases terminator_cases split with h' | h' <;> cases h.symm.trans h'
  tooLong := by
    rw [firstContent_terminated free]
    split_ifs with hlong <;> simp [hlong]
  content := fun _ => (firstContent_terminated free rest).symm
  ended := by split_ifs <;> simp
  sound := by
    intro e
    split_ifs <;> simp
  length := by
    rw [bytes, split, List.length_append, List.length_singleton]
    omega

lemma Accounts.full (free : lineFeed ∉ line) (length : line.length = limit + 2) :
    Accounts limit (line ++ rest) ⟨.tooLong, line, []⟩ where
  terminator := Or.inl rfl
  unterminated := fun h => absurd rfl h
  tooLong := by simp [lt_length_firstContent free length rest]
  content := fun h => absurd rfl h
  ended := by
    have hne : line ≠ [] := by
      rintro rfl
      rw [List.length_nil] at length
      omega
    simp [hne]
  sound := by simp
  length := by rw [bytes, List.append_nil, length]

lemma Accounts.tail (free : lineFeed ∉ line) (room : line.length < limit + 2) :
    Accounts limit line
      ⟨if line = [] then .ended else if limit < line.length then .tooLong else .line,
        line, []⟩ where
  terminator := Or.inl rfl
  unterminated := fun _ _ => List.append_nil line
  tooLong := by
    rw [firstContent_free free]
    split_ifs with hnil hlong
    · simp [hnil]
    · simp [hlong]
    · simp [hlong]
  content := fun _ => (firstContent_free free).symm
  ended := by split_ifs with hnil <;> simp [hnil]
  sound := by
    intro e
    split_ifs <;> simp
  length := by
    rw [bytes, List.append_nil]
    exact room.le

end Call

namespace Feed

/-- The next search, as its caller sees it. -/
def call (f : Feed) (script : Script) : Call :=
  let s := f.next script
  ⟨s.find, s.feed.line.bytes, (s.used f.buffer).drop s.feed.line.bytes.length⟩

lemma call_eq {f : Feed} {script : Script} {line terminator : Bytes}
    (hbytes : (f.next script).feed.line.bytes = line)
    (hused : (f.next script).used f.buffer = line ++ terminator) :
    f.call script = ⟨(f.next script).find, line, terminator⟩ := by
  rw [call, hbytes, hused, List.drop_left]

/-- **The line and the terminator of a search.** They are what the pending bytes ask for, if the
data end after them. -/
theorem call_accounts (f : Feed) (script : Script)
    (hwindow : f.limits.window = f.limits.maxLine + 2) (hending : script.ending = .endOfData) :
    (f.call script).Accounts f.limits.maxLine (f.pending script) ∧
      (f.call script).bytes = (f.next script).used f.buffer := by
  have hused := used_append_reach f script
  rw [reach_eq f] at hused
  have hlength := length_used_le f script hwindow
  have hlimits := next_limits f script
  cases next_found f script with
  | terminated line rest free pending bytes find left ending beyond =>
    -- the line feed is used up as well
    rw [reach_eq, left, beyond, pending, ← List.append_assoc, List.append_cancel_right_eq,
      List.append_cons, List.append_cancel_right_eq] at hused
    rw [hused, List.length_append, List.length_singleton] at hlength
    obtain ⟨terminator, hsplit⟩ : ∃ terminator, chomp line ++ terminator = line ++ [lineFeed] :=
      (isPrefix_chomp line).trans (List.prefix_append line _)
    rw [call_eq bytes (hused.trans hsplit.symm), find, judged_of_bytes bytes, hlimits, pending]
    exact ⟨.terminated free (by omega) hsplit, hsplit.trans hused.symm⟩
  | full line rest free length pending bytes find left ending beyond =>
    rw [reach_eq, left, beyond, pending, ← List.append_assoc, List.append_cancel_right_eq,
      List.append_cancel_right_eq] at hused
    have hfind : (f.next script).find = .tooLong := by
      rw [find, judged_of_bytes bytes, hlimits, if_pos (by omega)]
    rw [call_eq bytes (hused.trans (List.append_nil line).symm), hfind, pending]
    exact ⟨.full free (length.trans hwindow), (List.append_nil line).trans hused.symm⟩
  | tail free length bytes buffer find rest =>
    rw [reach, buffer, rest, List.nil_append, List.append_cancel_right_eq] at hused
    have hnil : (f.next script).feed.line.taken = [] ↔ f.pending script = [] := by
      rw [← bytes, Line.bytes, List.reverse_eq_nil_iff]
    rw [hending, unfinished, atEnd, judged_of_bytes bytes, hlimits, if_congr hnil rfl rfl] at find
    rw [call_eq bytes (hused.trans (List.append_nil _).symm), find]
    exact ⟨.tail free (hwindow ▸ length), (List.append_nil _).trans hused.symm⟩

end Feed

/-! ### One search after the other -/

/-- Searches for lines, one after the other. -/
structure Calls where
  /-- The searches, in order. -/
  made : List Call
  /-- The feed afterwards. -/
  feed : Feed
  /-- What the source does next. -/
  rest : Script

/-- What searches have to come to if the source delivers a log once. -/
structure Calls.Accounts (limits : Limits) (log : Bytes) (cs : Calls) : Prop where
  /-- The lines and their terminators, what is buffered, and what the source has left. -/
  conserved : cs.made.flatMap Call.bytes ++ cs.feed.buffer ++ cs.rest.unread = log
  /-- No more is buffered than a read asks for. -/
  buffered : cs.feed.buffer.length ≤ max 1 (min limits.initialBuffer limits.maxLine)
  /-- Each search starts where the searches before it have stopped. -/
  made : ∀ before c after, cs.made = before ++ c :: after →
    c.Accounts limits.maxLine (log.drop (before.flatMap Call.bytes).length)

namespace Feed

/-- A number of searches. Whatever one of them finds, the next one goes on with what is left. -/
def calls : ℕ → Feed → Script → Calls
  | 0, f, script => ⟨[], f, script⟩
  | n + 1, f, script =>
    let s := f.next script
    let cs := calls n s.feed s.rest
    { cs with made := f.call script :: cs.made }

lemma next_delivers (f : Feed) {script : Script} {log : Bytes}
    (h : script.Delivers log .endOfData) :
    ∃ log', (f.next script).rest.Delivers log' .endOfData := by
  rcases (take_delivers f.startLine script log h).2 with hrest | ⟨e, he⟩
  · exact hrest
  · have hfailed : (f.next script).find = .failed e := he
    rcases next_cases f script with (hfind | hfind) | ⟨hfind, -⟩ | ⟨e', -, hending⟩
    · cases hfailed.symm.trans hfind
    · cases hfailed.symm.trans hfind
    · cases hfailed.symm.trans hfind
    · cases h.ahead_eq.2.symm.trans hending

/-- **Any number of searches accounts for all bytes** that are buffered or delivered. -/
theorem calls_account (n : ℕ) :
    ∀ (f : Feed) (script : Script) (log : Bytes), f.limits.window = f.limits.maxLine + 2 →
      f.buffer.length ≤ f.limits.capacity → script.Delivers log .endOfData →
      (calls n f script).Accounts f.limits (f.reach script) := by
  induction n with
  | zero =>
    intro f script log _ hbuffer _
    refine ⟨rfl, hbuffer, ?_⟩
    intro before c after hmade
    exact absurd hmade.symm (List.append_ne_nil_of_right_ne_nil _ (List.cons_ne_nil _ _))
  | succ n ih =>
    intro f script log hwindow hbuffer h
    obtain ⟨log', h'⟩ := f.next_delivers h
    obtain ⟨hcall, hbytes⟩ := call_accounts f script hwindow h.ahead_eq.2
    have hlimits := next_limits f script
    have hrest := ih (f.next script).feed (f.next script).rest log' (by rw [hlimits, hwindow])
      (by rw [hlimits]; exact length_buffer_take_le f.startLine script hbuffer) h'
    -- the first search uses up the front, and the others account for what it leaves
    have hreach : f.reach script =
        (f.call script).bytes ++ (f.next script).feed.reach (f.next script).rest := by
      rw [hbytes, used_append_reach]
    have hpending : f.pending script = f.reach script := by
      rw [reach, pending, h.unread_eq, h.ahead_eq.1]
    rw [hlimits] at hrest
    refine ⟨?_, hrest.buffered, ?_⟩
    · rw [hreach, ← hrest.conserved]
      simp [calls]
    · intro before c after hmade
      cases before with
      | nil =>
        obtain ⟨rfl, -⟩ := List.cons.inj hmade
        rw [← hpending]
        exact hcall
      | cons b before =>
        obtain ⟨rfl, htail⟩ := List.cons.inj hmade
        have hdrop := hrest.made before c after htail
        rwa [hreach, List.flatMap_cons, List.length_append, ← List.drop_drop, List.drop_left]

/-- **No byte is lost.** Whatever the pieces in which a source delivers a log and whatever the
capacity of the reads, any number of searches accounts for the whole log. -/
theorem calls_conserve (limits : Limits) (hlimits : limits.maxLine ≤ 0xFFFFFFFFFFFFFFFD)
    {script : Script} {log : Bytes} (h : script.Delivers log .endOfData) (n : ℕ) :
    (calls n (.new limits) script).Accounts limits log := by
  have hwindow : limits.window = limits.maxLine + 2 := by
    simp only [Limits.window]
    omega
  have haccount := calls_account n (.new limits) script log hwindow (Nat.zero_le _) h
  rwa [reach, h.unread_eq] at haccount

/-- A line that is too long by one byte, in reads of three bytes of which one is interrupted. Its
carriage return stays with it, so the next search finds an empty line. -/
theorem calls_conserve_resume :
    let log := utf8 "abcde\r\nxy\r\nz"
    let script : Script := [.data (log.take 4), .fail ⟨.interrupted, "again"⟩, .data (log.drop 4)]
    let cs := calls 5 (.new ⟨4, 3⟩) script
    4 ≤ 0xFFFFFFFFFFFFFFFD ∧ script.Delivers log .endOfData ∧
      cs.made.flatMap Call.bytes ++ cs.feed.buffer ++ cs.rest.unread = log ∧
      cs.made = [⟨.tooLong, utf8 "abcde\r", []⟩, ⟨.line, [], utf8 "\n"⟩,
        ⟨.line, utf8 "xy", utf8 "\r\n"⟩, ⟨.line, utf8 "z", []⟩, ⟨.ended, [], []⟩] := by
  intro log script cs
  have hlimits : 4 ≤ 0xFFFFFFFFFFFFFFFD := by decide
  have hscript : script.Delivers log .endOfData :=
    .data (log.take 4) (.interrupted rfl (.data (log.drop 4) .nil))
  have haccounts : cs.Accounts ⟨4, 3⟩ log := calls_conserve ⟨4, 3⟩ hlimits hscript 5
  exact ⟨hlimits, hscript, haccounts.conserved, by decide +kernel⟩

end Feed

end EventLog
