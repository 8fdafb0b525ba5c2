import EventLog.Proofs.Duration
import EventLog.Proofs.Instant.Millis
import EventLog.Proofs.Record.Clock
import EventLog.Proofs.Text.Shorten
import EventLog.Record.Display

/-!
# What a line of output tells

The fields of a line of output stand between escape sequences, and neither numbers nor times nor
elapsed times have control characters. So a line falls into pieces at its escape characters, and the
pieces tell the fields, unless a client has put escape characters into its path or its identity.

* `AuditEvent.times_agree`: the time in a line and the time in the document of an event.
* `AuditEvent.splitOn_line`: the pieces of a line.
* `AuditEvent.line_wide_iff`: what a wide line tells, and when the status code is green.
-/

namespace EventLog

open Text

/-! ### Printable texts -/

/-- A text without control characters. -/
def Text.Printable (cs : List Char) : Prop := ∀ c ∈ cs, 0x20 ≤ c.toNat

namespace Text

variable {a b : List Char}

lemma Printable.append (ha : Printable a) (hb : Printable b) : Printable (a ++ b) :=
  List.forall_mem_append.2 ⟨ha, hb⟩

lemma Printable.not_mem {c : Char} (h : Printable a) (hc : c.toNat < 0x20) : c ∉ a :=
  fun hmem => Nat.not_lt.2 (h c hmem) hc

lemma printable_of_isDigit (h : ∀ c ∈ a, c.isDigit) : Printable a := by
  intro c hc
  have hle := (toNat_of_isDigit (h c hc)).1
  omega

lemma printable_digits (n : ℕ) : Printable (digits n) :=
  printable_of_isDigit fun _ => isDigit_of_mem_digits

lemma printable_padded (w n : ℕ) : Printable (padded w n) :=
  printable_of_isDigit fun _ => isDigit_of_mem_padded

lemma printable_signed (n : ℤ) : Printable (signed n) := by
  cases n with
  | ofNat m => exact printable_digits m
  | negSucc m => exact List.forall_mem_cons.2 ⟨by decide, printable_digits (m + 1)⟩

end Text

lemma Instant.printable_milliText (t : Instant) : Printable t.milliText.toList := by
  have hmarks : Printable ['-', '+', 'T', ':'] := by simp [Printable]
  have hsecond : Printable t.secondText := by
    intro c hc
    rcases t.mem_secondText hc with h | h
    · exact printable_of_isDigit (List.forall_mem_singleton.2 h) c List.mem_cons_self
    · exact hmarks c h
  have hmillis : Printable ('.' :: padded 3 (t.subsecond / 1000000)) :=
    List.forall_mem_cons.2 ⟨by decide, printable_padded _ _⟩
  rw [milliText, String.toList_ofList]
  exact (hsecond.append hmillis).append (by simp [Printable])

lemma Duration.printable_fixedPoint (n places : ℕ) : Printable (fixedPoint n places) := by
  obtain ⟨k, hk⟩ := trimZeros_append (padded places (n % 10 ^ places))
  have hfraction : Printable (trimZeros (padded places (n % 10 ^ places))) := by
    intro c hc
    refine printable_padded places (n % 10 ^ places) c ?_
    rw [hk]
    exact List.mem_append_left _ hc
  simp only [fixedPoint, Nat.pow_eq]
  refine (printable_digits _).append ?_
  split_ifs
  · exact List.forall_mem_nil _
  · exact List.forall_mem_cons.2 ⟨by decide, hfraction⟩

lemma Duration.printable_display (d : Duration) : Printable d.display.toList := by
  have hsign : Printable (if d.nanos < 0 then ['-'] else []) := by
    split_ifs <;> simp [Printable]
  have hmagnitude : Printable (magnitudeText d.nanos.natAbs) := by
    unfold magnitudeText
    split_ifs
    · exact (printable_fixedPoint _ _).append (by simp [Printable])
    · exact (printable_fixedPoint _ _).append (by simp [Printable])
    · exact (printable_fixedPoint _ _).append (by simp [Printable])
    · exact (printable_digits _).append (by simp [Printable])
  rw [display_toList]
  exact hsign.append hmagnitude

/-! ### Colours -/

lemma Text.Colour.length_code (c : Colour) : c.code.toList.length = 2 := by
  cases c <;> rfl

lemma Text.Colour.printable_code (c : Colour) : Printable c.code.toList := by
  cases c <;> simp [code, Printable]

/-- The range of the green status codes is that of the requests that were served. -/
lemma codeColour_eq_green {r : Response} : codeColour r.code = .green ↔ r.isSuccess := by
  simp only [codeColour, Response.isSuccess, Bool.and_eq_true, decide_eq_true_eq]
  split_ifs <;> simp <;> omega

/-! ### Texts between separators -/

/-- What stands before the first separator is the first piece. -/
lemma Text.eq_of_append_cons {a b r s : List Char} {c : Char} (ha : c ∉ a) (hb : c ∉ b)
    (h : a ++ c :: r = b ++ c :: s) : a = b := by
  have hpieces := congrArg (List.splitOn c) h
  rw [List.splitOn_append_cons_self, List.splitOn_append_cons_self, List.splitOn_eq_singleton ha,
    List.splitOn_eq_singleton hb] at hpieces
  exact (List.cons.inj hpieces).1

/-- What stands between two separators is a piece. -/
lemma Text.mem_splitOn {a b : List Char} {x : Char} (hx : x ∉ a) (h : x :: (a ++ [x]) <:+: b) :
    a ∈ b.splitOn x := by
  obtain ⟨s, t, rfl⟩ := h
  rw [List.append_assoc, List.cons_append, List.append_assoc, List.singleton_append,
    List.splitOn_append_cons_self, List.splitOn_append_cons_self, List.splitOn_eq_singleton hx]
  simp

/-! ### The time in a line -/

/-- The character that starts an escape sequence. -/
def Text.escape : Char := '\x1b'

lemma Text.toList_dimmed (x : String) :
    (dimmed x).toList = escape :: ("[2m".toList ++ x.toList ++ escape :: "[0m".toList) := by
  simp [dimmed, select, escape]

namespace AuditEvent

variable {e e' : AuditEvent} {wide : Bool}

/-- A line tells the time by this string, which stands dimmed at its start, before a space. -/
def ShowsTime (line x : String) : Prop :=
  escape ∉ x.toList ∧ ∃ rest, line = dimmed x ++ " " ++ rest

/-- What stands in a line behind the time. -/
def lineRest (wide : Bool) (e : AuditEvent) : String :=
  tag .blue "[AUDIT]" ++ " " ++ codeText e.response.code ++ " " ++ e.request.path ++ " " ++
    coloured .cyan (shorten e.request.identity identityLimit wide) ++ " " ++
    dimmed e.response.elapsed.display

/-- **The time in a line** is told by the text in milliseconds, and by nothing else. -/
lemma showsTime_iff {x : String} : ShowsTime (e.line wide) x ↔ x = e.time.milliText := by
  have hfree := e.time.printable_milliText.not_mem (c := escape) (by decide)
  have hrest : e.line wide = dimmed e.time.milliText ++ " " ++ e.lineRest wide := by
    simp only [line, lineRest, String.append_assoc]
  constructor
  · rintro ⟨hx, rest', hrest'⟩
    have hlists := congrArg String.toList (hrest'.symm.trans hrest)
    simp only [String.toList_append, toList_dimmed, List.cons_append, List.append_assoc,
      List.cons.injEq, true_and, List.append_cancel_left_eq] at hlists
    exact String.toList_inj.1 (eq_of_append_cons hx hfree hlists)
  · rintro rfl
    exact ⟨hfree, _, hrest⟩

/-- **The times agree.** An event whose elapsed time can be stored has a document. The string that
tells the time in its line, wide or not, is the one that tells the time in the document with three
digits of its fraction. The latter is read as the instant of the event, the former as this instant
in milliseconds. -/
theorem times_agree (h : e.response.elapsed.Storable) (wide : Bool) :
    ∃ document encoded shown, e.document = .ok document ∧
      (∀ x, TellsTime document x ↔ x = encoded) ∧ (∀ x, ShowsTime (e.line wide) x ↔ x = shown) ∧
        shown.toList = Instant.withMillis encoded.toList ∧
          Instant.parse encoded = .ok e.time ∧ Instant.parse shown = .ok e.time.inMillis := by
  have hdocument := e.document_eq.trans (if_pos h)
  exact ⟨_, e.time.exactText, e.time.milliText, hdocument, fun _ => tellsTime_iff hdocument,
    fun _ => showsTime_iff, e.time.withMillis_exactText.symm, e.time.parse_exactText,
    e.time.parse_milliText⟩

/-- The end of a leap second just before the year 0, with escape characters in a field. -/
theorem times_agree_leap :
    let e : AuditEvent := ⟨⟨-62167219201, 1999999999, by decide, by decide, by decide⟩,
      ⟨"/", "\x1b[0m"⟩, ⟨200, ⟨-1⟩⟩⟩
    e.response.elapsed.Storable ∧ ∃ document, e.document = .ok document ∧
      TellsTime document "-0001-12-31T23:59:60.999999999Z" ∧
        ShowsTime (e.line false) "-0001-12-31T23:59:60.999Z" := by
  intro e
  have hstorable : e.response.elapsed.Storable := by decide
  obtain ⟨document, encoded, shown, hdocument, hencoded, hshown, hmillis, -⟩ :=
    times_agree hstorable false
  have htext : encoded = "-0001-12-31T23:59:60.999999999Z" :=
    ((hencoded _).1 ((tellsTime_iff hdocument).2 (by decide +kernel))).symm
  have hcut : shown.toList = "-0001-12-31T23:59:60.999Z".toList := by
    rw [hmillis, htext]
    decide +kernel
  exact ⟨hstorable, document, hdocument, (hencoded _).2 htext.symm,
    (hshown _).2 (String.toList_inj.1 hcut).symm⟩

/-! ### The pieces of a line -/

/-- What stands between the escape characters of a line. -/
def pieces (wide : Bool) (e : AuditEvent) : List (List Char) :=
  [[], "[2m".toList ++ e.time.milliText.toList, "[0m ".toList, "[1m".toList,
    "[34m[AUDIT]".toList, "[39m".toList, "[0m ".toList,
    '[' :: ((codeColour e.response.code).code.toList ++ 'm' :: signed e.response.code.toInt),
    "[39m ".toList ++ e.request.path.toList ++ [' '],
    "[36m".toList ++ (shorten e.request.identity identityLimit wide).toList, "[39m ".toList,
    "[2m".toList ++ e.response.elapsed.display.toList, "[0m".toList]

lemma toList_line : (e.line wide).toList = [escape].intercalate (e.pieces wide) := by
  simp [line, pieces, dimmed, tag, bold, coloured, codeText, select, escape, Colour.code,
    List.intercalate, List.intersperse]

/-- The client has put no escape characters into the fields of its request. -/
def Unstyled (e : AuditEvent) : Prop :=
  escape ∉ e.request.path.toList ∧ escape ∉ e.request.identity.toList

lemma escape_not_mem (h : e.Unstyled) : ∀ piece ∈ e.pieces wide, escape ∉ piece := by
  have htime := e.time.printable_milliText.not_mem (c := escape) (by decide)
  have hcode := (printable_signed e.response.code.toInt).not_mem (c := escape) (by decide)
  have helapsed := e.response.elapsed.printable_display.not_mem (c := escape) (by decide)
  have hidentity : escape ∉ (shorten e.request.identity identityLimit wide).toList :=
    not_mem_shorten (by decide) h.2
  have hcolour := (codeColour e.response.code).printable_code.not_mem (c := escape) (by decide)
  simpa [pieces, escape] using And.intro htime ⟨⟨hcolour, hcode⟩, h.1, hidentity, helapsed⟩

/-- **A line falls into its pieces** at its escape characters. -/
lemma splitOn_line (h : e.Unstyled) : (e.line wide).toList.splitOn escape = e.pieces wide := by
  rw [toList_line, List.splitOn_intercalate _ (escape_not_mem h) (by simp [pieces])]

lemma of_line_eq (h : e.Unstyled) (h' : e'.Unstyled) (heq : e.line true = e'.line true) :
    e.time.milliText = e'.time.milliText ∧ e.request = e'.request ∧ e.response = e'.response := by
  have hpieces : e.pieces true = e'.pieces true := by
    rw [← splitOn_line h, heq, splitOn_line h']
  simp only [pieces, shorten, if_true, List.cons.injEq, List.append_cancel_left_eq,
    List.append_cancel_right_eq, true_and, and_true, String.toList_inj] at hpieces
  obtain ⟨htime, hcode, hpath, hidentity, helapsed⟩ := hpieces
  -- the numbers of colours are of one length, so that they end where the status code starts
  have hlength := (Colour.length_code (codeColour e.response.code)).trans
    (Colour.length_code (codeColour e'.response.code)).symm
  have hsigned := signed_injective (List.cons.inj (List.append_inj_right hcode hlength)).2
  exact ⟨htime, congrArg₂ Request.mk hpath hidentity,
    congrArg₂ Response.mk (Int64.toInt_inj.1 hsigned) (Duration.display_injective helapsed)⟩

/-! ### Green status codes -/

/-- A text stands somewhere in a line, and in this colour. -/
def ShowsIn (c : Colour) (line x : String) : Prop := (coloured c x).toList <:+: line.toList

/-- **The status code is green** in the line of a request that was served, and in no other. -/
lemma green_iff (h : e.Unstyled) :
    ShowsIn .green (e.line wide) (String.ofList (signed e.response.code.toInt)) ↔
      e.response.isSuccess := by
  rw [← codeColour_eq_green]
  constructor
  · intro hinfix
    have hfree := (printable_signed e.response.code.toInt).not_mem (c := escape) (by decide)
    have hgreen : escape :: ("[32m".toList ++ signed e.response.code.toInt ++ [escape]) <:+:
        (coloured .green (String.ofList (signed e.response.code.toInt))).toList :=
      ⟨[], "[39m".toList, by simp [coloured, select, escape, Colour.code]⟩
    have hpiece := mem_splitOn (by simpa [escape] using hfree) (hgreen.trans hinfix)
    -- of all pieces only that with the status code can start with the number of this colour
    rw [splitOn_line h] at hpiece
    have hcode : '3' :: '2' :: 'm' :: signed e.response.code.toInt =
        (codeColour e.response.code).code.toList ++ 'm' :: signed e.response.code.toInt := by
      simpa [pieces] using hpiece
    cases hcolour : codeColour e.response.code <;> simp [hcolour, Colour.code] at hcode ⊢
  · intro hgreen
    refine ⟨(dimmed e.time.milliText ++ " " ++ tag .blue "[AUDIT]" ++ " ").toList,
      (" " ++ e.request.path ++ " " ++
        coloured .cyan (shorten e.request.identity identityLimit wide) ++ " " ++
        dimmed e.response.elapsed.display).toList, ?_⟩
    simp only [line, codeText, hgreen, String.toList_append, List.append_assoc]

/-- **What a wide line tells.** Without escape characters in the fields of their requests, two
events have the same wide line exactly if their times are the same in milliseconds and all else is
the same; and in a line, wide or not, the status code is green exactly if the request was served. -/
theorem line_wide_iff (h : e.Unstyled) (h' : e'.Unstyled) :
    (e.line true = e'.line true ↔
        e.time.inMillis = e'.time.inMillis ∧ e.request = e'.request ∧ e.response = e'.response) ∧
      ∀ wide, (ShowsIn .green (e.line wide) (String.ofList (signed e.response.code.toInt)) ↔
        e.response.isSuccess) := by
  refine ⟨⟨fun heq => ?_, fun ⟨htime, hrequest, hresponse⟩ => ?_⟩, fun _ => green_iff h⟩
  · obtain ⟨htime, hrest⟩ := of_line_eq h h' heq
    exact ⟨Instant.milliText_eq_iff.1 htime, hrest⟩
  · rw [line, line, Instant.milliText_eq_iff.2 htime, hrequest, hresponse]

/-- Two events of one millisecond with brackets and spaces in the fields of their requests. -/
theorem line_wide_iff_brackets :
    let request : Request := ⟨"/a [AUDIT] 500", "[39m [2m1ns"⟩
    let e : AuditEvent := ⟨⟨0, 1000000, by decide, by decide, by decide⟩, request, ⟨299, ⟨-1⟩⟩⟩
    let e' : AuditEvent := ⟨⟨0, 1999999, by decide, by decide, by decide⟩, request, ⟨299, ⟨-1⟩⟩⟩
    e.Unstyled ∧ e'.Unstyled ∧ e ≠ e' ∧ e.line true = e'.line true ∧
      ShowsIn .green (e.line true) "299" := by
  intro request e e'
  have h : e.Unstyled := by
    constructor <;> decide +kernel
  have h' : e'.Unstyled := h
  have hcode : String.ofList (signed e.response.code.toInt) = "299" := by decide +kernel
  obtain ⟨hline, hgreen⟩ := line_wide_iff h h'
  rw [hcode] at hgreen
  exact ⟨h, h', by decide, hline.2 ⟨by decide, rfl, rfl⟩, (hgreen true).2 (by decide)⟩

end AuditEvent

/-! ### Line feeds in a line -/

namespace Text

lemma Printable.count_lineFeed {cs : List Char} (h : Printable cs) : cs.count '\n' = 0 :=
  List.count_eq_zero_of_not_mem (h.not_mem (by decide))

lemma count_select {code : String} (h : Printable code.toList) :
    (select code).toList.count '\n' = 0 := by
  simp [select, h.count_lineFeed]

lemma count_coloured (c : Colour) (s : String) :
    (coloured c s).toList.count '\n' = s.toList.count '\n' := by
  have hon := count_select c.printable_code
  have hoff : (select "39").toList.count '\n' = 0 := by simp [select]
  simp only [coloured, String.toList_append, List.count_append, hon, hoff, Nat.zero_add,
    Nat.add_zero]

lemma count_bold (s : String) : (bold s).toList.count '\n' = s.toList.count '\n' := by
  simp [bold, select]

lemma count_dimmed (s : String) : (dimmed s).toList.count '\n' = s.toList.count '\n' := by
  simp [dimmed, select]

end Text

/-- What a line shows of the texts in an error event. -/
def ErrorEvent.shown (_wide : Bool) (e : ErrorEvent) : List Char := e.message.toList

/-- What a line shows of the texts in an audit event. -/
def AuditEvent.shown (wide : Bool) (e : AuditEvent) : List Char :=
  e.request.path.toList ++ kept e.request.identity identityLimit wide

/-- The line feeds in the line of an event are those of the texts that it shows. -/
lemma ErrorEvent.count_line (wide : Bool) (e : ErrorEvent) :
    e.line.toList.count '\n' = (e.shown wide).count '\n' := by
  simp [line, shown, tag, count_bold, count_coloured]

lemma AuditEvent.count_line (wide : Bool) (e : AuditEvent) :
    (e.line wide).toList.count '\n' = (e.shown wide).count '\n' := by
  have htime := e.time.printable_milliText.count_lineFeed
  have hcode := (printable_signed e.response.code.toInt).count_lineFeed
  have helapsed := e.response.elapsed.printable_display.count_lineFeed
  have hidentity : (shorten e.request.identity identityLimit wide).toList.count '\n' =
      (kept e.request.identity identityLimit wide).count '\n' := count_shorten (by decide)
  simp [line, shown, tag, codeText, count_bold, count_coloured, count_dimmed, htime, hcode,
    helapsed, hidentity]

end EventLog
