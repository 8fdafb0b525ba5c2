import EventLog.Proofs.Report.FedBack

/-!
# Logs in two parts

Nothing passes from one line of a log to the next. If the first part of a log ends with a line feed,
the report of the whole is that of the first part followed by that of the second, as long as the
first part meets no failure; if it meets one, the second part does not matter at all.

* `Log.read_append`: the reading of a log in two parts.
* `report_in_parts`: its report.
-/

namespace EventLog

open Ascii CommandLine

/-! ### Readings -/

namespace Log

variable {limit : ℕ} {ending : SourceEnd}

/-- The lines of a log in two parts are those of the first part and then those of the second, if no
line stretches over both. -/
lemma contents_append {front : Bytes} (h : ¬ Unterminated front) (rest : Bytes) :
    contents limit ending (front ++ rest) =
      contents limit .endOfData front ++ contents limit ending rest := by
  induction hn : front.length using Nat.strong_induction_on generalizing front with
  | _ n ih =>
    rcases free_or_terminated front with hfree | ⟨line, more, hfree, rfl⟩
    · -- a part without a line feed has no line of its own
      obtain rfl : front = [] := by
        by_contra hne
        exact h (unterminated_free hfree hne)
      rfl
    · have hmore : ¬ Unterminated more := fun hu => h ((unterminated_append line more).2 hu)
      have hlt : more.length < n := by
        rw [← hn, List.length_append, List.length_cons]
        omega
      rw [List.append_assoc, List.cons_append, contents_terminated hfree,
        contents_terminated hfree, ih _ hlt hmore rfl, List.cons_append]

lemma lines_append {front : Bytes} (h : ¬ Unterminated front) (rest : Bytes) :
    lines limit ending (front ++ rest) =
      lines limit .endOfData front ++ lines limit ending rest := by
  rw [lines, contents_append h, List.filter_append]
  rfl

variable {ρ : Type}

/-- A reading and another one after it, unless the first one has met a failure. -/
def Reading.andThen (r r' : Reading ρ) : Reading ρ :=
  if r.failure = none then ⟨r.records ++ r'.records, r'.failure⟩ else r

variable [LogRecord ρ]

lemma readLines_append (a b : List Bytes) :
    readLines (ρ := ρ) limit ending (a ++ b) =
      (readLines limit .endOfData a).andThen (readLines limit ending b) := by
  induction a with
  | nil => rfl
  | cons c a ih =>
    simp only [List.cons_append, readLines]
    cases judge (ρ := ρ) limit c with
    | error e => rfl
    | ok v =>
      simp only [ih, Reading.andThen]
      split_ifs <;> rfl

/-- **The reading of a log in two parts** is that of the first part and then that of the second. -/
theorem read_append {front : Bytes} (h : ¬ Unterminated front) (rest : Bytes) :
    read (ρ := ρ) limit ending (front ++ rest) =
      (read limit .endOfData front).andThen (read limit ending rest) := by
  rw [read, lines_append h, readLines_append]
  rfl

end Log

/-! ### Reports -/

/-- A report ends with the message of a failure, or with none. -/
structure Report.EndsWith (r : Report) (message : Option String) : Prop where
  /-- This message is printed, and no other one. -/
  printed : ∀ text, .err (failureText text) ∈ r.outputs ↔ message = some text
  /-- The exit code tells whether there is a message. -/
  code : r.ending.code = if message = none then 0 else 1

/-- A report ends as another one does: with the same message of a failure and the exit code 1, or
without a message and with the exit code 0. -/
def Report.EndsAs (r r' : Report) : Prop := ∃ message, r.EndsWith message ∧ r'.EndsWith message

section Parts

variable {ρ : Type} [LogRecord ρ] {format : Format}

namespace ViewOf

variable {a b : List (Bytes × ρ)} {failure failure₁ failure₂ : Option Failure} {r r₁ r₂ : Report}

lemma out_unique (h : ViewOf a failure format r) (h₁ : ViewOf a failure₁ format r₁) :
    r.out = r₁.out := by
  obtain ⟨texts₁, -, -, hshows₁, hout₁, -⟩ := h₁.printed
  rw [h.out_of_shows hshows₁, hout₁]

lemma out_append (h : ViewOf (a ++ b) failure format r) (h₁ : ViewOf a failure₁ format r₁)
    (h₂ : ViewOf b failure₂ format r₂) : r.out = r₁.out ++ r₂.out := by
  obtain ⟨texts₁, -, -, hshows₁, hout₁, -⟩ := h₁.printed
  obtain ⟨texts₂, -, -, hshows₂, hout₂, -⟩ := h₂.printed
  rw [h.out_of_shows (List.rel_append hshows₁ hshows₂), hout₁, hout₂, logOf, List.flatMap_append]
  rfl

lemma endsWith (h : ViewOf a failure format r) : r.EndsWith (failure.map Failure.message) := by
  refine ⟨h.failures, ?_⟩
  simp only [h.code, Option.map_eq_none_iff]

lemma endsAs (h : ViewOf a failure format r) (h₁ : ViewOf b failure format r₁) : r.EndsAs r₁ :=
  ⟨_, h.endsWith, h₁.endsWith⟩

end ViewOf

lemma reporting_in_parts {limit : ℕ} {ending : SourceEnd} {front rest : Bytes} {r r₁ : Report}
    (hfront : ¬ Log.Unterminated front) (h₁ : Reporting ρ format limit front .endOfData r₁)
    (h : Reporting ρ format limit (front ++ rest) ending r) :
    (r₁.ending.code = 0 → ∀ r₂, Reporting ρ format limit rest ending r₂ →
        r.out = r₁.out ++ r₂.out ∧ r.EndsAs r₂) ∧
      (r₁.ending.code ≠ 0 → r.out = r₁.out ∧ r.EndsAs r₁) := by
  have hview := h.view
  have hcode := h₁.view.code
  rw [Log.read_append hfront, Log.Reading.andThen] at hview
  by_cases hnone : (Log.read (ρ := ρ) limit .endOfData front).failure = none
  · rw [if_pos hnone] at hview hcode
    exact ⟨fun _ r₂ h₂ => ⟨hview.out_append h₁.view h₂.view, hview.endsAs h₂.view⟩,
      fun hne => absurd hcode hne⟩
  · rw [if_neg hnone] at hview hcode
    refine ⟨fun hzero => ?_, fun _ => ⟨hview.out_unique h₁.view, hview.endsAs h₁.view⟩⟩
    rw [hcode] at hzero
    cases hzero

end Parts

variable {kind : LogKind} {format : Format} {limit : ℕ} {front rest : Bytes} {ending : SourceEnd}
  {r r₁ : Report}

/-- **Reporting a log in two parts.** Let the first part be empty or end with a line feed, and let
it be reported alone, in any format. If it ends without a failure, the report of the whole log
prints what is printed for the first part and then what is printed for the second, and it ends as
the report of the second part does. If it ends with a failure, the report of the whole log prints
what is printed for the first part and ends with this failure, whatever the second part is. -/
theorem report_in_parts (hl : limit ≤ 0xFFFFFFFFFFFFFFFD) (hfront : ¬ Log.Unterminated front)
    (h₁ : Reports kind format limit front .endOfData r₁)
    (h : Reports kind format limit (front ++ rest) ending r) :
    (r₁.ending.code = 0 → ∀ r₂, Reports kind format limit rest ending r₂ →
        r.out = r₁.out ++ r₂.out ∧ r.EndsAs r₂) ∧
      (r₁.ending.code ≠ 0 → r.out = r₁.out ∧ r.EndsAs r₁) := by
  cases kind with
  | errors =>
    obtain ⟨hgood, hbad⟩ :=
      reporting_in_parts hfront (reporting_errors hl h₁) (reporting_errors hl h)
    exact ⟨fun hzero r₂ h₂ => hgood hzero r₂ (reporting_errors hl h₂), hbad⟩
  | audit =>
    obtain ⟨hgood, hbad⟩ :=
      reporting_in_parts hfront (reporting_audit hl h₁) (reporting_audit hl h)
    exact ⟨fun hzero r₂ h₂ => hgood hzero r₂ (reporting_audit hl h₂), hbad⟩

/-- A log whose first part ends with an empty line and whose second part ends with a line that is no
record, and a log whose first part is no record. -/
theorem report_in_parts_broken :
    let surroundings (log : Bytes) : Surroundings := ⟨fun _ => .absent "", [.data log], none, none⟩
    let reportOf (log : Bytes) := report (surroundings log) ["errors", "--json"]
    let front := utf8 "[\"a\"]\r\n\n"
    let rest := utf8 "[\"b\"]\nx"
    ¬ Log.Unterminated front ∧ Reports .errors .json 65536 front .endOfData (reportOf front) ∧
      Reports .errors .json 65536 rest .endOfData (reportOf rest) ∧
      Reports .errors .json 65536 (front ++ rest) .endOfData (reportOf (front ++ rest)) ∧
      (reportOf front).ending.code = 0 ∧
      (reportOf (front ++ rest)).out =
        utf8 "\x7b\"message\":\"a\"\x7d\n" ++ utf8 "\x7b\"message\":\"b\"\x7d\n" ∧
      (reportOf (front ++ rest)).EndsAs (reportOf rest) ∧
      .err (failureText "Failed to decode event: expected value at line 1 column 1") ∈
        (reportOf (front ++ rest)).outputs ∧
      (reportOf [lineFeed, 0x78, lineFeed]).ending.code ≠ 0 ∧
      (reportOf ([lineFeed, 0x78, lineFeed] ++ front)).out = [] := by
  intro surroundings reportOf front rest
  have hreports : ∀ log : Bytes, Reports .errors .json 65536 log .endOfData (reportOf log) := by
    intro log
    have hsource : Script.Delivers [.data log] (log ++ []) .endOfData := .data log .nil
    rw [List.append_nil] at hsource
    exact ⟨surroundings log, ["errors", "--json"], .standard, [.data log],
      ⟨⟨.errors, none, .json, .empty, 0⟩, .standard, by decide +kernel, rfl, rfl, rfl, rfl, rfl⟩,
      rfl, hsource, rfl⟩
  have hfront : ¬ Log.Unterminated front := by decide +kernel
  have hgood : (reportOf front).ending.code = 0 := by decide +kernel
  have hbad : (reportOf [lineFeed, 0x78, lineFeed]).ending.code ≠ 0 := by decide +kernel
  obtain ⟨hout, hends⟩ := (report_in_parts (by decide) hfront (hreports front)
    (hreports (front ++ rest))).1 hgood _ (hreports rest)
  obtain ⟨hnothing, -⟩ := (report_in_parts (by decide) (by decide +kernel)
    (hreports [lineFeed, 0x78, lineFeed]) (hreports ([lineFeed, 0x78, lineFeed] ++ front))).2 hbad
  obtain ⟨message, hwhole, hrest⟩ := hends
  have hmessage : message = some "Failed to decode event: expected value at line 1 column 1" :=
    (hrest.printed _).1 (by decide +kernel)
  refine ⟨hfront, hreports front, hreports rest, hreports (front ++ rest), hgood, hout.trans ?_,
    ⟨message, hwhole, hrest⟩, (hwhole.printed _).2 hmessage, hbad, hnothing.trans ?_⟩
  · decide +kernel
  · decide +kernel

end EventLog
