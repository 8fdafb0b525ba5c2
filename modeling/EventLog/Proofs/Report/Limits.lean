import EventLog.Proofs.Report
import EventLog.Proofs.Settings

/-!
# The limits of a run

The limits of a run are those of its settings, but a command line may name another limit for lines.
That is a limit like any other in its place and changes nothing else: the file of settings is the
same, and if it is faulty, that ends the run.

* `CommandLine.parse_withMaxLine`: a command line that names a limit in addition.
* `CommandLine.Job.report_eq`: the limits of a report.
* `settings_precedence`: which limits hold.
* `run_limit_pos_iff`: when that is a limit of zero.
-/

namespace EventLog

open CommandLine Text

/-! ### Naming a limit -/

namespace CommandLine

/-- The options with a limit for lines. -/
def Common.withMaxLine (c : Common) (n : ℕ) : Common := { c with maxLine := some n }

/-- A job that names a limit for lines. -/
def Job.withMaxLine (j : Job) (n : ℕ) : Job := { j with common := j.common.withMaxLine n }

/-- The options before the name of the kind, with a limit for lines. -/
def RunPart.withMaxLine (r : RunPart) (n : ℕ) : RunPart :=
  { r with common := r.common.withMaxLine n }

lemma set?_withMaxLine {c c' : Common} {name value : String} (h : c.set? name value = some c')
    (hc : c'.maxLine = none) (n : ℕ) :
    c.maxLine = none ∧ (c.withMaxLine n).set? name value = some (c'.withMaxLine n) := by
  unfold Common.set? at h ⊢
  split at h
  · split_ifs at h with hconfig
    obtain ⟨path, hpath, rfl⟩ := Option.map_eq_some_iff.1 h
    refine ⟨hc, ?_⟩
    rw [hpath]
    exact if_neg hconfig
  · split_ifs at h
    obtain ⟨m, -, rfl⟩ := Option.map_eq_some_iff.1 h
    cases hc
  · cases h

lemma finish_value {r : RunPart} {argument name v : String} {value : Option String}
    {common : Common} {rest rest' : List String}
    (harg : Argument.ofString argument = .long name value)
    (hhelp : name = "help" → value = none → False)
    (hversion : name = "version" → value = none → False)
    (hverbose : name = "verbose" → value = none → False)
    (hvalue : optionValue? value rest = some (v, rest'))
    (hset : r.common.set? name v = some common) :
    RunPart.finish r (argument :: rest) = RunPart.finish { r with common := common } rest' := by
  rw [RunPart.finish]
  split
  · next h => cases harg.symm.trans h
  · next h => cases harg.symm.trans h
  · next h => cases harg.symm.trans h
  · next h =>
    cases harg.symm.trans h
    exact (hhelp rfl rfl).elim
  · next h =>
    cases harg.symm.trans h
    exact (hversion rfl rfl).elim
  · next h =>
    cases harg.symm.trans h
    exact (hverbose rfl rfl).elim
  · next h =>
    cases harg.symm.trans h
    split
    · next h =>
      cases hvalue.symm.trans h
      rw [hset]
    · next h => cases hvalue.symm.trans h

/-- A job that leaves the limit open is the same job with a limit before the name of the kind. -/
lemma job_withMaxLine {r : RunPart} {kind : LogKind} {p : LogPart} {j : Job}
    (h : r.job kind p = .ok j) (hj : j.common.maxLine = none) (n : ℕ) :
    r.common.maxLine = none ∧ (r.withMaxLine n).job kind p = .ok (j.withMaxLine n) := by
  unfold RunPart.job at h ⊢
  cases hf : sensible p.log.format? with
  | error e =>
    rw [hf] at h
    cases h
  | ok format =>
    rw [hf] at h
    cases h
    have hor : (p.common.maxLine <|> r.common.maxLine) = none := hj
    cases hp : p.common.maxLine with
    | none =>
      rw [hp] at hor
      refine ⟨hor, ?_⟩
      simp [Except.map, Common.override, RunPart.withMaxLine, Common.withMaxLine, Job.withMaxLine,
        hp]
    | some m =>
      rw [hp] at hor
      cases hor

/-- What comes after a limit is read as it would be without. -/
lemma finish_withMaxLine {r : RunPart} {arguments : List String} {j : Job}
    (h : RunPart.finish r arguments = .ok j) (hj : j.common.maxLine = none) (n : ℕ) :
    r.common.maxLine = none ∧
      RunPart.finish (r.withMaxLine n) arguments = .ok (j.withMaxLine n) := by
  fun_induction RunPart.finish r arguments with
  | case1 r => cases h
  | case2 r s rest harg => cases h
  | case3 r s rest harg kind hkind =>
    rw [RunPart.finish]
    simp only [harg, hkind]
    cases hp : LogPart.add ⟨.empty, .empty⟩ rest with
    | error e =>
      rw [hp] at h
      cases h
    | ok p =>
      rw [hp] at h
      exact job_withMaxLine h hj n
  | case4 r s rest harg hkind => cases h
  | case5 r s rest letters harg m hm ih =>
    obtain ⟨hr, hrest⟩ := ih h
    refine ⟨hr, ?_⟩
    rw [RunPart.finish]
    simp only [harg, RunPart.withMaxLine, hm]
    exact hrest
  | case6 r s rest letters harg e he => cases h
  | case7 r s rest harg => cases h
  | case8 r s rest harg => cases h
  | case9 r s rest harg ih =>
    obtain ⟨hr, hrest⟩ := ih h
    refine ⟨hr, ?_⟩
    rw [RunPart.finish]
    simp only [harg]
    exact hrest
  | case10 r s rest name value hhelp hversion hverbose harg v rest' hvalue common hset ih =>
    obtain ⟨hcommon, hrest⟩ := ih h
    obtain ⟨hr, hset'⟩ := set?_withMaxLine hset hcommon n
    refine ⟨hr, ?_⟩
    rw [finish_value harg hhelp hversion hverbose hvalue hset']
    exact hrest
  | case11 r s rest name value hhelp hversion hverbose harg v rest' hvalue hset => cases h
  | case12 r s rest name value hhelp hversion hverbose harg hvalue => cases h

/-- **A command line with a limit in addition** asks for the same job with that limit. -/
theorem parse_withMaxLine {arguments : List String} {j : Job} (h : parse arguments = .ok j)
    (hj : j.common.maxLine = none) {n : ℕ} (hn : n < 0x10000000000000000) :
    parse ("--max-line-bytes" :: String.ofList (digits n) :: arguments) =
      .ok (j.withMaxLine n) := by
  have harg : Argument.ofString "--max-line-bytes" = .long "max-line-bytes" none := by
    decide +kernel
  have hvalue : optionValue? none (String.ofList (digits n) :: arguments) =
      some (String.ofList (digits n), arguments) := if_pos (ofString_digits n)
  have hset : Common.empty.set? "max-line-bytes" (String.ofList (digits n)) =
      some (Common.empty.withMaxLine n) := by
    simp [Common.set?, Common.empty, Common.withMaxLine, count?_digits hn]
  rw [parse, finish_value harg (by simp) (by simp) (by simp) hvalue hset]
  exact (finish_withMaxLine h hj n).2

end CommandLine

/-! ### The limits that hold -/

namespace CommandLine.Job

/-- The limits of a job: those of its settings, but for the longest line if the job names one. -/
def configuration (j : Job) (s : Surroundings) : Except Settings.Fault Limits :=
  (j.loading s.disk s.settingsDirectory).result.map j.limits

/-- The report of a job whose settings are in order, if its limits are these. -/
def readReport (j : Job) (s : Surroundings) (limits : Limits) : Report :=
  match j.source s.disk s.input with
  | .error reason => openReport reason
  | .ok source => j.sourceReport (j.filter s.filter) limits source

/-- **A report is that of faulty settings**, or it has the limits of the job. -/
lemma report_eq (j : Job) (s : Surroundings) : ∃ before, Told before ∧
    j.report s = (match j.configuration s with
      | .error e => faultReport e
      | .ok limits => j.readReport s limits).after before := by
  refine ⟨_, told_outputs (j.filter s.filter) (j.loading s.disk s.settingsDirectory).notice, ?_⟩
  unfold report configuration
  cases h : (j.loading s.disk s.settingsDirectory).result with
  | error e => simp only [h, Except.map]
  | ok settings =>
    simp only [h, Except.map]
    rfl

lemma configuration_eq_ok {j : Job} {s : Surroundings} {l : Limits} :
    j.configuration s = .ok l ↔ ∃ settings,
      (j.loading s.disk s.settingsDirectory).result = .ok settings ∧ j.limits settings = l := by
  unfold configuration
  cases (j.loading s.disk s.settingsDirectory).result <;> simp [Except.map]

lemma configuration_eq_error {j : Job} {s : Surroundings} {e : Settings.Fault} :
    j.configuration s = .error e ↔ (j.loading s.disk s.settingsDirectory).result = .error e := by
  unfold configuration
  cases (j.loading s.disk s.settingsDirectory).result <;> simp [Except.map]

/-- A limit that a job names takes the place of the one in its settings. -/
lemma configuration_withMaxLine (j : Job) (s : Surroundings) (n : ℕ) :
    (j.withMaxLine n).configuration s =
      (j.configuration s).map fun l => { l with maxLine := n } := by
  have hloading : (j.withMaxLine n).loading s.disk s.settingsDirectory =
      j.loading s.disk s.settingsDirectory := rfl
  unfold configuration
  rw [hloading]
  cases (j.loading s.disk s.settingsDirectory).result <;> rfl

end CommandLine.Job

/-- What becomes of a command line that asks for a job. -/
structure Configured (s : Surroundings) (arguments : List String) (j : Job) : Prop where
  /-- The limits are those of the settings, but for the longest line if the job names one. -/
  limits : ∀ l, j.configuration s = .ok l ↔ ∃ settings : Limits,
    (j.loading s.disk s.settingsDirectory).result = .ok settings ∧
      l.maxLine = j.common.maxLine.getD settings.maxLine ∧
      l.initialBuffer = settings.initialBuffer
  /-- With these limits the log is read. -/
  reads : ∀ l, j.configuration s = .ok l →
    ∃ before, Told before ∧ report s arguments = (j.readReport s l).after before
  /-- Faulty settings end the run, whatever limit the command line names: the message is printed on
  the standard error output, after notices alone, and the exit code is 1. -/
  fault : ∀ e, (j.loading s.disk s.settingsDirectory).result = .error e →
    j.configuration s = .error e ∧ (report s arguments).ending.code = 1 ∧
      ∃ before, Told before ∧ (report s arguments).outputs = before ++ [.err (e.message ++ "\n")]
  /-- A command line that names no limit may name one in addition. That changes the longest line
  and nothing else; in particular, faulty settings have the same fault. -/
  override : j.common.maxLine = none → ∀ n < 0x10000000000000000, ∃ j',
    CommandLine.parse ("--max-line-bytes" :: String.ofList (digits n) :: arguments) = .ok j' ∧
      j'.configuration s = (j.configuration s).map fun l => { l with maxLine := n }

lemma configured {s : Surroundings} {arguments : List String} {j : Job}
    (h : CommandLine.parse arguments = .ok j) : Configured s arguments j := by
  have hreport : report s arguments = j.report s := by
    rw [report, h]
  obtain ⟨before, hbefore, heq⟩ := j.report_eq s
  refine ⟨fun l => ?_, fun l hl => ?_, fun e he => ?_, fun hj n hn => ?_⟩
  · rw [Job.configuration_eq_ok]
    constructor
    · rintro ⟨settings, hsettings, rfl⟩
      exact ⟨settings, hsettings, rfl, rfl⟩
    · rintro ⟨settings, hsettings, hmax, hinitial⟩
      refine ⟨settings, hsettings, ?_⟩
      rw [Job.limits, ← hmax, ← hinitial]
  · rw [hl] at heq
    exact ⟨before, hbefore, hreport.trans heq⟩
  · have hconfig := Job.configuration_eq_error.2 he
    rw [hconfig] at heq
    rw [hreport, heq]
    exact ⟨hconfig, rfl, before, hbefore, rfl⟩
  · exact ⟨_, parse_withMaxLine h hj hn, j.configuration_withMaxLine s n⟩

/-- **Which limits hold.** The first file under the paths for settings decides: if it is faulty,
that is an error; if it is not, each limit is the one that the file sets or else the standard one.
Only where there is no file do the standard limits hold without one. A command line may name another
limit for lines, and that is all it changes. -/
theorem settings_precedence :
    (∀ (disk : Disk) (paths : List String), Settings.Decided disk paths) ∧
      ∀ (s : Surroundings) (arguments : List String) (j : Job),
        CommandLine.parse arguments = .ok j → Configured s arguments j :=
  ⟨Settings.decided, fun _ _ _ h => configured h⟩

/-- A file that allows no line stands before one that is in order. It is not passed over, and a
limit on the command line makes no difference; the other file counts where it is named. -/
theorem settings_precedence_zero :
    let disk : Disk := fun path =>
      if path = ".log-stream.toml" then .source [.data (utf8 "max_line_bytes = 0\n")]
      else if path = "/home/log-stream/config.toml" then
        .source [.data (utf8 "initial_buffer_bytes = 512\n")]
      else .absent ""
    let s : Surroundings := ⟨disk, [], some "/home", none⟩
    (report s ["--max-line-bytes", "20", "errors"]).ending.code = 1 ∧
      (∃ before, Told before ∧ (report s ["--max-line-bytes", "20", "errors"]).outputs = before ++
        [.err ("Invalid config file .log-stream.toml: " ++
          "max_line_bytes must be greater than zero\n")]) ∧
      ∃ j, CommandLine.parse ["--max-line-bytes", "20", "errors", "--config",
          "/home/log-stream/config.toml"] = .ok j ∧
        j.configuration s = .ok ⟨20, 512⟩ := by
  intro disk s
  have hfault : Settings.Faulty (disk ".log-stream.toml") .zeroLimit :=
    Settings.ofFile_eq_error.1 (by decide +kernel)
  have hload : (Settings.load disk (Settings.paths none (some "/home"))).result =
      .error ⟨".log-stream.toml", .zeroLimit⟩ :=
    ((settings_precedence.1 disk _).fault _).2 ⟨by decide +kernel, hfault⟩
  have hsets : Settings.Sets (disk "/home/log-stream/config.toml") ⟨65536, 512⟩ :=
    Settings.ofFile_eq_ok.1 (by decide +kernel)
  have hload' : (Settings.load disk ["/home/log-stream/config.toml"]).result = .ok ⟨65536, 512⟩ :=
    ((settings_precedence.1 disk _).limits _).2 (Or.inr ⟨_, by decide +kernel, hsets⟩)
  have hparse : CommandLine.parse ["--max-line-bytes", "20", "errors"] =
      .ok ⟨.errors, none, .text false, ⟨none, some 20⟩, 0⟩ := by decide +kernel
  have hparse' : CommandLine.parse ["--max-line-bytes", "20", "errors", "--config",
      "/home/log-stream/config.toml"] =
      .ok ⟨.errors, none, .text false, ⟨some "/home/log-stream/config.toml", some 20⟩, 0⟩ := by
    decide +kernel
  obtain ⟨-, hcode, before, hbefore, houtputs⟩ :=
    (settings_precedence.2 s _ _ hparse).fault _ hload
  have htext : Settings.Fault.message ⟨".log-stream.toml", .zeroLimit⟩ ++ "\n" =
      "Invalid config file .log-stream.toml: " ++ "max_line_bytes must be greater than zero\n" := by
    decide +kernel
  rw [htext] at houtputs
  exact ⟨hcode, ⟨before, hbefore, houtputs⟩, _, hparse',
    ((settings_precedence.2 s _ _ hparse').limits _).2 ⟨_, hload', rfl, rfl⟩⟩

/-! ### Limits of zero -/

/-- **When a run has a limit of zero.** The settings never allow that lines have no bytes at all,
and the report has the limits of the configuration; so the limit of a run is positive exactly if the
command line does not name zero. -/
theorem run_limit_pos_iff {s : Surroundings} {arguments : List String} {j : Job} {limits : Limits}
    (hparse : CommandLine.parse arguments = .ok j) (h : j.configuration s = .ok limits) :
    (0 < limits.maxLine ↔ j.common.maxLine ≠ some 0) ∧
      ∃ before, Told before ∧ report s arguments = (j.readReport s limits).after before := by
  have hc := configured (s := s) hparse
  refine ⟨?_, hc.reads limits h⟩
  obtain ⟨settings, hsettings, hmax, -⟩ := (hc.limits limits).1 h
  have hpositive := (Settings.decided _ _).positive settings hsettings
  rw [hmax]
  cases j.common.maxLine with
  | none => simpa using hpositive
  | some n => simp [Nat.pos_iff_ne_zero]

/-- The limit of a file, and a limit of zero that takes its place. -/
theorem run_limit_pos_iff_file :
    let disk : Disk := fun path =>
      if path = ".log-stream.toml" then .source [.data (utf8 "max_line_bytes = 1\n")]
      else .absent ""
    let s : Surroundings := ⟨disk, [], none, none⟩
    (∃ j limits, CommandLine.parse ["audit"] = .ok j ∧ j.configuration s = .ok limits ∧
      0 < limits.maxLine) ∧
      ∃ j limits,
        CommandLine.parse ["--max-line-bytes", "1", "audit", "--max-line-bytes=0"] = .ok j ∧
          j.configuration s = .ok limits ∧ ¬ 0 < limits.maxLine := by
  intro disk s
  have hparse : CommandLine.parse ["audit"] = .ok ⟨.audit, none, .text false, .empty, 0⟩ := by
    decide +kernel
  have hparse' : CommandLine.parse ["--max-line-bytes", "1", "audit", "--max-line-bytes=0"] =
      .ok ⟨.audit, none, .text false, ⟨none, some 0⟩, 0⟩ := by
    decide +kernel
  have hconfig : Job.configuration ⟨.audit, none, .text false, .empty, 0⟩ s = .ok ⟨1, 4096⟩ := by
    decide +kernel
  have hconfig' : Job.configuration ⟨.audit, none, .text false, ⟨none, some 0⟩, 0⟩ s =
      .ok ⟨0, 4096⟩ := by
    decide +kernel
  exact ⟨⟨_, _, hparse, hconfig, (run_limit_pos_iff hparse hconfig).1.2 (by simp [Common.empty])⟩,
    _, _, hparse', hconfig', fun h => (run_limit_pos_iff hparse' hconfig').1.1 h rfl⟩

/-- A run whose lines must not have any bytes, so that it stops at the first. -/
theorem run_limit_zero :
    let s : Surroundings :=
      ⟨fun _ => .absent "", [.data (utf8 "\x7b\"message\":\"x\"\x7d\n")], none, none⟩
    let arguments := ["errors", "--max-line-bytes", "0"]
    (∃ j limits, CommandLine.parse arguments = .ok j ∧ j.configuration s = .ok limits ∧
      ¬ 0 < limits.maxLine) ∧
      (report s arguments).outputs.getLast? =
        some (.err (failureText "Event line exceeds 0 bytes")) := by
  intro s arguments
  have hparse : CommandLine.parse arguments =
      .ok ⟨.errors, none, .text false, ⟨none, some 0⟩, 0⟩ := by
    decide +kernel
  exact ⟨⟨_, _, hparse, rfl, Nat.lt_irrefl 0⟩, by decide +kernel⟩

end EventLog
