import EventLog.CommandLine
import EventLog.Filter
import EventLog.Settings
import EventLog.Stream.Session

/-!
# Reports

What the program writes when it is asked for something. Records go to the standard output, each on a
line of its own; notices and errors go to the standard error output.

* `Job.report`: the report of a log.
* `report`: the report of a whole command line.
-/

namespace EventLog

open Ascii CommandLine

/-- Something that the program writes. -/
inductive Output
  /-- To the standard output. -/
  | out (bytes : Bytes)
  /-- To the standard error output. -/
  | err (text : String)
  deriving DecidableEq, Repr

/-- How the program ends. -/
inductive Ending
  /-- All went well. -/
  | success
  /-- The log could not be read to its end. -/
  | failure
  /-- The command line made no sense. -/
  | misuse
  deriving DecidableEq, Repr

/-- The exit code of the program. -/
def Ending.code : Ending → Nat
  | .success => 0
  | .failure => 1
  | .misuse => 2

/-- What the program writes, in order, and how it ends. -/
structure Report where
  /-- What it writes. -/
  outputs : List Output
  /-- How it ends. -/
  ending : Ending
  deriving DecidableEq, Repr

namespace Output

/-- What goes to the standard output. -/
def outBytes : Output → Bytes
  | .out bytes => bytes
  | .err _ => []

/-- What goes to the standard error output. -/
def errText : Output → String
  | .out _ => ""
  | .err text => text

/-- A line of text on the standard error output. -/
def errLine (text : String) : Output := .err (text ++ "\n")

/-- A line of bytes on the standard output. -/
def outLine (bytes : Bytes) : Output := .out (bytes ++ [lineFeed])

end Output

namespace Report

/-- All that goes to the standard output. -/
def out (r : Report) : Bytes := r.outputs.flatMap Output.outBytes

/-- All that goes to the standard error output. -/
def err (r : Report) : String := String.join (r.outputs.map Output.errText)

/-- A report with something written before it. -/
def after (outputs : List Output) (r : Report) : Report :=
  { r with outputs := outputs ++ r.outputs }

end Report

/-! ### The parts of a report -/

/-- What a notice writes: a line, if the filter lets it pass. -/
def Notice.outputs (f : Filter) (n : Notice) : List Output :=
  if f.admits n then [.errLine n.line] else []

/-- What a record writes. -/
def recordOutputs {ρ : Type} [LogRecord ρ] (f : Filter) (format : Format) (line : Bytes)
    (record : ρ) : List Output :=
  match format with
  | .raw => [.outLine line]
  | .text wide => [.outLine (utf8 (LogRecord.line wide record))]
  | .json =>
    match LogRecord.document record with
    | .ok document => [.outLine (Utf8.encode document)]
    | .error e => (Notice.unwritable e).outputs f

/-- What the failure of a stream writes. -/
def Failure.output (e : Failure) : Output :=
  .errLine (tag .red "[STREAM]" ++ " " ++ e.message)

/-- The report of a stream without further records. -/
def endReport {ρ : Type} (f : Filter) (s : Stream ρ) : Report :=
  let told := s.notices.flatMap (Notice.outputs f) ++ (Notice.finished s.eventsRead).outputs f
  match s.err with
  | none => ⟨told, .success⟩
  | some e => ⟨told ++ [e.output], .failure⟩

/-- The report of the log that a source holds. -/
def logReport (ρ : Type) [LogRecord ρ] (f : Filter) (format : Format) (limits : Limits)
    (source : Script) : Report :=
  let (records, last) := (Session.new limits none source : Session ρ).drain
  (endReport f last.stream).after (records.flatMap fun (line, record) =>
    recordOutputs f format line record)

/-- The report of faulty settings. -/
def faultReport (e : Settings.Fault) : Report :=
  ⟨[.errLine e.message], .failure⟩

/-- The report of a log that cannot be opened. -/
def openReport (reason : String) : Report :=
  ⟨[.errLine ("Failed to open event log: " ++ reason)], .failure⟩

/-! ### A job -/

/-- What surrounds the program. -/
structure Surroundings where
  /-- The files. -/
  disk : Disk
  /-- The standard input. -/
  input : Script
  /-- The directory for settings. -/
  settingsDirectory : Option String
  /-- The text of a filter of notices. -/
  filter : Option String

namespace CommandLine.Job

/-- The filter of a job: a filter that is given as a text and makes sense, or else that of the
verbosity. -/
def filter (j : Job) (text : Option String) : Filter :=
  (text.bind Filter.parse).getD (.ofVerbosity j.verbosity)

/-- What comes of looking for the settings of a job. -/
def loading (j : Job) (disk : Disk) (settingsDirectory : Option String) : Settings.Loading :=
  Settings.load disk (Settings.paths j.common.config settingsDirectory)

/-- The limits of a job: those of its settings, but for the longest line if the job names one. -/
def limits (j : Job) (settings : Limits) : Limits :=
  { settings with maxLine := j.common.maxLine.getD settings.maxLine }

/-- The source that a job reads from, or the reason why it cannot be opened. -/
def source (j : Job) (disk : Disk) (input : Script) : Except String Script :=
  match j.file with
  | none => .ok input
  | some path =>
    match disk path with
    | .absent reason => .error reason
    | .locked reason => .error reason
    | .source script => .ok script

/-- The report of a source that has been opened. -/
def sourceReport (j : Job) (f : Filter) (limits : Limits) (source : Script) : Report :=
  match j.kind with
  | .errors => logReport ErrorEvent f j.format limits source
  | .audit => logReport AuditEvent f j.format limits source

/-- The report of a job. The settings come first; only if they are in order is the log opened. -/
def report (j : Job) (s : Surroundings) : Report :=
  let f := j.filter s.filter
  let loading := j.loading s.disk s.settingsDirectory
  let rest : Report := match loading.result with
    | .error e => faultReport e
    | .ok settings =>
      match j.source s.disk s.input with
      | .error reason => openReport reason
      | .ok source => j.sourceReport f (j.limits settings) source
  rest.after (loading.notice.outputs f)

end CommandLine.Job

/-! ### The whole program -/

/-- The name and the version of the program. -/
def versionText : String := "log-stream 0.1.0"

/-- An explanation of the command line. -/
def helpText : String :=
  "Usage: log-stream [-v]... [--config PATH] [--max-line-bytes COUNT] errors|audit\n" ++
  "         [FILE] [--raw | --json] [-w | --wide] [--config PATH] [--max-line-bytes COUNT]"

/-- The report where no log is to be read. -/
def CommandLine.Refusal.report : Refusal → Report
  | .version => ⟨[.outLine (utf8 versionText)], .success⟩
  | .help => ⟨[.outLine (utf8 helpText)], .success⟩
  | .misuse => ⟨[.errLine helpText], .misuse⟩

/-- The report of a command line. -/
def report (s : Surroundings) (arguments : List String) : Report :=
  match CommandLine.parse arguments with
  | .error e => e.report
  | .ok j => j.report s

end EventLog
