import EventLog.Report

/-!
# The program

The outer layer of the program: it reads files and streams and writes what the reports say. A log is
read while it grows, and each record is written as soon as its line is complete.
-/

namespace EventLog.Program

open CommandLine

/-- Writes something. -/
def write : Output → IO Unit
  | .out bytes => do
    let out ← IO.getStdout
    out.write ⟨bytes.toArray⟩
    out.flush
  | .err text => do (← IO.getStderr).putStr text

/-- Writes a report; the answer is how the program ends. -/
def finish (r : Report) : IO Ending := do
  r.outputs.forM write
  return r.ending

/-- A system error by its number and the words for it. -/
def systemError (code : UInt32) (details : String) : String :=
  details ++ " (os error " ++ toString code ++ ")"

/-- The number and the text of a system error. -/
def describe : IO.Error → UInt32 × String
  | .alreadyExists _ n s | .interrupted _ n s | .noFileOrDirectory _ n s | .invalidArgument _ n s
  | .permissionDenied _ n s | .resourceExhausted _ n s | .inappropriateType _ n s
  | .noSuchThing _ n s => (n, systemError n s)
  | .otherError n s | .resourceBusy n s | .resourceVanished n s | .unsupportedOperation n s
  | .hardwareFault n s | .unsatisfiedConstraints n s | .illegalOperation n s | .protocolError n s
  | .timeExpired n s => (n, systemError n s)
  | .unexpectedEof => (0, "unexpected end of file")
  | .userError s => (0, s)

/-- A system error as an error of a source. -/
def ioError (e : IO.Error) : IoError :=
  let kind := match e with
    | .interrupted _ _ _ => .interrupted
    | _ => .other
  ⟨kind, (describe e).2⟩

/-- Opens a file. -/
def openFile (path : String) : IO (Except IO.Error IO.FS.Stream) := do
  match ← (IO.FS.Handle.mk path .read).toBaseIO with
  | .ok handle => return .ok (IO.FS.Stream.ofHandle handle)
  | .error e => return .error e

/-- One read. It waits until there are as many bytes as it asks for, or no more at all. -/
def read (source : IO.FS.Stream) (count : USize) : IO ReadOutcome := do
  match ← (source.read count).toBaseIO with
  | .ok bytes => return if bytes.isEmpty then .endOfData else .data bytes.toList
  | .error e => return .failed (ioError e)

/-- All that a source hands out, as a script. -/
partial def scriptOf (source : IO.FS.Stream) : IO Script := do
  match ← read source 4096 with
  | .data bytes => return .data bytes :: (← scriptOf source)
  | .endOfData => return []
  | .failed e => return [.fail e]

/-- What is found under a path. -/
def lookup (path : String) : IO Lookup := do
  match ← openFile path with
  | .ok source => return .source (← scriptOf source)
  | .error e =>
    let (code, text) := describe e
    -- There is no such file, a part of the path is no directory, or the path is too long or a loop.
    return if code ∈ [2, 20, 36, 40] then .absent text else .locked text

/-- Goes on with a line, with as many reads as it takes. To wait for no more than the end of the
line, it asks for single bytes. -/
partial def takeLine (source : IO.FS.Stream) (feed : Feed) : IO (Find × Feed) := do
  match feed.poll with
  | .found feed => return (feed.judged, feed)
  | .blocked feed =>
    match ← read source 1 with
    | .data bytes => takeLine source (feed.supply bytes)
    | .endOfData => return (feed.atEnd, feed)
    | .failed e =>
      if e.kind = .interrupted then takeLine source feed else return (.failed e, feed)

/-- Writes the records of a stream until there are no more, and then the end of the report. -/
partial def follow {ρ : Type} [LogRecord ρ] (f : Filter) (format : Format) (source : IO.FS.Stream)
    (s : Stream ρ) : IO Ending := do
  let (found, feed) ← takeLine source s.feed.startLine
  match ({ s with feed := feed } : Stream ρ).settle found with
  | (none, s) => follow f format source s
  | (some true, s) =>
    (recordOutputs f format s.bytes s.record).forM write
    follow f format source s
  | (some false, s) => finish (endReport f s)

/-- Reads the log of a job. -/
def readLog (j : Job) (f : Filter) (limits : Limits) (source : IO.FS.Stream) : IO Ending :=
  match j.kind with
  | .errors => follow f j.format source (.new limits none : Stream ErrorEvent)
  | .audit => follow f j.format source (.new limits none : Stream AuditEvent)

/-- Does a job. -/
def run (j : Job) : IO Ending := do
  let f := j.filter (← IO.getEnv "RUST_LOG")
  let directory := Settings.directory (← IO.getEnv "XDG_CONFIG_HOME") (← IO.getEnv "HOME")
  let files ← (Settings.paths j.common.config directory).mapM fun path =>
    return (path, ← lookup path)
  let disk : Disk := fun path => (List.lookup path files).getD (.absent "")
  let loading := j.loading disk directory
  (loading.notice.outputs f).forM write
  match loading.result with
  | .error e => finish (faultReport e)
  | .ok settings =>
    let limits := j.limits settings
    match j.file with
    | none => readLog j f limits (← IO.getStdin)
    | some path =>
      match ← openFile path with
      | .ok source => readLog j f limits source
      | .error e => finish (openReport (describe e).2)

end EventLog.Program

/-- Does what the command line asks for. -/
def main (arguments : List String) : IO UInt32 := do
  let ending ← match EventLog.CommandLine.parse arguments with
    | .error e => EventLog.Program.finish e.report
    | .ok j => EventLog.Program.run j
  return UInt32.ofNat ending.code
