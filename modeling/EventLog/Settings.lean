import EventLog.Disk
import EventLog.Limits
import EventLog.Notice
import EventLog.Toml.Grammar

/-!
# Settings

The limits of a stream can be set in a file. The file is looked for in several places; the first one
that exists counts, whatever is in it. A faulty file is an error, and no other file and no default
takes its place. Of a file that is not written as settings are, the message names the path only: where
and how it breaks the grammar is not part of this library.

* `Settings.find?`: the file that counts.
* `Settings.load`: the limits that hold, and what is told about where they come from.
-/

namespace EventLog.Settings

/-- What is wrong with a file of settings. -/
inductive Cause
  /-- It cannot be read. -/
  | unreadable (reason : String)
  /-- It is not written as settings are, or a limit is not a whole number from zero on. -/
  | malformed
  /-- It allows no line at all. -/
  | zeroLimit
  deriving DecidableEq, Repr

/-- A faulty file of settings. -/
structure Fault where
  /-- Its path. -/
  path : String
  /-- What is wrong with it. -/
  cause : Cause
  deriving DecidableEq, Repr

/-- The words of a message for a faulty file. For a malformed one they are the front of the message:
the details that a program may add about the place are left out. -/
def Fault.message (f : Fault) : String :=
  match f.cause with
  | .unreadable reason => "Failed to read config file " ++ f.path ++ ": " ++ reason
  | .malformed => "Failed to parse config file " ++ f.path ++ ": TOML parse error"
  | .zeroLimit =>
    "Invalid config file " ++ f.path ++ ": max_line_bytes must be greater than zero"

/-! ### One file -/

/-- A count of bytes among the settings: a whole number from zero on, or the standard one if there
is none. -/
def byteCount? (standard : Nat) : Option Toml.Node → Option Nat
  | none => some standard
  | some (.integer n) => if 0 ≤ n then some n.toNat else none
  | some _ => none

/-- The limits that a table sets. -/
def limits? (entries : Toml.Entries) : Option Limits := do
  let maxLine ← byteCount? Limits.standard.maxLine (entries.find? "max_line_bytes")
  let initialBuffer ←
    byteCount? Limits.standard.initialBuffer (entries.find? "initial_buffer_bytes")
  return ⟨maxLine, initialBuffer⟩

/-- The limits that a text sets. The longest line must not be empty. -/
def ofText (text : List Char) : Except Cause Limits :=
  match (Toml.parse text).bind limits? with
  | none => .error .malformed
  | some limits => if limits.maxLine = 0 then .error .zeroLimit else .ok limits

/-- The limits that a file sets. -/
def ofFile (file : Lookup) : Except Cause Limits :=
  match file.content with
  | .error reason => .error (.unreadable reason)
  | .ok bytes =>
    match Utf8.decode? bytes with
    | none => .error (.unreadable "stream did not contain valid UTF-8")
    | some text => ofText text

/-! ### The file that counts -/

/-- The path of a name in a directory. -/
def join (directory name : String) : String :=
  if directory.toList.getLast? = some '/' then directory ++ name else directory ++ "/" ++ name

/-- The directory for settings: the one that is configured, if its path starts at the root, or else
the usual place in the home directory. -/
def directory (configured home : Option String) : Option String :=
  match configured.filter (·.toList.head? = some '/') with
  | some d => some d
  | none => (home.filter (· ≠ "")).map (join · ".config")

/-- Where settings are looked for: under the given path only, or else in the directory where the
program runs and then in the directory for settings. -/
def paths (given : Option String) (settingsDirectory : Option String) : List String :=
  match given with
  | some path => [path]
  | none =>
    ".log-stream.toml" ::
      (settingsDirectory.map fun d => join (join d "log-stream") "config.toml").toList

/-- The first path under which there is something. -/
def find? (disk : Disk) (paths : List String) : Option String :=
  List.find? (fun path => (disk path).isPresent) paths

/-- What comes of looking for settings. -/
structure Loading where
  /-- What is told about it. -/
  notice : Notice
  /-- The limits, or the fault of the file that counts. -/
  result : Except Fault Limits

/-- Looks for settings. The first path under which there is something counts; if there is none, the
standard limits hold. -/
def load (disk : Disk) : List String → Loading
  | [] => ⟨.noSettings, .ok .standard⟩
  | path :: paths =>
    if (disk path).isPresent then ⟨.loading path, (ofFile (disk path)).mapError (Fault.mk path)⟩
    else load disk paths

end EventLog.Settings
