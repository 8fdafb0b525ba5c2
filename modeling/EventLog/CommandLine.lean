import EventLog.Text.Digits

/-!
# The command line

The command line names the kind of a log, the file that holds it and how its records are to be
written. Before the name of the kind stand options that concern the whole run, after it the options
for this log; the file of settings and the longest line can be set in both places, and the latter
counts. `--` ends the options.

* `CommandLine.parse`: the job that the arguments describe, or why there is none.
-/

namespace EventLog.CommandLine

open Text

/-- The kinds of logs. -/
inductive LogKind
  /-- Error events. -/
  | errors
  /-- Audit events. -/
  | audit
  deriving DecidableEq, Repr

/-- How records are written. -/
inductive Format
  /-- As lines of text, perhaps wide. -/
  | text (wide : Bool)
  /-- As documents. -/
  | json
  /-- As they stand in the log. -/
  | raw
  deriving DecidableEq, Repr

/-- Options that can stand before and after the name of the kind. -/
structure Common where
  /-- The file of settings. -/
  config : Option String
  /-- The longest line, in bytes. -/
  maxLine : Option Nat
  deriving DecidableEq, Repr

/-- No options. -/
def Common.empty : Common := ⟨none, none⟩

/-- The options of two places; the later ones count. -/
def Common.override (earlier later : Common) : Common :=
  ⟨later.config <|> earlier.config, later.maxLine <|> earlier.maxLine⟩

/-- The options for a log. -/
structure LogOptions where
  /-- The file that holds the log. -/
  file : Option String
  /-- Records are written as they stand in the log. -/
  raw : Bool
  /-- Records are written as documents. -/
  json : Bool
  /-- Lines of text are wide. -/
  wide : Bool
  deriving DecidableEq, Repr

/-- No options. -/
def LogOptions.empty : LogOptions := ⟨none, false, false, false⟩

/-- How records are written; two ways at once are not possible. -/
def LogOptions.format? (o : LogOptions) : Option Format :=
  match o.raw, o.json with
  | true, true => none
  | true, false => some .raw
  | false, true => some .json
  | false, false => some (.text o.wide)

/-- A log that is to be read. -/
structure Job where
  /-- The kind of the log. -/
  kind : LogKind
  /-- The file that holds it; the standard input if there is none. -/
  file : Option String
  /-- How its records are written. -/
  format : Format
  /-- The options that stand in either place. -/
  common : Common
  /-- How much is told about the run. -/
  verbosity : Nat
  deriving DecidableEq, Repr

/-- Why no log is to be read. -/
inductive Refusal
  /-- The version of the program was asked for. -/
  | version
  /-- An explanation of the command line was asked for. -/
  | help
  /-- The command line makes no sense. -/
  | misuse
  deriving DecidableEq, Repr

/-! ### Arguments -/

/-- An argument by its form. -/
inductive Argument
  /-- The end of the options. -/
  | endOfOptions
  /-- An option by its name, perhaps with a value. -/
  | long (name : String) (value : Option String)
  /-- Options by their letters. -/
  | short (letters : List Char)
  /-- Anything else. -/
  | plain
  deriving DecidableEq, Repr

/-- The form of an argument. A single hyphen is no option. -/
def Argument.ofString (s : String) : Argument :=
  match s.toList with
  | ['-', '-'] => .endOfOptions
  | '-' :: '-' :: cs =>
    let value := (cs.dropWhile (· != '=')).tail?
    .long (String.ofList (cs.takeWhile (· != '='))) (value.map String.ofList)
  | '-' :: c :: cs => .short (c :: cs)
  | _ => .plain

/-- A path; it must not be empty. -/
def path? (s : String) : Option String :=
  if s = "" then none else some s

/-- The value of an option: the one that the option carries, or else the next argument if that is no
option itself; and the arguments after it. -/
def optionValue? (value : Option String) (rest : List String) : Option (String × List String) :=
  match value, rest with
  | some v, _ => some (v, rest)
  | none, v :: rest => if Argument.ofString v = .plain then some (v, rest) else none
  | none, [] => none

theorem optionValue?_length {value : Option String} {rest rest' : List String} {v : String}
    (h : optionValue? value rest = some (v, rest')) : rest'.length ≤ rest.length := by
  unfold optionValue? at h
  split at h
  · cases h
    exact Nat.le_refl _
  · split at h
    · cases h
      exact Nat.le_succ _
    · cases h
  · cases h

/-- The options with one of those that can stand in both places. Each may be given once in a
place. -/
def Common.set? (c : Common) (name value : String) : Option Common :=
  match name with
  | "config" =>
    if c.config.isSome then none
    else (path? value).map fun path => { c with config := some path }
  | "max-line-bytes" =>
    if c.maxLine.isSome then none
    else (count? value.toList).map fun n => { c with maxLine := some n }
  | _ => none

/-! ### After the name of the kind -/

/-- The options with a plain argument, which is the file; there can be only one. -/
def LogOptions.setFile? (o : LogOptions) (s : String) : Option LogOptions :=
  if o.file.isSome then none
  else (path? s).map fun path => { o with file := some path }

/-- The options with a switch, which may be given once. -/
def LogOptions.switch? (o : LogOptions) : String → Option LogOptions
  | "raw" => if o.raw then none else some { o with raw := true }
  | "json" => if o.json then none else some { o with json := true }
  | "wide" => if o.wide then none else some { o with wide := true }
  | _ => none

/-- A value that makes sense, or a refusal. -/
def sensible {α : Type} (v : Option α) : Except Refusal α :=
  v.elim (.error .misuse) .ok

/-- The options with those of some letters. -/
def LogOptions.letters (o : LogOptions) : List Char → Except Refusal LogOptions
  | [] => .ok o
  | 'w' :: cs =>
    match o.switch? "wide" with
    | some o => o.letters cs
    | none => .error .misuse
  | 'h' :: _ => .error .help
  | _ => .error .misuse

/-- The options that stand after the name of the kind. -/
structure LogPart where
  /-- Those for this log. -/
  log : LogOptions
  /-- Those that could also have stood before. -/
  common : Common
  deriving DecidableEq, Repr

/-- The arguments after the name of the kind, added to some options. -/
def LogPart.add (p : LogPart) (arguments : List String) : Except Refusal LogPart :=
  match arguments with
  | [] => .ok p
  | s :: rest =>
    match Argument.ofString s with
    | .endOfOptions =>
      (sensible (rest.foldlM LogOptions.setFile? p.log)).map fun log => { p with log := log }
    | .plain =>
      match p.log.setFile? s with
      | some log => LogPart.add { p with log := log } rest
      | none => .error .misuse
    | .short letters =>
      match p.log.letters letters with
      | .ok log => LogPart.add { p with log := log } rest
      | .error e => .error e
    | .long "help" none => .error .help
    | .long name value =>
      match value, p.log.switch? name with
      | none, some log => LogPart.add { p with log := log } rest
      | _, _ =>
        match _h : optionValue? value rest with
        | some (v, rest') =>
          match p.common.set? name v with
          | some common => LogPart.add { p with common := common } rest'
          | none => .error .misuse
        | none => .error .misuse
termination_by arguments.length
decreasing_by
  · exact Nat.lt_succ_self _
  · exact Nat.lt_succ_self _
  · exact Nat.lt_succ_self _
  · exact Nat.lt_succ_of_le (optionValue?_length _h)

/-! ### The whole command line -/

/-- The options that stand before the name of the kind. -/
structure RunPart where
  /-- How much is told about the run. -/
  verbosity : Nat
  /-- Those that could also stand after it. -/
  common : Common
  deriving DecidableEq, Repr

/-- The verbosity after some letters. -/
def verbosityAfter (n : Nat) : List Char → Except Refusal Nat
  | [] => .ok n
  | 'v' :: cs => verbosityAfter (n + 1) cs
  | 'V' :: _ => .error .version
  | 'h' :: _ => .error .help
  | _ => .error .misuse

/-- The kind of a log by its name. -/
def kind? : String → Option LogKind
  | "errors" => some .errors
  | "audit" => some .audit
  | _ => none

/-- Whether there is an explanation of what the words after `help` name: the whole command line if
there are none, or else one kind of log or `help` itself. -/
def hasHelp : List String → Bool
  | [] => true
  | [s] => (kind? s).isSome || s = "help"
  | _ => false

/-- The job that the options of both places describe. -/
def RunPart.job (r : RunPart) (kind : LogKind) (p : LogPart) : Except Refusal Job :=
  (sensible p.log.format?).map fun format =>
    ⟨kind, p.log.file, format, r.common.override p.common, r.verbosity⟩

/-- The job that the arguments describe, from some place before the name of the kind on. -/
def RunPart.finish (r : RunPart) (arguments : List String) : Except Refusal Job :=
  match arguments with
  | [] => .error .misuse
  | s :: rest =>
    match Argument.ofString s with
    | .endOfOptions => .error .misuse
    | .plain =>
      match kind? s with
      | some kind => (LogPart.add ⟨.empty, .empty⟩ rest).bind (r.job kind)
      | none =>
        .error (if s = "help" ∧ hasHelp rest then .help else .misuse)
    | .short letters =>
      match verbosityAfter r.verbosity letters with
      | .ok n => RunPart.finish { r with verbosity := n } rest
      | .error e => .error e
    | .long "help" none => .error .help
    | .long "version" none => .error .version
    | .long "verbose" none => RunPart.finish { r with verbosity := r.verbosity + 1 } rest
    | .long name value =>
      match _h : optionValue? value rest with
      | some (v, rest') =>
        match r.common.set? name v with
        | some common => RunPart.finish { r with common := common } rest'
        | none => .error .misuse
      | none => .error .misuse
termination_by arguments.length
decreasing_by
  · exact Nat.lt_succ_self _
  · exact Nat.lt_succ_self _
  · exact Nat.lt_succ_of_le (optionValue?_length _h)

/-- The job that a command line describes. -/
def parse (arguments : List String) : Except Refusal Job :=
  RunPart.finish ⟨0, .empty⟩ arguments

end EventLog.CommandLine
