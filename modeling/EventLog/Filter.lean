import EventLog.Notice
import EventLog.Text.Alphanumeric
import EventLog.Text.Digits

/-!
# Filters of notices

A filter decides which notices are shown. It is a list of rules, each of which names the least level
that is shown, for the parts of the program whose names start with a given text or for all of them.
A rule can be limited to notices that have a field. Of the rules that apply to a notice the most
specific one decides, and of two that are equally specific the later one.

* `Filter.admits`: whether a notice is shown.
* `Filter.parse`: a filter from its text, rules with commas between them.
-/

namespace EventLog

open Text

/-- Which notices from a part of the program a rule is about. -/
inductive Scope
  /-- All of them. -/
  | all
  /-- Those with a field. -/
  | field (name : String)
  /-- Those about a span of work. No notice of this program belongs to one. -/
  | span
  deriving DecidableEq, Repr

/-- Whether a notice is in a scope. The message of a notice counts as a field. -/
def Scope.has (n : Notice) : Scope → Bool
  | .all => true
  | .field name => name = "message" || n.fields.any (·.1 == name)
  | .span => false

/-- A rule about notices. -/
structure Rule where
  /-- What the names of the parts of the program that the rule is about start with. -/
  target : String
  /-- Which notices from there it is about. -/
  scope : Scope
  /-- The least level that is shown, if any is. -/
  least : Option Level
  deriving DecidableEq, Repr

namespace Rule

/-- Whether a rule is about a notice. -/
def applies (r : Rule) (n : Notice) : Bool :=
  r.target.toList.isPrefixOf n.target.toList && r.scope.has n

/-- Whether a rule lets a notice pass. -/
def admits (r : Rule) (n : Notice) : Bool :=
  match r.least with
  | none => false
  | some least => least.rank ≤ n.level.rank

/-- Whether one of two rules about a notice is more specific: it has a longer target, or it asks for
a field, and of two fields for the one that comes later in the alphabet. -/
def outranks (r s : Rule) : Bool :=
  if r.target.length = s.target.length then
    match r.scope, s.scope with
    | .field f, .field g => g < f
    | .field _, _ => true
    | _, _ => false
  else s.target.length < r.target.length

end Rule

/-- A filter: its rules in the order in which they were given. -/
abbrev Filter := List Rule

namespace Filter

/-- The more specific one of two rules, and the later one of two that are equally specific. -/
def stronger (earlier : Option Rule) (later : Rule) : Option Rule :=
  match earlier with
  | none => some later
  | some r => if r.outranks later then some r else some later

/-- The rule that decides about a notice. -/
def deciding (f : Filter) (n : Notice) : Option Rule :=
  (f.filter (·.applies n)).foldl stronger none

/-- Whether a notice is shown. Without a rule about it, it is not. -/
def admits (f : Filter) (n : Notice) : Bool :=
  (f.deciding n).any (·.admits n)

/-- The filter for a verbosity: warnings in any case, and more notices with each step. -/
def ofVerbosity : Nat → Filter
  | 0 => [⟨"", .all, some .warn⟩]
  | 1 => [⟨"", .all, some .info⟩]
  | 2 => [⟨"", .all, some .debug⟩]
  | _ => [⟨"", .all, some .trace⟩]

/-! ### Written filters -/

/-- The least level that a name or a number up to five stands for; `off` and zero show none. -/
def level? (cs : List Char) : Option (Option Level) :=
  match count? cs with
  | some 0 => some none
  | some 1 => some (some .error)
  | some 2 => some (some .warn)
  | some 3 => some (some .info)
  | some 4 => some (some .debug)
  | some 5 => some (some .trace)
  | _ =>
    match String.ofList (cs.map Char.toLower) with
    | "off" => some none
    | "error" => some (some .error)
    | "warn" => some (some .warn)
    | "info" => some (some .info)
    | "debug" => some (some .debug)
    | "trace" => some (some .trace)
    | _ => none

/-- The least level that the end of a rule names. Without a name everything is shown. -/
def leastLevel? : List Char → Option (Option Level)
  | [] => some (some .trace)
  | ['='] => some (some .trace)
  | '=' :: level => level? level
  | _ => none

/-- The scope in brackets, after the opening one: the name of a span, then perhaps a field in
braces, which can have a value. A field alone is about notices, anything else about spans. -/
def scope? (cs : List Char) : Option (Scope × List Char) :=
  let span := cs.takeWhile fun c => c != ']' && c != '\x7b'
  match cs.drop span.length with
  | ']' :: rest => some (.span, rest)
  | '\x7b' :: rest =>
    let field := rest.takeWhile (· != '\x7d')
    match rest.drop field.length with
    | '\x7d' :: ']' :: rest =>
      if field = [] then none
      else if span = [] ∧ '=' ∉ field then some (.field (String.ofList field), rest)
      else some (.span, rest)
    | _ => none
  | _ => none

/-- Whether a rule can start with a character. -/
def startsRule (c : Char) : Bool :=
  c == '[' || c == '-' || c == ':' || c == '_' || isAlphanumeric c

/-- A rule: a level for all parts of the program, or a target, a scope in brackets or both with a
level for them. -/
def rule? (cs : List Char) : Option Rule :=
  let target := cs.takeWhile fun c => c != '=' && c != '['
  match cs.head?.any startsRule, cs.drop target.length with
  | false, _ => none
  | true, '[' :: rest => do
    let (scope, rest) ← scope? rest
    return ⟨String.ofList target, scope, ← leastLevel? rest⟩
  | true, [] =>
    match level? target with
    | some least => some ⟨"", .all, least⟩
    | none => some ⟨String.ofList target, .all, some .trace⟩
  | true, rest => (leastLevel? rest).map (⟨String.ofList target, .all, ·⟩)

/-- The parts of a text between its commas. -/
def parts (cs : List Char) : List (List Char) :=
  cs.splitOn ','

/-- A filter from its text. Without any rule, errors are shown. -/
def parse (text : String) : Option Filter := do
  let rules ← ((parts text.toList).filter (· != [])).mapM rule?
  return if rules = [] then [⟨"", .all, some .error⟩] else rules

end Filter

end EventLog
