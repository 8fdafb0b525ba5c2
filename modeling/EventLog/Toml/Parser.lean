/-!
# Parsers over characters

A parser takes a value off the front of a text or fails. Alternatives are tried from the same place;
a repetition takes as many values as it can, each of which uses up some of the text.
-/

namespace EventLog.Toml

/-- A way to take a value off the front of a text. -/
abbrev Parser := StateT (List Char) Option

namespace Parser

/-- A character of a class. -/
def char (p : Char → Bool) : Parser Char := fun s =>
  match s with
  | c :: r => if p c then some (c, r) else none
  | [] => none

/-- The given characters. -/
def literal (cs : List Char) : Parser PUnit :=
  cs.forM fun c => discard (char (· == c))

/-- As many characters of a class as there are. -/
def takeAll (p : Char → Bool) : Parser (List Char) := fun s =>
  some (s.takeWhile p, s.dropWhile p)

/-- The end of the text. -/
def finish : Parser PUnit := fun s =>
  if s = [] then some ((), []) else none

/-- As many values as there are, but no more than `room` has characters. -/
def within {α : Type} (room : List Char) (p : Parser α) : Parser (List α) := fun s =>
  match room with
  | [] => some ([], s)
  | _ :: room =>
    match p s with
    | none => some ([], s)
    | some (v, r) => (within room p r).map fun (vs, t) => (v :: vs, t)

/-- As many values as there are. Each of them takes a character at least, so the text has room for
no more of them than it has characters. -/
def many {α : Type} (p : Parser α) : Parser (List α) := fun s =>
  within s p s

/-- A value, if there is one. -/
def option {α : Type} (p : Parser α) : Parser (Option α) :=
  some <$> p <|> pure none

/-- Values with separators between them, at least one. -/
def separated {α : Type} (p : Parser α) (separator : Parser PUnit) : Parser (List α) := do
  let v ← p
  let vs ← many (separator *> p)
  return v :: vs

/-- What is there is looked at and left. -/
def followedBy (p : List Char → Bool) : Parser PUnit := fun s =>
  if p s then some ((), s) else none

end Parser

end EventLog.Toml
