import EventLog.Calendar
import EventLog.Range
import EventLog.Text.Digits
import EventLog.Toml.Node
import EventLog.Toml.Parser

/-!
# The grammar of settings

Settings are written in TOML: lines with a key and a value, under headers that name tables. Of the
values only whole numbers matter here; all others are checked for their form and otherwise left
alone. Values nest at most 79 deep.

* `parse`: the table that a text makes.
-/

namespace EventLog.Toml

open Toml.Parser Text

/-! ### Blanks and lines -/

/-- A blank inside a line. -/
def isBlank (c : Char) : Bool := c == ' ' || c == '\t'

/-- A character outside ASCII. -/
def isWide (c : Char) : Bool := 0x80 ≤ c.toNat

/-- Blanks inside a line. -/
def blanks : Parser PUnit := discard (takeAll isBlank)

/-- The end of a line. -/
def newline : Parser PUnit :=
  literal ['\n'] <|> literal ['\r', '\n']

/-- A comment up to the end of its line. -/
def comment : Parser PUnit := do
  literal ['#']
  discard (takeAll fun c => c == '\t' || (' ' ≤ c && c ≤ '~') || isWide c)

/-- The end of a line or of the text. -/
def lineEnd : Parser PUnit := newline <|> finish

/-- What may follow on a line that is complete. -/
def lineRest : Parser PUnit := do
  blanks
  discard (option comment)
  lineEnd

/-- Blanks, comments and ends of lines. -/
def gap : Parser PUnit := do
  blanks
  discard (many do
    newline <|> (comment *> newline)
    blanks)

/-! ### Strings -/

/-- A hexadecimal digit. -/
def isHexDigit (c : Char) : Bool :=
  c.isDigit || ('a' ≤ c && c ≤ 'f') || ('A' ≤ c && c ≤ 'F')

/-- The number that a hexadecimal digit stands for. -/
def hexDigitValue (c : Char) : Nat :=
  if c.isDigit then c.toNat - 48 else if 'a' ≤ c then c.toNat - 87 else c.toNat - 55

/-- A character by its number in a fixed count of hexadecimal digits. -/
def codePoint (width : Nat) : Parser Char := do
  let ds ← (List.replicate width ()).mapM fun _ => char isHexDigit
  let n := ds.foldl (fun n c => n * 16 + hexDigitValue c) 0
  if n.isValidChar then return Char.ofNat n else failure

/-- An escape in a string. -/
def escape : Parser Char := do
  literal ['\\']
  let c ← char fun _ => true
  match c with
  | 'b' => return Char.ofNat 8
  | 't' => return '\t'
  | 'n' => return '\n'
  | 'f' => return Char.ofNat 12
  | 'r' => return '\r'
  | '"' => return '"'
  | '\\' => return '\\'
  | 'u' => codePoint 4
  | 'U' => codePoint 8
  | _ => failure

/-- A character that stands for itself between double quotes. -/
def isBasic (c : Char) : Bool :=
  c == '\t' || c == ' ' || c == '!' || ('#' ≤ c && c ≤ '[') || (']' ≤ c && c ≤ '~') || isWide c

/-- A character that stands for itself between single quotes. -/
def isLiteral (c : Char) : Bool :=
  c == '\t' || (' ' ≤ c && c ≤ '&') || ('(' ≤ c && c ≤ '~') || isWide c

/-- A string on one line. -/
def shortString : Parser (List Char) :=
  (do
    literal ['"']
    let cs ← many (char isBasic <|> escape)
    literal ['"']
    return cs) <|>
  (do
    literal ['\'']
    let cs ← takeAll isLiteral
    literal ['\'']
    return cs)

/-- Whether a text starts with three of the given quotes. -/
def startsTriple (quote : Char) (s : List Char) : Bool :=
  s.take 3 == [quote, quote, quote]

/-- A quote inside a string of many lines, which does not start the end of the string. -/
def innerQuote (quote : Char) : Parser PUnit := do
  followedBy fun s => !startsTriple quote s
  literal [quote]

/-- The end of a string of many lines; up to two more quotes belong to the string. -/
def tripleEnd (quote : Char) : Parser PUnit := do
  literal [quote, quote, quote]
  discard (option (literal [quote]))
  discard (option (literal [quote]))

/-- A backslash at the end of a line, which joins the line with what follows the next blanks and
empty lines. -/
def joinedLine : Parser PUnit := do
  literal ['\\']
  blanks
  newline
  discard (many (discard (char isBlank) <|> newline))

/-- A string of many lines. -/
def longString : Parser PUnit :=
  (do
    literal ['"', '"', '"']
    discard (many (discard (char isBasic) <|> newline <|> joinedLine <|> discard escape <|>
      innerQuote '"'))
    tripleEnd '"') <|>
  (do
    literal ['\'', '\'', '\'']
    discard (many (discard (char isLiteral) <|> newline <|> innerQuote '\''))
    tripleEnd '\'')

/-! ### Keys -/

/-- A part of a key. -/
def keyPart : Parser String := do
  let cs ← shortString <|> (do
    let c ← char isBare
    let cs ← takeAll isBare
    return c :: cs)
  return String.ofList cs
where
  /-- A character of a key without quotes. -/
  isBare (c : Char) : Bool := c.isAlphanum || c == '-' || c == '_'

/-- Values and keys nest less deep than this. -/
def nestingLimit : Nat := 80

/-- A key with its dots: the parts before the last one, and the last one. -/
def key : Parser (List String × String) := do
  let parts ← separated (blanks *> keyPart <* blanks) (literal ['.'])
  if nestingLimit ≤ parts.length then failure
  return (parts.dropLast, parts.getLastD "")

/-! ### Numbers -/

/-- A row of digits, with single underscores between them where wanted. -/
def digitRow (p : Char → Bool) : Parser (List Char) := do
  let d ← char p
  let ds ← many (option (literal ['_']) *> char p)
  return d :: ds

/-- A sign; the result tells whether it is a minus. -/
def sign : Parser Bool :=
  (literal ['-'] *> pure true) <|> (literal ['+'] *> pure false) <|> pure false

/-- Decimal digits without a zero in front. -/
def wholeDigits : Parser (List Char) :=
  (do
    followedBy fun s => s.head? != some '0'
    digitRow Char.isDigit) <|>
  (do
    literal ['0']
    return ['0'])

/-- Whole numbers in settings are less than this without their sign. -/
def magnitudeBound : Nat := 0x8000000000000001

/-- A whole number that fits, or failure. -/
def magnitude (n : Option Nat) : Parser Int := fun s =>
  n.map fun n => ((n : Int), s)

/-- A number to the base of a letter. -/
def prefixedInteger (letter : Char) (base : Nat) : Parser Int := do
  literal ['0', letter]
  let ds ← digitRow fun c => isHexDigit c && hexDigitValue c < base
  magnitude (ds.foldlM (fun n c => extendBelow? base magnitudeBound n (hexDigitValue c)) 0)

/-- A whole number, which has to fit in 64 bits. -/
def integer : Parser Int := do
  let n ← prefixedInteger 'x' 16 <|> prefixedInteger 'o' 8 <|> prefixedInteger 'b' 2 <|> (do
    let negative ← sign
    let ds ← wholeDigits
    let n ← magnitude (valueBelow? magnitudeBound ds)
    return if negative then -n else n)
  if Fits64 n then return n else failure

/-- The least number that is beyond the range of floating point numbers. -/
def floatBound : Nat := 0x3FFFFFFFFFFFFF * Nat.pow 2 970

/-- Whether a number with the given digits, the last of which stands for a power of ten, is beyond
the range of floating point numbers. The bound is a whole number with fewer than 400 digits, so only
the digits before the point matter, and more than 400 of them are too many. -/
def overflows (ds : List Char) (power : Int) : Bool :=
  let ds := ds.dropWhile (· == '0')
  let whole := (ds.length + power).toNat
  if ds = [] then false
  else if 400 < whole then true
  else floatBound ≤ value (ds.take whole) * Nat.pow 10 (whole - ds.length)

/-- The exponent of a floating point number: its digits, and whether it is negative. -/
def exponent : Parser (Bool × List Char) := do
  literal ['e'] <|> literal ['E']
  let negative ← sign
  let ds ← digitRow Char.isDigit
  return (negative, ds)

/-- The number that an exponent denotes. One that moves the point by `limit` places or more does not
make a difference to one that moves it by `limit` places. -/
def exponentWithin (limit : Nat) (negative : Bool) (ds : List Char) : Int :=
  let n := (valueBelow? limit ds).getD limit
  if negative then -(n : Int) else n

/-- A floating point number. Positive numbers beyond the range are refused. -/
def float : Parser PUnit := do
  let negative ← sign
  (do
    let whole ← wholeDigits
    let fraction ← option (literal ['.'] *> digitRow Char.isDigit)
    let power ← option exponent
    if fraction.isNone ∧ power.isNone then failure
    let ds := fraction.getD []
    let (below, es) := power.getD (false, [])
    let shift := exponentWithin (whole.length + ds.length + 401) below es
    if !negative ∧ overflows (whole ++ ds) (shift - ds.length) then failure) <|>
  literal ['i', 'n', 'f'] <|> literal ['n', 'a', 'n']

/-! ### Dates -/

/-- A number of a fixed count of digits within a range. -/
def part (width least most : Nat) : Parser Nat := do
  let ds ← (List.replicate width ()).mapM fun _ => char Char.isDigit
  let n := value ds
  if least ≤ n ∧ n ≤ most then return n else failure

/-- A day of the calendar. -/
def date : Parser PUnit := do
  let year ← part 4 0 9999
  literal ['-']
  let month ← part 2 1 12
  literal ['-']
  let day ← part 2 1 31
  if ¬ (⟨year, month, day⟩ : Date).Valid then failure

/-- A time of day. -/
def time : Parser PUnit := do
  discard (part 2 0 23)
  literal [':']
  discard (part 2 0 59)
  literal [':']
  discard (part 2 0 60)
  discard (option (do
    literal ['.']
    discard (char Char.isDigit)
    discard (takeAll Char.isDigit)))

/-- The distance of a clock from universal time. -/
def offset : Parser PUnit :=
  literal ['Z'] <|> literal ['z'] <|> (do
    literal ['+'] <|> literal ['-']
    discard (part 2 0 23)
    literal [':']
    discard (part 2 0 59))

/-- A day, perhaps with a time of day, or a time of day alone. -/
def dateTime : Parser PUnit :=
  (do
    date
    discard (option (do
      literal ['T'] <|> literal ['t'] <|> literal [' ']
      time
      discard (option offset)))) <|> time

/-! ### Values -/

/-- A value without parts. -/
def scalar : Parser Node :=
  ((longString <|> discard shortString <|> literal "true".toList <|> literal "false".toList <|>
    dateTime <|> float) *> pure .opaqueValue) <|> (.integer <$> integer)

/-- A list of values, perhaps over many lines and with a comma at its end. -/
def array (element : Parser Node) : Parser PUnit := do
  literal ['[']
  discard (option (do
    discard (separated (gap *> element <* gap) (literal [',']))
    discard (option (literal [',']))))
  gap
  literal [']']

/-- A key and its value. -/
def pair (element : Parser Node) : Parser (List String × String × Node) := do
  let (keys, last) ← key
  literal ['=']
  blanks
  let node ← element
  return (keys, last, node)

/-- A table inside a line. -/
def inlineTable (element : Parser Node) : Parser PUnit := do
  literal ['\x7b']
  let pairs ← option (separated (pair element <* blanks) (literal [',']))
  blanks
  literal ['\x7d']
  let entries := (pairs.getD []).foldlM
    (fun (entries : Entries) (keys, last, node) => entries.assign last node keys) []
  if entries.isNone then failure

/-- A value in which further ones nest at most `depth` deep. -/
def valueWithin : (depth : Nat) → Parser Node
  | 0 => scalar
  | depth + 1 =>
    ((array (valueWithin depth) <|> inlineTable (valueWithin depth)) *> pure .opaqueValue) <|>
      scalar

/-! ### The whole text -/

/-- What a line adds to the settings. -/
inductive Expression
  /-- Nothing. -/
  | empty
  /-- A table. -/
  | header (keys : List String) (last : String)
  /-- Another one in a row of tables. -/
  | rowHeader (keys : List String) (last : String)
  /-- A value. -/
  | assignment (keys : List String) (last : String) (node : Node)

/-- A line of the text. -/
def expression : Parser Expression := do
  blanks
  ((comment *> lineEnd) *> pure .empty) <|> (newline *> pure .empty) <|>
    (do
      literal ['[', '[']
      let (keys, last) ← key
      literal [']', ']']
      lineRest
      return .rowHeader keys last) <|>
    (do
      literal ['[']
      let (keys, last) ← key
      literal [']']
      lineRest
      return .header keys last) <|>
    (do
      let (keys, last, node) ← pair (valueWithin (nestingLimit - 1))
      lineRest
      return .assignment keys last node)

/-- The lines of a text. -/
def document : Parser (List Expression) := do
  discard (option (literal ['\ufeff']))
  let expressions ← many expression
  blanks
  finish
  return expressions

/-- The settings so far: the whole table, and the path of the table that keys are added to. -/
structure Builder where
  /-- The whole table. -/
  root : Entries
  /-- The path of the last header. -/
  current : List String

/-- Adds a line to the settings. -/
def Builder.add (b : Builder) : Expression → Option Builder
  | .empty => some b
  | .header keys last => do
    return ⟨← b.root.define keys last, keys ++ [last]⟩
  | .rowHeader keys last => do
    return ⟨← b.root.append keys last, keys ++ [last]⟩
  | .assignment keys last node => do
    return { b with root := ← Entries.alter .path (Entries.assign last node keys) b.current b.root }

/-- The table that a text makes. -/
def parse (text : List Char) : Option Entries := do
  let (expressions, _) ← document text
  let b ← expressions.foldlM Builder.add ⟨[], []⟩
  return b.root

end EventLog.Toml
