import EventLog.Json.Mismatch
import EventLog.Text.Ascii
import EventLog.Text.Utf8

/-!
# Faults of a document

A reader stops at the first fault. While it reads, a fault knows only how much of the document was
still unread (`Fault`); once the whole document is at hand, this becomes a line and a column
(`Fault.locate`). Some faults are about the next byte, which is then counted as if it had been read:
`Fault.atNext`.

* `Cause.category`: a fault is a mismatch, an early end, or a violation of the grammar.
* `Error.message`: the words of a message, with the place.
-/

namespace EventLog.Json

/-- Why a text is no document, or not the document asked for. -/
inductive Cause
  | eofInValue
  | eofInList
  | eofInObject
  | eofInString
  | expectedValue
  | expectedWord
  | expectedColon
  | expectedCommaOrListEnd
  | expectedCommaOrObjectEnd
  | expectedKey
  | trailingComma
  | trailingCharacters
  | invalidNumber
  | numberOutOfRange
  | invalidEscape
  | invalidCodePoint
  | controlCharacter
  | loneSurrogate
  | unpairedSurrogate
  | mismatch (m : Mismatch)
  deriving DecidableEq, Repr

/-- The kinds of causes. -/
inductive Category
  /-- The text violates the grammar. -/
  | syntactic
  /-- The text ends before the document does. -/
  | eof
  /-- The document is not a record of the kind asked for. -/
  | data
  deriving DecidableEq, Repr

/-- The kind of a cause. -/
def Cause.category : Cause → Category
  | .eofInValue | .eofInList | .eofInObject | .eofInString => .eof
  | .mismatch _ => .data
  | _ => .syntactic

/-- The words of a message for a cause. -/
def Cause.message : Cause → String
  | .eofInValue => "EOF while parsing a value"
  | .eofInList => "EOF while parsing a list"
  | .eofInObject => "EOF while parsing an object"
  | .eofInString => "EOF while parsing a string"
  | .expectedValue => "expected value"
  | .expectedWord => "expected ident"
  | .expectedColon => "expected `:`"
  | .expectedCommaOrListEnd => "expected `,` or `]`"
  | .expectedCommaOrObjectEnd => "expected `,` or `\x7d`"
  | .expectedKey => "key must be a string"
  | .trailingComma => "trailing comma"
  | .trailingCharacters => "trailing characters"
  | .invalidNumber => "invalid number"
  | .numberOutOfRange => "number out of range"
  | .invalidEscape => "invalid escape"
  | .invalidCodePoint => "invalid unicode code point"
  | .controlCharacter => "control character (\\u0000-\\u001F) found while parsing a string"
  | .loneSurrogate => "lone leading surrogate in hex escape"
  | .unpairedSurrogate => "unexpected end of hex escape"
  | .mismatch m => m.message

/-- A cause, and how much of the text was unread when it was found. -/
structure Fault where
  /-- What is wrong. -/
  cause : Cause
  /-- How many bytes were unread. -/
  unread : Nat
  /-- By how many columns the place lies further left. -/
  back : Nat
  deriving DecidableEq, Repr

/-- A fault found when `rest` was unread. -/
def Fault.at (cause : Cause) (rest : Bytes) : Fault :=
  ⟨cause, rest.length, 0⟩

/-- A fault about the first byte of `rest`, or about the end of the text. -/
def Fault.atNext (cause : Cause) (rest : Bytes) : Fault :=
  ⟨cause, rest.length - 1, 0⟩

/-- A place in a text: the line, counted from one, and how many bytes of it lie before the place. -/
structure Position where
  /-- The number of the line. -/
  line : Nat
  /-- The bytes of the line before the place. -/
  column : Nat
  deriving DecidableEq, Repr

/-- The place after one more byte. -/
def Position.after (p : Position) (b : UInt8) : Position :=
  if b = Ascii.lineFeed then ⟨p.line + 1, 0⟩ else ⟨p.line, p.column + 1⟩

/-- The place after a text. -/
def Position.ofPrefix (s : Bytes) : Position :=
  s.foldl Position.after ⟨1, 0⟩

/-- A fault with its place in the text. -/
structure Error where
  /-- What is wrong. -/
  cause : Cause
  /-- Where it is wrong. -/
  position : Position
  deriving DecidableEq, Repr

/-- Finds the place of a fault in the text. -/
def Fault.locate (text : Bytes) (f : Fault) : Error :=
  let p := Position.ofPrefix (text.take (text.length - f.unread))
  ⟨f.cause, ⟨p.line, p.column - f.back⟩⟩

/-- The words of a message, with the place. -/
def Error.message (e : Error) : String :=
  e.cause.message ++ " at line " ++ toString e.position.line ++ " column " ++
    toString e.position.column

/-- What a reader makes of the front of a text: a value and the unread rest, or a fault. -/
abbrev Scan (α : Type) := Except Fault (α × Bytes)

end EventLog.Json
