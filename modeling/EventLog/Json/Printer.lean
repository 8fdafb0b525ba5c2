import EventLog.Text.Digits

/-!
# Writing documents

Documents are written without blanks. In a string only the quote, the backslash and the controls
below the space are escaped, with the short escape if there is one.
-/

namespace EventLog.Json

open Text

/-- A hexadecimal digit in lower case. -/
def hexDigit (n : Nat) : Char :=
  Nat.digitChar n

/-- The written form of a character inside a string. -/
def escapedChar (c : Char) : List Char :=
  if c = '"' then ['\\', '"']
  else if c = '\\' then ['\\', '\\']
  else if c.toNat = 0x08 then ['\\', 'b']
  else if c = '\t' then ['\\', 't']
  else if c = '\n' then ['\\', 'n']
  else if c.toNat = 0x0C then ['\\', 'f']
  else if c = '\r' then ['\\', 'r']
  else if c.toNat < 0x20 then
    ['\\', 'u', '0', '0', hexDigit (c.toNat / 16), hexDigit (c.toNat % 16)]
  else [c]

/-- The written form of a string, with its quotes. -/
def stringText (s : String) : List Char :=
  '"' :: s.toList.flatMap escapedChar ++ ['"']

/-- A member of an object: its key and the written form of its value. -/
abbrev Member := String × List Char

/-- The written form of a member. -/
def memberText (m : Member) : List Char :=
  stringText m.1 ++ ':' :: m.2

/-- The written form of an object with the given members. -/
def objectText (ms : List Member) : List Char :=
  '\x7b' :: ((ms.map memberText).intersperse [',']).flatten ++ ['\x7d']

end EventLog.Json
