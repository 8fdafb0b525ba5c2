import EventLog.Text.Digits
import EventLog.Text.Invisible

/-!
# Quoted text

How a message shows a string that comes from a log: between double quotes, on one line, with a
backslash form for whatever could not be told apart otherwise. A character that is not seen by
itself is shown by its number in hexadecimal.
-/

namespace EventLog.Text

/-- The form of one character inside the quotes. -/
def quotedChar (c : Char) : List Char :=
  if c = '"' then ['\\', '"']
  else if c = '\\' then ['\\', '\\']
  else if c = '\t' then ['\\', 't']
  else if c = '\n' then ['\\', 'n']
  else if c = '\r' then ['\\', 'r']
  else if c.toNat = 0 then ['\\', '0']
  else if isInvisible c then ['\\', 'u', '\x7b'] ++ Nat.toDigits 16 c.toNat ++ ['\x7d']
  else [c]

/-- A string as a message shows it. -/
def quoted (s : String) : String :=
  String.ofList ('"' :: s.toList.flatMap quotedChar ++ ['"'])

end EventLog.Text
