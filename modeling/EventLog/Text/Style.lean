/-!
# Terminal styles

A styled text stands between an escape sequence that turns the style on and one that turns it off
again. Styles nest: the outer one is turned on first and off last.
-/

namespace EventLog.Text

/-- The colours that a line of output uses. -/
inductive Colour
  | red
  | green
  | yellow
  | blue
  | cyan
  deriving DecidableEq, Repr

/-- The number of a foreground colour. -/
def Colour.code : Colour → String
  | .red => "31"
  | .green => "32"
  | .yellow => "33"
  | .blue => "34"
  | .cyan => "36"

/-- The escape sequence that selects a rendition. -/
def select (code : String) : String :=
  "\x1b[" ++ code ++ "m"

/-- A text in a colour; afterwards the default colour is back. -/
def coloured (c : Colour) (s : String) : String :=
  select c.code ++ s ++ select "39"

/-- A text in bold. -/
def bold (s : String) : String :=
  select "1" ++ s ++ select "0"

/-- A text with less weight than the rest of its line. -/
def dimmed (s : String) : String :=
  select "2" ++ s ++ select "0"

end EventLog.Text
