/-!
# Shortening a field

A long field is cut so that the line it stands in stays readable: what is left and the ellipsis
together are as long as the limit allows, counted in characters. Below a limit of four there is
room for the ellipsis alone.
-/

namespace EventLog.Text

/-- The mark of a cut. -/
def ellipsis : List Char := ['.', '.', '.']

/-- A text cut to a number of characters. A text within the limit stays as it is. -/
def shortenTo (limit : Nat) (s : List Char) : List Char :=
  if s.length ≤ limit then s
  else if limit ≤ 3 then ellipsis
  else s.take (limit - 3) ++ ellipsis

/-- A field of an output line, cut to `limit` characters unless the line may be wide. -/
def shorten (s : String) (limit : Nat) (wide : Bool) : String :=
  if wide then s else String.ofList (shortenTo limit s.toList)

end EventLog.Text
