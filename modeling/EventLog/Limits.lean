/-!
# Limits of a stream

How long a line of a log may be, and how much of the log is read at once.
-/

namespace EventLog

/-- The limits of a stream. -/
structure Limits where
  /-- The longest line that is accepted, in bytes. -/
  maxLine : Nat
  /-- How many bytes a read asks for, if that is not more than a line may have. -/
  initialBuffer : Nat
  deriving DecidableEq, Repr

namespace Limits

/-- The limits where nothing else is said. -/
def standard : Limits := ⟨65536, 4096⟩

instance : Inhabited Limits := ⟨standard⟩

/-- How many bytes a read asks for: at least one. -/
def capacity (l : Limits) : Nat :=
  max 1 (min l.initialBuffer l.maxLine)

/-- How many bytes are taken for a line before it is judged: its content, and a terminator of two
bytes. The count is kept in 64 bits. -/
def window (l : Limits) : Nat :=
  min (l.maxLine + 2) 0xFFFFFFFFFFFFFFFF

end Limits

end EventLog
