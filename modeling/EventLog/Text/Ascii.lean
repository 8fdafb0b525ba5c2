/-!
# ASCII bytes

Names for the bytes that have a meaning in a record or between records, and the classes of bytes
that the readers ask for.
-/

namespace EventLog.Ascii

/-- The byte that ends a line. -/
abbrev lineFeed : UInt8 := 0x0A

/-- The byte that may stand before a line feed. -/
abbrev carriageReturn : UInt8 := 0x0D

/-- The byte of the tabulator. -/
abbrev tab : UInt8 := 0x09

/-- The byte of the space. -/
abbrev space : UInt8 := 0x20

/-- The byte of the double quote. -/
abbrev quote : UInt8 := 0x22

/-- The byte of the plus sign. -/
abbrev plus : UInt8 := 0x2B

/-- The byte of the comma. -/
abbrev comma : UInt8 := 0x2C

/-- The byte of the hyphen. -/
abbrev minus : UInt8 := 0x2D

/-- The byte of the point. -/
abbrev point : UInt8 := 0x2E

/-- The byte of the digit zero. -/
abbrev zero : UInt8 := 0x30

/-- The byte of the digit nine. -/
abbrev nine : UInt8 := 0x39

/-- The byte of the colon. -/
abbrev colon : UInt8 := 0x3A

/-- The byte of the opening square bracket. -/
abbrev openList : UInt8 := 0x5B

/-- The byte of the backslash. -/
abbrev backslash : UInt8 := 0x5C

/-- The byte of the closing square bracket. -/
abbrev closeList : UInt8 := 0x5D

/-- The byte of the opening curly bracket. -/
abbrev openObject : UInt8 := 0x7B

/-- The byte of the closing curly bracket. -/
abbrev closeObject : UInt8 := 0x7D

/-- The byte of an ASCII character. -/
abbrev byte (c : Char) : UInt8 := UInt8.ofNat c.toNat

/-- The ten digits. -/
def isDigit (b : UInt8) : Bool :=
  zero ≤ b && b ≤ nine

/-- The number that a digit stands for. -/
def digitValue (b : UInt8) : Nat :=
  b.toNat - 0x30

/-- The number that a hexadecimal digit of either case stands for. -/
def hexValue? (b : UInt8) : Option Nat :=
  let n := b.toNat
  if 0x30 ≤ n ∧ n ≤ 0x39 then some (n - 0x30)
  else if 0x41 ≤ n ∧ n ≤ 0x46 then some (n - 0x41 + 10)
  else if 0x61 ≤ n ∧ n ≤ 0x66 then some (n - 0x61 + 10)
  else none

end EventLog.Ascii
