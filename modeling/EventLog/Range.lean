/-!
# The range of stored numbers

A log stores whole numbers with a sign in 64 bits.
-/

namespace EventLog

/-- A whole number that fits in 64 bits with a sign. -/
def Fits64 (n : Int) : Prop :=
  -0x8000000000000000 ≤ n ∧ n < 0x8000000000000000

instance (n : Int) : Decidable (Fits64 n) :=
  inferInstanceAs (Decidable (_ ∧ _))

end EventLog
