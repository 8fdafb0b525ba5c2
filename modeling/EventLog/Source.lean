import EventLog.Text.Utf8

/-!
# Sources of bytes

A stream reads from a source that hands out bytes in pieces of its own choosing, reports the end of
its data, or fails. A script lists what a source does, in order. Between two such steps the stream
may be closed from elsewhere, while a read is under way.

* `Script.read`: one read.
* `Script.read_weight`, `Script.read_rest_weight`: a script gets shorter by what it hands out.
-/

namespace EventLog

/-- The kinds of errors that a source or its closing can meet. -/
inductive IoKind
  | notFound
  | permissionDenied
  | connectionReset
  | connectionAborted
  | notConnected
  | brokenPipe
  | wouldBlock
  | timedOut
  | unexpectedEof
  | invalidData
  | interrupted
  | other
  deriving DecidableEq, Repr

/-- An error of a source or of its closing. -/
structure IoError where
  /-- Its kind. -/
  kind : IoKind
  /-- What the source says about it. -/
  message : String
  deriving DecidableEq, Repr

/-- What a read comes back with. -/
inductive ReadOutcome
  /-- Bytes, at least one. -/
  | data (bytes : Bytes)
  /-- There are no bytes, and no error. -/
  | endOfData
  /-- The read failed. -/
  | failed (error : IoError)
  deriving DecidableEq, Repr

/-- The bytes that a read brings. -/
def ReadOutcome.bytes : ReadOutcome → Bytes
  | .data bs => bs
  | _ => []

/-- A step of a source. -/
inductive Step
  /-- It has bytes. -/
  | data (bytes : Bytes)
  /-- It reports the end of its data to one read. -/
  | endOfData
  /-- It fails one read. -/
  | fail (error : IoError)
  /-- The stream is closed during the read that comes to this step. -/
  | close
  deriving DecidableEq, Repr

/-- The steps of a source. After the last one it reports the end of its data for good. -/
abbrev Script := List Step

/-- A read of a scripted source. -/
structure Read where
  /-- How often the stream was closed during the read. -/
  closings : Nat
  /-- What the read came back with. -/
  outcome : ReadOutcome
  /-- What the source does next. -/
  rest : Script

namespace Script

/-- The steps after a piece of data of which only the front has been read. -/
def keep : Bytes → Script → Script
  | [], script => script
  | b :: bs, script => .data (b :: bs) :: script

/-- One read of at most `capacity` bytes, and of one byte in any case. Bytes of different steps do
not come with one read. -/
def read (capacity : Nat) : Script → Read
  | [] => ⟨0, .endOfData, []⟩
  | .data [] :: script => read capacity script
  | .data (b :: bs) :: script =>
    ⟨0, .data (b :: bs.take (capacity - 1)), keep (bs.drop (capacity - 1)) script⟩
  | .endOfData :: script => ⟨0, .endOfData, script⟩
  | .fail e :: script => ⟨0, .failed e, script⟩
  | .close :: script =>
    let r := read capacity script
    ⟨r.closings + 1, r.outcome, r.rest⟩

/-- All bytes that the source has not handed out. -/
def unread : Script → Bytes
  | [] => []
  | .data bs :: script => bs ++ unread script
  | _ :: script => unread script

/-- The size of a step. -/
def stepWeight : Step → Nat
  | .data bs => bs.length + 1
  | _ => 1

/-- The size of a script: what it may still come back with. -/
def weight : Script → Nat
  | [] => 0
  | step :: script => stepWeight step + weight script

theorem keep_weight (bs : Bytes) (script : Script) :
    weight (keep bs script) ≤ bs.length + 1 + weight script := by
  cases bs with
  | nil => exact Nat.le_add_left _ _
  | cons b bs => exact Nat.le_refl _

/-- What a read brings is no more than what the script loses. -/
theorem read_weight (capacity : Nat) (script : Script) :
    weight (read capacity script).rest + (read capacity script).outcome.bytes.length
      ≤ weight script := by
  induction script with
  | nil => exact Nat.le_refl _
  | cons step script ih =>
    cases step with
    | data bs =>
      cases bs with
      | nil =>
        simp only [read, weight] at ih ⊢
        omega
      | cons b bs =>
        have h₁ := keep_weight (bs.drop (capacity - 1)) script
        have h₂ :
            (bs.take (capacity - 1)).length + (bs.drop (capacity - 1)).length = bs.length := by
          rw [← List.length_append, List.take_append_drop]
        simp only [read, ReadOutcome.bytes, List.length_cons]
        simp only [weight, stepWeight, List.length_cons] at h₁ ⊢
        omega
    | endOfData =>
      simp only [read, ReadOutcome.bytes, weight, List.length_nil]
      omega
    | fail e =>
      simp only [read, ReadOutcome.bytes, weight, List.length_nil]
      omega
    | close =>
      simp only [read, weight] at ih ⊢
      omega

/-- A read that does not report the end brings the script closer to its own end. -/
theorem read_rest_weight {capacity : Nat} {script : Script}
    (h : (read capacity script).outcome ≠ .endOfData) :
    weight (read capacity script).rest < weight script := by
  induction script with
  | nil => exact absurd rfl h
  | cons step script ih =>
    cases step with
    | data bs =>
      cases bs with
      | nil =>
        simp only [read, weight] at ih h ⊢
        have := ih h
        omega
      | cons b bs =>
        have h₁ := keep_weight (bs.drop (capacity - 1)) script
        have h₂ := (List.drop_sublist (capacity - 1) bs).length_le
        simp only [read]
        simp only [weight, stepWeight, List.length_cons] at h₁ ⊢
        omega
    | endOfData => exact absurd rfl h
    | fail e =>
      simp only [read, weight, stepWeight]
      omega
    | close =>
      simp only [read, weight] at ih h ⊢
      have := ih h
      omega

end Script

end EventLog
