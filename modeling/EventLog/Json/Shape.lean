import EventLog.Json.Reader
import EventLog.Json.Skip

/-!
# Records in a document

A record is written as an object, with its fields as members in any order, or as a list of the
values of its first fields. Fields that are not written have their initial value. An object may have
members that the record does not know, but must not name a field twice; a list must not have more
values than the record has fields.

* `Shape`: the fields of a kind of record.
* `Shape.reader`: the reader of records of a shape.
* `Shape.decode`: the record that a whole text makes.
-/

namespace EventLog.Json

open Ascii

/-- A field of a record. -/
structure Field (ρ : Type) where
  /-- The key of the field in an object. -/
  name : String
  /-- The type of its values. -/
  Value : Type
  /-- How a value is read. -/
  reader : Reader Value
  /-- The record with the value in this field. -/
  set : Value → ρ → ρ

/-- A kind of record. -/
structure Shape (ρ : Type) where
  /-- What a message calls the kind of record. -/
  title : String
  /-- The record of which no field is written. -/
  initial : ρ
  /-- The fields in the order of a list. -/
  fields : List (Field ρ)

/-- What comes next inside a bracket. -/
inductive Turn
  /-- The bracket is closed. -/
  | closed (rest : Bytes)
  /-- There is another member or element. -/
  | more (rest : Bytes)

/-- The unread text after a turn. -/
def Turn.rest : Turn → Bytes
  | .closed r => r
  | .more r => r

/-! ### Objects -/

/-- Goes on to the next key of an object and passes over its opening quote. -/
def memberTurn (first : Bool) (s : Bytes) : Except Fault Turn :=
  match skipBlank s with
  | [] => .error (.atNext .eofInObject [])
  | b :: r =>
    if b = closeObject then .ok (.closed r)
    else if first then
      if b = quote then .ok (.more r) else .error (.atNext .expectedKey (b :: r))
    else if b = comma then
      match skipBlank r with
      | [] => .error (.atNext .eofInValue [])
      | c :: t =>
        if c = quote then .ok (.more t)
        else .error (.atNext (if c = closeObject then .trailingComma else .expectedKey) (c :: t))
    else .error (.atNext .expectedCommaOrObjectEnd (b :: r))

theorem memberTurn_length {first : Bool} {s : Bytes} {t : Turn} (h : memberTurn first s = .ok t) :
    t.rest.length < s.length := by
  unfold memberTurn at h
  have hs := skipBlank_length s
  split at h
  · cases h
  · next b r hr =>
    rw [hr] at hs
    split at h
    · cases h; exact hs
    · split at h
      · split at h
        · cases h; exact hs
        · cases h
      · split at h
        · have hr' := skipBlank_length r
          split at h
          · cases h
          · next c u hu =>
            rw [hu] at hr'
            split at h
            · cases h
              exact Nat.lt_of_lt_of_le (Nat.lt_succ_of_lt hr') hs
            · cases h
        · cases h

/-- What an object has told about a record so far. -/
structure Progress (ρ : Type) where
  /-- The fields that have been named. -/
  seen : List String
  /-- The record with the values of these fields. -/
  record : ρ

/-- Reads a member after the opening quote of its key. -/
def Shape.member {ρ : Type} (shape : Shape ρ) (p : Progress ρ) (s : Bytes) :
    Except Fault (Progress ρ × Bytes) :=
  match scanText s with
  | .error e => .error e
  | .ok (key, r) =>
    match shape.fields.find? (·.name == key) with
    | some f =>
      if key ∈ p.seen then
        .error (misfit (.duplicateField key) (skipClosing closeObject r))
      else
        match scanColon r with
        | .error e => .error e
        | .ok r =>
          match f.reader.run r with
          | .error e => .error e
          | .ok (v, r) => .ok (⟨key :: p.seen, f.set v p.record⟩, r)
    | none =>
      match scanColon r with
      | .error e => .error e
      | .ok r =>
        match skipValue r with
        | .error e => .error e
        | .ok r => .ok (p, r)

theorem Shape.member_length {ρ : Type} {shape : Shape ρ} {p q : Progress ρ} {s r : Bytes}
    (h : shape.member p s = .ok (q, r)) : r.length < s.length := by
  unfold Shape.member at h
  split at h
  · cases h
  · next key t ht =>
    have h₁ := scanText_length ht
    split at h
    · next f _ =>
      split at h
      · cases h
      · split at h
        · cases h
        · next u hu =>
          have h₂ := scanColon_length hu
          split at h
          · cases h
          · next v w hw =>
            cases h
            exact Nat.lt_trans (f.reader.shorter hw) (Nat.lt_trans h₂ h₁)
    · split at h
      · cases h
      · next u hu =>
        have h₂ := scanColon_length hu
        split at h
        · cases h
        · next w hw =>
          cases h
          exact Nat.lt_trans (skipValue_length hw) (Nat.lt_trans h₂ h₁)

/-- Reads the members of an object up to its closing bracket. -/
def Shape.members {ρ : Type} (shape : Shape ρ) (first : Bool) (p : Progress ρ) (s : Bytes) :
    Scan ρ :=
  match _h : memberTurn first s with
  | .error e => .error e
  | .ok (.closed r) => .ok (p.record, r)
  | .ok (.more r) =>
    match _hm : shape.member p r with
    | .error e => .error e
    | .ok (p, r) => shape.members false p r
termination_by s.length
decreasing_by exact Nat.lt_trans (Shape.member_length _hm) (memberTurn_length _h)

theorem Shape.members_length {ρ : Type} {shape : Shape ρ} {first : Bool} {p : Progress ρ}
    {s r : Bytes} {v : ρ} (h : shape.members first p s = .ok (v, r)) : r.length < s.length := by
  fun_induction Shape.members shape first p s with
  | case2 first p s t ht =>
    cases h
    exact memberTurn_length ht
  | case4 first p s t ht q u hu ih =>
    exact Nat.lt_trans (ih h) (Nat.lt_trans (Shape.member_length hu) (memberTurn_length ht))
  | _ => cases h

/-! ### Lists -/

/-- Goes on to the next element of a list. -/
def elementTurn (first : Bool) (s : Bytes) : Except Fault Turn :=
  match skipBlank s with
  | [] => .error (.atNext .eofInList [])
  | b :: r =>
    if b = closeList then .ok (.closed r)
    else if first then .ok (.more (b :: r))
    else if b = comma then
      match skipBlank r with
      | [] => .error (.atNext .eofInValue [])
      | c :: t =>
        if c = closeList then .error (.atNext .trailingComma (c :: t)) else .ok (.more (c :: t))
    else .error (.atNext .expectedCommaOrListEnd (b :: r))

theorem elementTurn_length {first : Bool} {s : Bytes} {t : Turn}
    (h : elementTurn first s = .ok t) : t.rest.length ≤ s.length := by
  unfold elementTurn at h
  have hs := skipBlank_length s
  split at h
  · cases h
  · next b r hr =>
    rw [hr] at hs
    split at h
    · cases h; exact Nat.le_of_lt hs
    · split at h
      · cases h; exact hs
      · split at h
        · have hr' := skipBlank_length r
          split at h
          · cases h
          · next c u hu =>
            rw [hu] at hr'
            split at h
            · cases h
            · cases h
              exact Nat.le_trans hr' (Nat.le_of_lt hs)
        · cases h

/-- Passes over the closing bracket of a list that has a value for every field. -/
def listEnd (s : Bytes) : Except Fault Bytes :=
  match skipBlank s with
  | [] => .error (.atNext .eofInList [])
  | b :: r =>
    if b = closeList then .ok r
    else if b = comma then
      match skipBlank r with
      | [] => .error (.atNext .trailingCharacters [])
      | c :: t =>
        .error (.atNext (if c = closeList then .trailingComma else .trailingCharacters) (c :: t))
    else .error (.atNext .trailingCharacters (b :: r))

theorem listEnd_length {s r : Bytes} (h : listEnd s = .ok r) : r.length ≤ s.length := by
  unfold listEnd at h
  have hs := skipBlank_length s
  split at h
  · cases h
  · next b t ht =>
    rw [ht] at hs
    split at h
    · cases h; exact Nat.le_of_lt hs
    · split at h
      · split at h
        · cases h
        · cases h
      · cases h

/-- Reads the values of the given fields from a list, as many as there are, up to its closing
bracket. -/
def elements {ρ : Type} (first : Bool) : List (Field ρ) → ρ → Bytes → Scan ρ
  | [], record, s =>
    match listEnd s with
    | .error e => .error e
    | .ok r => .ok (record, r)
  | f :: fields, record, s =>
    match elementTurn first s with
    | .error e => .error e
    | .ok (.closed r) => .ok (record, r)
    | .ok (.more r) =>
      match f.reader.run r with
      | .error e => .error e
      | .ok (v, r) => elements false fields (f.set v record) r

theorem elements_length {ρ : Type} {first : Bool} {fields : List (Field ρ)} {record v : ρ}
    {s r : Bytes} (h : elements first fields record s = .ok (v, r)) : r.length ≤ s.length := by
  induction fields generalizing first record s with
  | nil =>
    simp only [elements] at h
    split at h
    · cases h
    · next t ht => cases h; exact listEnd_length ht
  | cons f fields ih =>
    simp only [elements] at h
    split at h
    · cases h
    · next t ht => cases h; exact elementTurn_length ht
    · next t ht =>
      split at h
      · cases h
      · next w u hu =>
        exact Nat.le_trans (ih h) (Nat.le_trans (Nat.le_of_lt (f.reader.shorter hu))
          (elementTurn_length ht))

/-! ### Whole records -/

/-- A record that starts with the byte `b`. -/
def Shape.readFrom {ρ : Type} (shape : Shape ρ) (b : UInt8) (r : Bytes) : Scan ρ :=
  if b = openObject then shape.members true ⟨[], shape.initial⟩ r
  else if b = openList then elements true shape.fields shape.initial r
  else .error (refuse shape.title b r)

theorem Shape.readFrom_length {ρ : Type} {shape : Shape ρ} {b : UInt8} {s r : Bytes} {v : ρ}
    (h : shape.readFrom b s = .ok (v, r)) : r.length ≤ s.length := by
  unfold Shape.readFrom at h
  split at h
  · exact Nat.le_of_lt (Shape.members_length h)
  · split at h
    · exact elements_length h
    · cases h

/-- The reader of records of a shape. -/
def Shape.reader {ρ : Type} (shape : Shape ρ) : Reader ρ :=
  .ofFirst shape.readFrom Shape.readFrom_length

/-- Reads a record from a whole text; only blanks may follow it. -/
def Shape.read {ρ : Type} (shape : Shape ρ) (text : Bytes) : Except Fault ρ :=
  match shape.reader.run text with
  | .error e => .error e
  | .ok (record, r) =>
    match skipBlank r with
    | [] => .ok record
    | b :: t => .error (.atNext .trailingCharacters (b :: t))

/-- The record that a whole text makes, or the first fault and its place. -/
def Shape.decode {ρ : Type} (shape : Shape ρ) (text : Bytes) : Except Error ρ :=
  match shape.read text with
  | .ok record => .ok record
  | .error f => .error (f.locate text)

end EventLog.Json
