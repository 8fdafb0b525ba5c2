import EventLog.Json.Shape
import EventLog.Proofs.Json.Written

/-!
# What records that have been read have in common

A record is read by putting values into fields, in whatever order and spelling they are written.
What holds of the initial record and is kept whenever a value that has been read is put into its
field holds of every record that is read.

* `Json.Shape.run_preserves`: this, for the reader of records of a shape.
* `Json.Shape.decode_preserves`: and for whole texts.
-/

namespace EventLog.Json

variable {ρ : Type}

/-- The property of records is kept by the values that are read into a field. -/
def Field.Keeps (P : ρ → Prop) (f : Field ρ) : Prop :=
  ∀ ⦃s r : Bytes⦄ ⦃v : f.Value⦄, f.reader.run s = .ok (v, r) → ∀ x, P x → P (f.set v x)

namespace Shape

variable {shape : Shape ρ} {P : ρ → Prop}

lemma member_preserves (hf : ∀ f ∈ shape.fields, f.Keeps P) {p q : Progress ρ} {s r : Bytes}
    (h : shape.member p s = .ok (q, r)) (hp : P p.record) : P q.record := by
  unfold member at h
  split at h
  · cases h
  · split at h
    · -- a field of the shape
      next f hfind =>
      have hkeeps := hf f (List.mem_of_find?_eq_some hfind)
      split at h
      · cases h
      · split at h
        · cases h
        · split at h
          · cases h
          · next v w hw =>
            cases h
            exact hkeeps hw p.record hp
    · split at h
      · cases h
      · split at h
        · cases h
        · cases h
          exact hp

lemma members_preserves (hf : ∀ f ∈ shape.fields, f.Keeps P) {first : Bool} {p : Progress ρ}
    {s r : Bytes} {v : ρ} (h : shape.members first p s = .ok (v, r)) (hp : P p.record) : P v := by
  fun_induction members shape first p s with
  | case2 first p s t ht =>
    cases h
    exact hp
  | case4 first p s t ht q u hu ih => exact ih h (member_preserves hf hu hp)
  | _ => cases h

lemma elements_preserves {first : Bool} {fields : List (Field ρ)} {x v : ρ} {s r : Bytes}
    (hf : ∀ f ∈ fields, f.Keeps P) (h : elements first fields x s = .ok (v, r)) (hx : P x) :
    P v := by
  induction fields generalizing first x s with
  | nil =>
    simp only [elements] at h
    split at h
    · cases h
    · cases h
      exact hx
  | cons f fields ih =>
    obtain ⟨hf₀, hfs⟩ := List.forall_mem_cons.1 hf
    simp only [elements] at h
    split at h
    · cases h
    · cases h
      exact hx
    · split at h
      · cases h
      · next w u hu => exact ih hfs h (hf₀ hu x hx)

/-- **What is kept by the values of all fields holds of every record that is read.** -/
theorem run_preserves (h₀ : P shape.initial) (hf : ∀ f ∈ shape.fields, f.Keeps P) {s r : Bytes}
    {v : ρ} (h : shape.reader.run s = .ok (v, r)) : P v := by
  obtain ⟨b, t, ht⟩ := fromFirst_ok (f := shape.readFrom) h
  unfold readFrom at ht
  split_ifs at ht
  · exact members_preserves hf ht h₀
  · exact elements_preserves hf ht h₀

theorem decode_preserves (h₀ : P shape.initial) (hf : ∀ f ∈ shape.fields, f.Keeps P) {text : Bytes}
    {v : ρ} (h : shape.decode text = .ok v) : P v := by
  unfold decode at h
  split at h
  · next w hread =>
    obtain rfl := Except.ok.inj h
    unfold read at hread
    split at hread
    · cases hread
    · next u r hrun =>
      split at hread
      · obtain rfl := Except.ok.inj hread
        exact run_preserves h₀ hf hrun
      · cases hread
  · cases h

end Shape

end EventLog.Json
