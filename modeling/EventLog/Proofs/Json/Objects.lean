import EventLog.Json.Printer
import EventLog.Json.Shape
import EventLog.Proofs.Json.Strings

/-!
# Records, written and read

A record is written as an object with all its fields in order. The reader of records goes through
the members of the object and puts their values into the fields, and if the text breaks off
anywhere in the object, it ends too early.

* `Json.Shape.written`: what is written for a record is read as the record.
* `Json.Shape.decode_text`, `Json.Shape.decode_cut`: whole texts.
-/

namespace EventLog.Json

open Ascii Utf8

variable {ρ : Type}

/-- A field of a record, with a value and what is written for it. -/
structure Entry (ρ : Type) where
  /-- The field. -/
  field : Field ρ
  /-- Its value. -/
  value : field.Value
  /-- The written form of the value. -/
  text : List Char

namespace Entry

/-- The member of the object for a field. -/
def member (e : Entry ρ) : Member := (e.field.name, e.text)

/-- The record with the value in the field. -/
def put (r : ρ) (e : Entry ρ) : ρ := e.field.set e.value r

/-- The member after the opening quote of its key. -/
def bytes (e : Entry ρ) : Bytes :=
  (innerBytes e.field.name.toList ++ [quote]) ++ colon :: encode e.text

lemma encode_memberText (e : Entry ρ) : encode (memberText e.member) = quote :: e.bytes := by
  have hcolon : String.utf8EncodeChar ':' = [colon] := by decide
  rw [memberText, encode_append, encode_cons, hcolon, member, encode_stringText]
  rfl

end Entry

/-- What stands before the key of the first member, or of another one. -/
def lead (first : Bool) : Bytes := if first then [] else [comma]

/-- The members of an object and its closing bracket. -/
def membersBytes (first : Bool) : List (Entry ρ) → Bytes
  | [] => [closeObject]
  | e :: es => (lead first ++ [quote]) ++ (e.bytes ++ membersBytes false es)

lemma encode_tail (es : List (Entry ρ)) :
    encode ((es.map fun e => ',' :: memberText e.member).flatten ++ ['\x7d']) =
      membersBytes false es := by
  have hcomma : String.utf8EncodeChar ',' = [comma] := by decide
  induction es with
  | nil =>
    show encode ['\x7d'] = [closeObject]
    decide
  | cons e es ih =>
    rw [List.map_cons, List.flatten_cons, List.append_assoc, encode_append, ih, encode_cons, hcomma,
      e.encode_memberText]
    simp only [membersBytes, lead, Bool.false_eq_true, if_false, List.cons_append, List.nil_append]

lemma encode_objectText (es : List (Entry ρ)) :
    encode (objectText (es.map Entry.member)) = openObject :: membersBytes true es := by
  have hopen : String.utf8EncodeChar '\x7b' = [openObject] := by decide
  have hjoin : ∀ (t : List Char) (ts : List (List Char)),
      ((t :: ts).intersperse [',']).flatten = t ++ (ts.map (',' :: ·)).flatten := by
    intro t ts
    induction ts generalizing t with
    | nil => simp
    | cons u ts ih => simp [ih u]
  cases es with
  | nil =>
    show encode ['\x7b', '\x7d'] = [openObject, closeObject]
    decide
  | cons e es =>
    rw [objectText, List.map_cons, List.map_cons, hjoin, List.cons_append, List.append_assoc,
      encode_cons, hopen, encode_append, e.encode_memberText, List.map_map, List.map_map]
    have htail := encode_tail es
    simp only [membersBytes, lead, if_true, List.nil_append, List.cons_append]
    rw [← htail]
    rfl

/-! ### One member -/

/-- What is written for a field is read as its value. -/
def Entry.Fits (shape : Shape ρ) (e : Entry ρ) : Prop :=
  shape.fields.find? (·.name == e.field.name) = some e.field ∧
    Written e.field.reader (encode e.text) e.value

lemma scanColon_colon (r : Bytes) : scanColon (colon :: r) = .ok r := by
  rw [scanColon, skipBlank_cons r (by decide)]
  exact if_pos rfl

lemma scanColon_nil : Breaks (scanColon []) := ⟨_, rfl, rfl⟩

section Member

variable {shape : Shape ρ} {e : Entry ρ} {p : Progress ρ}

lemma member_ok {s r t u : Bytes} {v : e.field.Value} (he : e.Fits shape)
    (hp : e.field.name ∉ p.seen) (hs : scanText s = .ok (e.field.name, r))
    (hr : scanColon r = .ok t) (ht : e.field.reader.run t = .ok (v, u)) :
    shape.member p s = .ok (⟨e.field.name :: p.seen, e.field.set v p.record⟩, u) := by
  simp only [Shape.member, hs, he.1, if_neg hp, hr, ht]

lemma member_colon_breaks {s r : Bytes} (he : e.Fits shape) (hp : e.field.name ∉ p.seen)
    (hs : scanText s = .ok (e.field.name, r)) (hr : Breaks (scanColon r)) :
    Breaks (shape.member p s) := by
  obtain ⟨f, hf, hc⟩ := hr
  exact ⟨f, by simp only [Shape.member, hs, he.1, if_neg hp, hf], hc⟩

lemma member_value_breaks {s r t : Bytes} (he : e.Fits shape) (hp : e.field.name ∉ p.seen)
    (hs : scanText s = .ok (e.field.name, r)) (hr : scanColon r = .ok t)
    (ht : Breaks (e.field.reader.run t)) : Breaks (shape.member p s) := by
  obtain ⟨f, hf, hc⟩ := ht
  exact ⟨f, by simp only [Shape.member, hs, he.1, if_neg hp, hr, hf], hc⟩

lemma member_bytes {rest : Bytes} (he : e.Fits shape) (hp : e.field.name ∉ p.seen)
    (hrest : Delimited rest) :
    shape.member p (e.bytes ++ rest) =
      .ok (⟨e.field.name :: p.seen, e.put p.record⟩, rest) := by
  have hs : scanText (e.bytes ++ rest) = .ok (e.field.name, colon :: (encode e.text ++ rest)) := by
    rw [Entry.bytes, List.append_assoc, List.append_assoc]
    exact scanText_stringText e.field.name _
  exact member_ok he hp hs (scanColon_colon _) (he.2.run rest hrest)

/-- A member that breaks off ends too early, unless its value is complete as it is. -/
lemma member_cut {q : Bytes} (he : e.Fits shape) (hp : e.field.name ∉ p.seen)
    (hq : CutFrom q e.bytes) :
    Breaks (shape.member p q) ∨ ∃ p', shape.member p q = .ok (p', []) := by
  rcases hq.append_cases with hq | ⟨t, rfl, ht⟩
  · -- inside the key
    obtain ⟨f, hf, hc⟩ := scanText_cut e.field.name hq
    exact Or.inl ⟨f, by simp only [Shape.member, hf], hc⟩
  · have hs : scanText (innerBytes e.field.name.toList ++ [quote] ++ t) =
        .ok (e.field.name, t) := by
      rw [List.append_assoc]
      exact scanText_stringText e.field.name t
    rcases ht.cons_cases with rfl | ⟨u, rfl, hu⟩
    · -- before the colon
      exact Or.inl (member_colon_breaks he hp hs scanColon_nil)
    · -- inside the value, which may be a number all the same
      rcases he.2.cut u hu with hbreaks | ⟨v, hv⟩
      · exact Or.inl (member_value_breaks he hp hs (scanColon_colon u) hbreaks)
      · exact Or.inr ⟨_, member_ok he hp hs (scanColon_colon u) hv⟩

end Member

/-! ### All members -/

section Members

variable {shape : Shape ρ} {first : Bool} {p : Progress ρ} {s r : Bytes}

lemma members_closed (h : memberTurn first s = .ok (.closed r)) :
    shape.members first p s = .ok (p.record, r) := by
  rw [Shape.members]
  split
  · next h' => cases h.symm.trans h'
  · next t h' =>
    obtain rfl := Turn.closed.inj (Except.ok.inj (h.symm.trans h'))
    rfl
  · next h' => cases h.symm.trans h'

lemma members_more {q : Progress ρ} {t : Bytes} (h : memberTurn first s = .ok (.more r))
    (hm : shape.member p r = .ok (q, t)) : shape.members first p s = shape.members false q t := by
  rw [Shape.members]
  split
  · next h' => cases h.symm.trans h'
  · next h' => cases h.symm.trans h'
  · next u h' =>
    obtain rfl := Turn.more.inj (Except.ok.inj (h.symm.trans h'))
    split
    · next h'' => cases hm.symm.trans h''
    · next h'' =>
      obtain ⟨rfl, rfl⟩ := Prod.mk.inj (Except.ok.inj (hm.symm.trans h''))
      rfl

lemma members_turn_breaks (h : Breaks (memberTurn first s)) : Breaks (shape.members first p s) := by
  obtain ⟨f, hf, hc⟩ := h
  refine ⟨f, ?_, hc⟩
  rw [Shape.members]
  split
  · next h' => rw [Except.error.inj (hf.symm.trans h')]
  · next h' => cases hf.symm.trans h'
  · next h' => cases hf.symm.trans h'

lemma members_member_breaks (h : memberTurn first s = .ok (.more r))
    (hm : Breaks (shape.member p r)) : Breaks (shape.members first p s) := by
  obtain ⟨f, hf, hc⟩ := hm
  refine ⟨f, ?_, hc⟩
  rw [Shape.members]
  split
  · next h' => cases h.symm.trans h'
  · next h' => cases h.symm.trans h'
  · next u h' =>
    obtain rfl := Turn.more.inj (Except.ok.inj (h.symm.trans h'))
    split
    · next h'' => rw [Except.error.inj (hf.symm.trans h'')]
    · next h'' => cases hf.symm.trans h''

end Members

lemma memberTurn_nil (first : Bool) : Breaks (memberTurn first []) := ⟨_, rfl, rfl⟩

lemma memberTurn_close (first : Bool) (r : Bytes) :
    memberTurn first (closeObject :: r) = .ok (.closed r) := by
  rw [memberTurn, skipBlank_cons r (by decide)]
  exact if_pos rfl

lemma memberTurn_lead (first : Bool) (r : Bytes) :
    memberTurn first ((lead first ++ [quote]) ++ r) = .ok (.more r) := by
  have hquote : skipBlank (quote :: r) = quote :: r := skipBlank_cons r (by decide)
  cases first with
  | true =>
    show memberTurn true (quote :: r) = .ok (.more r)
    rw [memberTurn, hquote]
    rfl
  | false =>
    show memberTurn false (comma :: quote :: r) = .ok (.more r)
    rw [memberTurn, skipBlank_cons _ (by decide)]
    simp only [Bool.false_eq_true, if_false, if_true, hquote]
    rfl

lemma memberTurn_cut {first : Bool} {q : Bytes} (h : CutFrom q (lead first ++ [quote])) :
    Breaks (memberTurn first q) := by
  cases first with
  | true =>
    rcases h.cons_cases with rfl | ⟨t, -, ht⟩
    · exact memberTurn_nil true
    · exact absurd ht CutFrom.not_nil
  | false =>
    rcases h.cons_cases with rfl | ⟨t, rfl, ht⟩
    · exact memberTurn_nil false
    · rcases ht.cons_cases with rfl | ⟨u, -, hu⟩
      · exact ⟨_, rfl, rfl⟩
      · exact absurd hu CutFrom.not_nil

lemma delimited_membersBytes (es : List (Entry ρ)) (rest : Bytes) :
    Delimited (membersBytes false es ++ rest) := by
  cases es with
  | nil => exact Or.inr rfl
  | cons e es => exact Or.inl rfl

section Members

variable {shape : Shape ρ}

/-- **The members of an object are read** in their order. -/
lemma members_bytes {es : List (Entry ρ)} (he : ∀ e ∈ es, e.Fits shape)
    (hnodup : (es.map (·.field.name)).Nodup) (rest : Bytes) (first : Bool) (p : Progress ρ)
    (hp : ∀ e ∈ es, e.field.name ∉ p.seen) :
    shape.members first p (membersBytes first es ++ rest) =
      .ok (es.foldl Entry.put p.record, rest) := by
  induction es generalizing first p with
  | nil => exact members_closed (memberTurn_close first rest)
  | cons e es ih =>
    obtain ⟨he₀, hes⟩ := List.forall_mem_cons.1 he
    obtain ⟨hp₀, hps⟩ := List.forall_mem_cons.1 hp
    obtain ⟨hne, hnodup⟩ := List.nodup_cons.1 hnodup
    have hm := member_bytes he₀ hp₀ (delimited_membersBytes es rest)
    have hturn := memberTurn_lead first (e.bytes ++ (membersBytes false es ++ rest))
    rw [membersBytes, List.append_assoc (lead first ++ [quote]), List.append_assoc e.bytes,
      members_more hturn hm, ih hes hnodup false]
    · rfl
    · intro e' he'
      rw [List.mem_cons, not_or]
      exact ⟨fun h => hne (List.mem_map.2 ⟨e', he', h⟩), hps e' he'⟩

/-- **Members that break off** end too early. -/
lemma members_cut {es : List (Entry ρ)} (he : ∀ e ∈ es, e.Fits shape)
    (hnodup : (es.map (·.field.name)).Nodup) (first : Bool) (p : Progress ρ)
    (hp : ∀ e ∈ es, e.field.name ∉ p.seen) {q : Bytes} (hq : CutFrom q (membersBytes first es)) :
    Breaks (shape.members first p q) := by
  induction es generalizing first p q with
  | nil =>
    rcases hq.cons_cases with rfl | ⟨t, -, ht⟩
    · exact members_turn_breaks (memberTurn_nil first)
    · exact absurd ht CutFrom.not_nil
  | cons e es ih =>
    obtain ⟨he₀, hes⟩ := List.forall_mem_cons.1 he
    obtain ⟨hp₀, hps⟩ := List.forall_mem_cons.1 hp
    obtain ⟨hne, hnodup⟩ := List.nodup_cons.1 hnodup
    rcases hq.append_cases with hq | ⟨t, rfl, ht⟩
    · -- before the key
      exact members_turn_breaks (memberTurn_cut hq)
    · have hturn := memberTurn_lead first t
      rcases ht.append_cases with ht | ⟨u, rfl, hu⟩
      · -- inside the member; if its value is complete, the object still is not
        rcases member_cut he₀ hp₀ ht with hbreaks | ⟨p', hp'⟩
        · exact members_member_breaks hturn hbreaks
        · rw [members_more hturn hp']
          exact members_turn_breaks (memberTurn_nil false)
      · -- after the member
        have hall := delimited_membersBytes es []
        rw [List.append_nil] at hall
        have hdel := hall.of_prefix hu.1
        rw [members_more hturn (member_bytes he₀ hp₀ hdel)]
        refine ih hes hnodup false _ (fun e' he' => ?_) hu
        rw [List.mem_cons, not_or]
        exact ⟨fun h => hne (List.mem_map.2 ⟨e', he', h⟩), hps e' he'⟩

end Members

/-! ### Whole objects -/

/-- A record is written with a value for each field of its shape, in their order. -/
structure Shape.Writes (shape : Shape ρ) (es : List (Entry ρ)) : Prop where
  /-- The fields are those of the shape. -/
  fields : shape.fields = es.map Entry.field
  /-- No two of them have the same name. -/
  distinct : (shape.fields.map Field.name).Nodup
  /-- What is written for each is read as its value. -/
  values : ∀ e ∈ es, Written e.field.reader (encode e.text) e.value

/-- The text of a record. -/
def textOf (es : List (Entry ρ)) : List Char := objectText (es.map Entry.member)

/-- The record with the values of all fields. -/
def Shape.recordOf (shape : Shape ρ) (es : List (Entry ρ)) : ρ := es.foldl Entry.put shape.initial

lemma find?_of_nodup {fs : List (Field ρ)} (h : (fs.map Field.name).Nodup) {f : Field ρ}
    (hf : f ∈ fs) : fs.find? (·.name == f.name) = some f := by
  induction fs with
  | nil => exact absurd hf List.not_mem_nil
  | cons g fs ih =>
    obtain ⟨hne, hnodup⟩ := List.nodup_cons.1 h
    rcases List.mem_cons.1 hf with rfl | hf
    · exact List.find?_cons_of_pos (by simp)
    · have hg : g.name ≠ f.name := fun he => hne (he ▸ List.mem_map_of_mem hf)
      rw [List.find?_cons_of_neg (by simpa using hg)]
      exact ih hnodup hf

namespace Shape

variable {shape : Shape ρ} {es : List (Entry ρ)}

lemma Writes.fits (h : shape.Writes es) : ∀ e ∈ es, e.Fits shape := by
  intro e he
  refine ⟨find?_of_nodup h.distinct ?_, h.values e he⟩
  rw [h.fields]
  exact List.mem_map_of_mem he

lemma Writes.nodup (h : shape.Writes es) : (es.map (·.field.name)).Nodup := by
  have hd := h.distinct
  rwa [h.fields, List.map_map] at hd

lemma run_object (r : Bytes) :
    shape.reader.run (openObject :: r) = shape.members true ⟨[], shape.initial⟩ r :=
  (fromFirst_cons shape.readFrom r (by decide)).trans (if_pos rfl)

lemma run_text (h : shape.Writes es) (rest : Bytes) :
    shape.reader.run (encode (textOf es) ++ rest) = .ok (shape.recordOf es, rest) := by
  rw [textOf, encode_objectText, List.cons_append, run_object]
  exact members_bytes h.fits h.nodup rest true _ fun _ _ => List.not_mem_nil

/-- A record that breaks off ends too early. -/
lemma run_cut (h : shape.Writes es) {p : Bytes} (hp : CutFrom p (encode (textOf es))) :
    Breaks (shape.reader.run p) := by
  rw [textOf, encode_objectText] at hp
  rcases hp.cons_cases with rfl | ⟨q, rfl, hq⟩
  · exact fromFirst_nil shape.readFrom
  · rw [run_object]
    exact members_cut h.fits h.nodup true _ (fun _ _ => List.not_mem_nil) hq

lemma visible_membersBytes (h : ∀ e ∈ es, Written e.field.reader (encode e.text) e.value)
    (first : Bool) : ∀ b ∈ membersBytes first es, space ≤ b := by
  have hmarks : space ≤ closeObject ∧ space ≤ comma ∧ space ≤ quote ∧ space ≤ colon := by decide
  obtain ⟨hclose, hcomma, hquote, hcolon⟩ := hmarks
  have hlead : ∀ first, ∀ b ∈ lead first ++ [quote], space ≤ b := by
    rintro (_ | _)
    · exact List.forall_mem_cons.2 ⟨hcomma, List.forall_mem_singleton.2 hquote⟩
    · exact List.forall_mem_singleton.2 hquote
  induction es generalizing first with
  | nil => exact List.forall_mem_singleton.2 hclose
  | cons e es ih =>
    obtain ⟨he, hes⟩ := List.forall_mem_cons.1 h
    refine List.forall_mem_append.2 ⟨hlead first, List.forall_mem_append.2 ⟨?_, ih hes false⟩⟩
    refine List.forall_mem_append.2 ⟨List.forall_mem_append.2 ⟨visible_innerBytes _, ?_⟩, ?_⟩
    · exact List.forall_mem_singleton.2 hquote
    · exact List.forall_mem_cons.2 ⟨hcolon, he.visible⟩

/-- **Records.** What is written for a record is read as the record. -/
theorem written (h : shape.Writes es) :
    Written shape.reader (encode (textOf es)) (shape.recordOf es) where
  run rest _ := run_text h rest
  cut _ hp := Or.inl (run_cut h hp)
  visible := by
    rw [textOf, encode_objectText]
    exact List.forall_mem_cons.2 ⟨by decide, visible_membersBytes h.values true⟩

/-- **A whole text.** A written record is decoded as the record. -/
theorem decode_text (h : shape.Writes es) :
    shape.decode (encode (textOf es)) = .ok (shape.recordOf es) := by
  have hrun := run_text h []
  rw [List.append_nil] at hrun
  have hread : shape.read (encode (textOf es)) = .ok (shape.recordOf es) := by
    rw [read, hrun]
    rfl
  rw [decode, hread]

/-- **A text that breaks off** is a record that ends too early. -/
theorem decode_cut (h : shape.Writes es) {p : Bytes} (hp : CutFrom p (encode (textOf es))) :
    ∃ e, shape.decode p = .error e ∧ e.cause.category = .eof := by
  obtain ⟨f, hf, hc⟩ := run_cut h hp
  have hread : shape.read p = .error f := by
    rw [read, hf]
  exact ⟨f.locate p, by rw [decode, hread], hc⟩

end Shape

end EventLog.Json
