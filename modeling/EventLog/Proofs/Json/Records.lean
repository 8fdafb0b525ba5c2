import EventLog.Proofs.Json.Spelling

/-!
# Records and their spellings

A record is spelled as an object or as a list. The members of an object come in any order; those
that no field is named for are passed over, and a field that is not named has its initial value. A
list gives the values of the first fields in their order. Every such text is read as the record, and
a record is read from nothing else.

* `Json.RecordText`: the texts of a record.
* `Json.Shape.accepts`, `Json.Shape.admits`: what is read as a record.
* `Json.Shape.decode_spelled`, `Json.Shape.document_of_decode`: what is decoded as a record.
* `Json.Shape.decode_append`, `Json.Shape.decode_of_append_blank`: nothing follows a record but
  blanks, and these make no difference.
-/

namespace EventLog.Json

open Ascii Utf8

variable {ρ : Type}

/-! ### What is spelled -/

/-- A field of a record, and how its values are spelled. -/
structure Slot (ρ : Type) where
  /-- The field. -/
  field : Field ρ
  /-- The value of a record in this field. -/
  get : ρ → field.Value
  /-- The spellings of a value. -/
  Spells : field.Value → Bytes → Prop

/-- The names of fields. -/
def names (slots : List (Slot ρ)) : List String := slots.map (·.field.name)

/-- The keys of those members that a field is named for. -/
def namedKeys (slots : List (Slot ρ)) (ms : List (String × Bytes)) : List String :=
  (ms.map Prod.fst).filter (· ∈ names slots)

/-- The members of an object tell the record `r`, if `x` is known before. -/
structure Told (slots : List (Slot ρ)) (x : ρ) (ms : List (String × Bytes)) (r : ρ) : Prop where
  /-- No field is named twice. -/
  once : (namedKeys slots ms).Nodup
  /-- The value in a field is that of the member with its name, or the one known before if there is
  no such member. -/
  values : ∀ slot ∈ slots,
    (∃ v, (slot.field.name, v) ∈ ms ∧ slot.Spells (slot.get r) v) ∨
      (slot.field.name ∉ ms.map Prod.fst ∧ slot.get r = slot.get x)

/-- The values of a list are those of `r` in the first fields, and the values in the other fields
are those of `x`. -/
inductive Filled (x r : ρ) : List (Slot ρ) → List Bytes → Prop
  | rest {slots : List (Slot ρ)} (known : ∀ slot ∈ slots, slot.get r = slot.get x) :
      Filled x r slots []
  | value {slot : Slot ρ} {slots : List (Slot ρ)} {v : Bytes} {vs : List Bytes}
      (spells : slot.Spells (slot.get r) v) (tail : Filled x r slots vs) :
      Filled x r (slot :: slots) (v :: vs)

/-- The texts of a record, where fields that are left out have the value of the initial record. -/
inductive RecordText (slots : List (Slot ρ)) (initial r : ρ) (t : Bytes) : Prop
  | object {ms : List (String × Bytes)} (text : ObjectText ms t) (told : Told slots initial ms r)
  | list {vs : List Bytes} (text : ListText vs t) (filled : Filled initial r slots vs)

/-- The slots are the fields of a shape, which are independent of each other and make up a
record. -/
structure Shape.Has (shape : Shape ρ) (slots : List (Slot ρ)) : Prop where
  /-- They are the fields of the shape. -/
  fields : shape.fields = slots.map Slot.field
  /-- Their names are different. -/
  distinct : (names slots).Nodup
  /-- A value that is put into a field is the one found there. -/
  get_set : ∀ slot ∈ slots, ∀ v r, slot.get (slot.field.set v r) = v
  /-- It leaves the other fields. -/
  get_set_ne : ∀ a ∈ slots, ∀ b ∈ slots, a.field.name ≠ b.field.name →
    ∀ v r, a.get (b.field.set v r) = a.get r
  /-- Records with the same values in all fields are the same. -/
  ext : ∀ {x r : ρ}, (∀ slot ∈ slots, slot.get r = slot.get x) → r = x

lemma mem_names {slots : List (Slot ρ)} {slot : Slot ρ} (h : slot ∈ slots) :
    slot.field.name ∈ names slots :=
  List.mem_map.2 ⟨slot, h, rfl⟩

lemma namedKeys_known {slots : List (Slot ρ)} {key : String} (h : key ∈ names slots) (v : Bytes)
    (ms : List (String × Bytes)) : namedKeys slots ((key, v) :: ms) = key :: namedKeys slots ms :=
  List.filter_cons_of_pos (by simpa using h)

lemma namedKeys_unknown {slots : List (Slot ρ)} {key : String} (h : key ∉ names slots) (v : Bytes)
    (ms : List (String × Bytes)) : namedKeys slots ((key, v) :: ms) = namedKeys slots ms :=
  List.filter_cons_of_neg (by simpa using h)

lemma mem_namedKeys {slots : List (Slot ρ)} {key : String} {ms : List (String × Bytes)} :
    key ∈ namedKeys slots ms ↔ key ∈ ms.map Prod.fst ∧ key ∈ names slots := by
  rw [namedKeys, List.mem_filter, decide_eq_true_eq]

/-! ### One member after the other -/

/-- What a member does to what an object has told so far. -/
inductive Step (slots : List (Slot ρ)) (p : Progress ρ) (key : String) (v : Bytes) :
    Progress ρ → Prop
  /-- A member that no field is named for does nothing. -/
  | unknown (name : key ∉ names slots) : Step slots p key v p
  /-- A member with the name of a field, which has not been named before, gives its value. -/
  | known {slot : Slot ρ} {x : slot.field.Value} (mem : slot ∈ slots)
      (name : slot.field.name = key) (fresh : key ∉ p.seen) (spells : slot.Spells x v) :
      Step slots p key v ⟨key :: p.seen, slot.field.set x p.record⟩

/-- The members that are left tell the record. -/
structure Tells (slots : List (Slot ρ)) (p : Progress ρ) (ms : List (String × Bytes)) (r : ρ) :
    Prop where
  /-- They tell it if everything before is known. -/
  told : Told slots p.record ms r
  /-- They name no field that has been named before. -/
  fresh : ∀ key ∈ namedKeys slots ms, key ∉ p.seen

section Tells

variable {shape : Shape ρ} {slots : List (Slot ρ)} {p : Progress ρ} {r : ρ} {key : String}
  {v : Bytes} {ms : List (String × Bytes)}

lemma tells_nil (h : shape.Has slots) : Tells slots p [] r ↔ r = p.record := by
  constructor
  · intro ht
    refine h.ext fun slot hslot => ?_
    rcases ht.told.values slot hslot with ⟨v, hv, -⟩ | ⟨-, hget⟩
    · exact absurd hv List.not_mem_nil
    · exact hget
  · rintro rfl
    exact ⟨⟨List.nodup_nil, fun slot _ => Or.inr ⟨List.not_mem_nil, rfl⟩⟩,
      fun key hkey => absurd hkey List.not_mem_nil⟩

lemma Shape.Has.eq_of_name (h : shape.Has slots) {a b : Slot ρ} (ha : a ∈ slots) (hb : b ∈ slots)
    (hname : a.field.name = b.field.name) : a = b :=
  List.inj_on_of_nodup_map h.distinct ha hb hname

lemma tells_unknown (hkey : key ∉ names slots) :
    Tells slots p ((key, v) :: ms) r ↔ Tells slots p ms r := by
  have hne : ∀ slot ∈ slots, slot.field.name ≠ key := fun slot hslot he =>
    hkey (he ▸ mem_names hslot)
  have hvalues : ∀ slot ∈ slots, ∀ u,
      (slot.field.name, u) ∈ (key, v) :: ms ↔ (slot.field.name, u) ∈ ms := by
    intro slot hslot u
    rw [List.mem_cons, Prod.mk.injEq, or_iff_right fun h => hne slot hslot h.1]
  have hkeys : ∀ slot ∈ slots,
      slot.field.name ∉ ((key, v) :: ms).map Prod.fst ↔ slot.field.name ∉ ms.map Prod.fst := by
    intro slot hslot
    rw [List.map_cons, List.mem_cons, or_iff_right (hne slot hslot)]
  constructor
  · rintro ⟨⟨once, values⟩, fresh⟩
    rw [namedKeys_unknown hkey] at once fresh
    refine ⟨⟨once, fun slot hslot => ?_⟩, fresh⟩
    simpa only [hvalues slot hslot, hkeys slot hslot] using values slot hslot
  · rintro ⟨⟨once, values⟩, fresh⟩
    rw [← namedKeys_unknown hkey v ms] at once fresh
    refine ⟨⟨once, fun slot hslot => ?_⟩, fresh⟩
    simpa only [hvalues slot hslot, hkeys slot hslot] using values slot hslot

/-- Telling the value of a field is the same as putting it there before the other members. -/
lemma tells_known (h : shape.Has slots) {slot : Slot ρ} (hslot : slot ∈ slots) :
    Tells slots p ((slot.field.name, v) :: ms) r ↔
      slot.field.name ∉ p.seen ∧ slot.Spells (slot.get r) v ∧
        Tells slots ⟨slot.field.name :: p.seen, slot.field.set (slot.get r) p.record⟩ ms r := by
  have hname := mem_names hslot
  constructor
  · rintro ⟨⟨once, values⟩, fresh⟩
    rw [namedKeys_known hname, List.nodup_cons] at once
    rw [namedKeys_known hname, List.forall_mem_cons] at fresh
    have hkeys : slot.field.name ∉ ms.map Prod.fst := fun hmem =>
      once.1 (mem_namedKeys.2 ⟨hmem, hname⟩)
    have hspells : slot.Spells (slot.get r) v := by
      rcases values slot hslot with ⟨u, hu, hspells⟩ | ⟨hnot, -⟩
      · rcases List.mem_cons.1 hu with hu | hu
        · rwa [(Prod.mk.inj hu).2] at hspells
        · exact absurd (List.mem_map.2 ⟨_, hu, rfl⟩) hkeys
      · exact absurd List.mem_cons_self hnot
    refine ⟨fresh.1, hspells, ⟨once.2, fun b hb => ?_⟩, fun key hkey => ?_⟩
    · by_cases he : b.field.name = slot.field.name
      · obtain rfl := h.eq_of_name hb hslot he
        exact Or.inr ⟨hkeys, (h.get_set b hb _ _).symm⟩
      · rcases values b hb with ⟨u, hu, hspells⟩ | ⟨hnot, hget⟩
        · exact Or.inl ⟨u, (List.mem_cons.1 hu).resolve_left fun hu => he (Prod.mk.inj hu).1,
            hspells⟩
        · rw [List.map_cons, List.mem_cons, not_or] at hnot
          exact Or.inr ⟨hnot.2, hget.trans (h.get_set_ne b hb slot hslot he _ _).symm⟩
    · rw [List.mem_cons, not_or]
      exact ⟨fun he => once.1 (he ▸ hkey), fresh.2 key hkey⟩
  · rintro ⟨hseen, hspells, ⟨once, values⟩, fresh⟩
    have hkeys : slot.field.name ∉ namedKeys slots ms := fun hmem =>
      fresh _ hmem List.mem_cons_self
    refine ⟨⟨?_, fun b hb => ?_⟩, ?_⟩
    · rw [namedKeys_known hname]
      exact List.nodup_cons.2 ⟨hkeys, once⟩
    · by_cases he : b.field.name = slot.field.name
      · obtain rfl := h.eq_of_name hb hslot he
        exact Or.inl ⟨v, List.mem_cons_self, hspells⟩
      · rcases values b hb with ⟨u, hu, hspells⟩ | ⟨hnot, hget⟩
        · exact Or.inl ⟨u, List.mem_cons_of_mem _ hu, hspells⟩
        · refine Or.inr ⟨?_, hget.trans (h.get_set_ne b hb slot hslot he _ _)⟩
          rw [List.map_cons, List.mem_cons, not_or]
          exact ⟨he, hnot⟩
    · rw [namedKeys_known hname]
      refine List.forall_mem_cons.2 ⟨hseen, fun key hkey hmem => ?_⟩
      exact fresh key hkey (List.mem_cons_of_mem _ hmem)

/-- **Members tell a record one after the other.** -/
lemma tells_cons (h : shape.Has slots) :
    Tells slots p ((key, v) :: ms) r ↔ ∃ q, Step slots p key v q ∧ Tells slots q ms r := by
  constructor
  · intro ht
    by_cases hkey : key ∈ names slots
    · obtain ⟨slot, hslot, rfl⟩ := List.mem_map.1 hkey
      obtain ⟨hseen, hspells, hrest⟩ := (tells_known h hslot).1 ht
      exact ⟨_, .known hslot rfl hseen hspells, hrest⟩
    · exact ⟨p, .unknown hkey, (tells_unknown hkey).1 ht⟩
  · rintro ⟨q, hstep, ht⟩
    cases hstep with
    | unknown name => exact (tells_unknown name).2 ht
    | @known slot x mem name fresh spells =>
      subst name
      -- the value stays in the field, since no other member names it
      have hget : slot.get r = x := by
        rcases ht.told.values slot mem with ⟨u, hu, -⟩ | ⟨-, hget⟩
        · exact absurd List.mem_cons_self
            (ht.fresh _ (mem_namedKeys.2 ⟨List.mem_map.2 ⟨_, hu, rfl⟩, mem_names mem⟩))
        · exact hget.trans (h.get_set slot mem _ _)
      subst hget
      exact (tells_known h mem).2 ⟨fresh, spells, ht⟩

end Tells

/-! ### Objects -/

section Turns

variable {first : Bool} {s r : Bytes}

lemma memberTurn_closed :
    memberTurn first s = .ok (.closed r) ↔ ∃ w, Blanks w ∧ s = w ++ closeObject :: r := by
  constructor
  · intro h
    unfold memberTurn at h
    split at h
    · cases h
    · next b t ht =>
      split_ifs at h with hb hf hq hc
      · cases h
        exact hb ▸ blanks_of_skipBlank ht
      · cases h
      · split at h
        · cases h
        · split_ifs at h
          cases h
  · rintro ⟨w, hw, rfl⟩
    rw [memberTurn, skipBlank_blanks hw (by decide)]
    exact if_pos rfl

lemma memberTurn_more : memberTurn first s = .ok (.more r) ↔
    ∃ w₁ w₂, Blanks w₁ ∧ Blanks w₂ ∧ s = w₁ ++ (lead first ++ (w₂ ++ quote :: r)) := by
  constructor
  · intro h
    unfold memberTurn at h
    split at h
    · cases h
    · next b t ht =>
      obtain ⟨w₁, hw₁, rfl⟩ := blanks_of_skipBlank ht
      split_ifs at h with hb hf hq hc
      · cases h
      · -- the first member
        cases h
        exact ⟨w₁, [], hw₁, .nil, by simp [lead, hf, hq]⟩
      · -- another member, after a comma
        split at h
        · cases h
        · next c u hu =>
          obtain ⟨w₂, hw₂, rfl⟩ := blanks_of_skipBlank hu
          split_ifs at h with hq
          cases h
          exact ⟨w₁, w₂, hw₁, hw₂, by simp [lead, hf, hc, hq]⟩
  · rintro ⟨w₁, w₂, hw₁, hw₂, rfl⟩
    have hquote : skipBlank (w₂ ++ quote :: r) = quote :: r := skipBlank_blanks hw₂ (by decide) r
    cases first with
    | true =>
      rw [memberTurn, skipBlank_append hw₁]
      simp only [lead, if_true, List.nil_append, hquote]
      rfl
    | false =>
      rw [memberTurn, lead, if_neg Bool.false_ne_true, List.singleton_append,
        skipBlank_blanks hw₁ (by decide)]
      simp only [Bool.false_eq_true, if_false, if_true, hquote]
      rfl

end Turns

lemma Members.valid {first : Bool} {ms : List (String × Bytes)} {s : Bytes}
    (h : Members first ms s) : Valid (.rest .object first) s := by
  induction h with
  | close blanks => exact .close blanks
  | @member first key w₁ w₂ k w₃ w₄ v s ms before after literal colon inner value rest ih =>
    obtain ⟨u, hu, rfl⟩ := literal
    have hlabel : Bracket.object.Label (quote :: (u ++ quote :: (w₃ ++ [Ascii.colon]))) :=
      ⟨u, w₃, hu.body, colon, rfl⟩
    have hitem : Valid (.rest .object first) (w₁ ++ (lead first ++ (w₂ ++
        ((quote :: (u ++ quote :: (w₃ ++ [Ascii.colon]))) ++ (w₄ ++ (v ++ s)))))) :=
      .item before after hlabel inner value ih
    simpa using hitem

section Objects

variable {shape : Shape ρ} {slots : List (Slot ρ)} {p q : Progress ρ} {s r : Bytes}

lemma Shape.Has.find?_known (h : shape.Has slots) {slot : Slot ρ} (hslot : slot ∈ slots) :
    shape.fields.find? (·.name == slot.field.name) = some slot.field := by
  have hdistinct := h.distinct
  rw [h.fields]
  refine find?_of_nodup ?_ (List.mem_map_of_mem hslot)
  rwa [List.map_map]

lemma Shape.Has.find?_unknown (h : shape.Has slots) {key : String} (hkey : key ∉ names slots) :
    shape.fields.find? (·.name == key) = none := by
  rw [h.fields, List.find?_eq_none]
  intro f hf he
  obtain ⟨slot, hslot, rfl⟩ := List.mem_map.1 hf
  exact hkey (beq_iff_eq.1 he ▸ mem_names hslot)

lemma Shape.Has.exists_slot (h : shape.Has slots) {key : String} {f : Field ρ}
    (hf : shape.fields.find? (·.name == key) = some f) :
    ∃ slot ∈ slots, slot.field = f ∧ slot.field.name = key := by
  have hmem := List.mem_of_find?_eq_some hf
  rw [h.fields] at hmem
  obtain ⟨slot, hslot, rfl⟩ := List.mem_map.1 hmem
  exact ⟨slot, hslot, rfl, by simpa using List.find?_some hf⟩

lemma Shape.Has.not_mem_names (h : shape.Has slots) {key : String}
    (hf : shape.fields.find? (·.name == key) = none) : key ∉ names slots := by
  intro hkey
  obtain ⟨slot, hslot, rfl⟩ := List.mem_map.1 hkey
  cases hf.symm.trans (h.find?_known hslot)

lemma member_spelled (h : shape.Has slots)
    (ha : ∀ slot ∈ slots, Accepts slot.field.reader slot.Spells) {key : String}
    {k w₁ w₂ v : Bytes} (hk : Literal key k) (hw₁ : Blanks w₁) (hw₂ : Blanks w₂)
    (hv : Valid .value v) (hs : quote :: s = k ++ (w₁ ++ colon :: (w₂ ++ (v ++ r))))
    (hr : NumberEnds r) (hstep : Step slots p key v q) : shape.member p s = .ok (q, r) := by
  obtain ⟨u, hu, rfl⟩ := hk
  have htext : scanText s = .ok (key, w₁ ++ colon :: (w₂ ++ (v ++ r))) :=
    scanText_eq_ok.2 ⟨u, hu, by simpa using hs⟩
  have hcolon : scanColon (w₁ ++ colon :: (w₂ ++ (v ++ r))) = .ok (w₂ ++ (v ++ r)) :=
    scanColon_eq_ok.2 ⟨w₁, hw₁, rfl⟩
  cases hstep with
  | unknown name =>
    simp only [Shape.member, htext, h.find?_unknown name, hcolon, skipValue_valid hw₂ hv hr]
  | @known slot x mem name fresh spells =>
    subst name
    simp only [Shape.member, htext, h.find?_known mem, if_neg fresh, hcolon,
      (ha slot mem).run hw₂ spells hr]

lemma member_sound (h : shape.Has slots)
    (ha : ∀ slot ∈ slots, Accepts slot.field.reader slot.Spells)
    (hb : ∀ slot ∈ slots, Admits slot.field.reader slot.Spells)
    (hm : shape.member p s = .ok (q, r)) :
    ∃ key k w₁ w₂ v, Literal key k ∧ Blanks w₁ ∧ Blanks w₂ ∧ Valid .value v ∧
      quote :: s = k ++ (w₁ ++ colon :: (w₂ ++ (v ++ r))) ∧ Step slots p key v q := by
  unfold Shape.member at hm
  split at hm
  · cases hm
  · next key t ht =>
    obtain ⟨k, hk, hs⟩ := literal_of_scanText ht
    split at hm
    · next f hf =>
      split_ifs at hm with hseen
      obtain ⟨slot, hslot, rfl, hname⟩ := h.exists_slot hf
      split at hm
      · cases hm
      · next u hu =>
        obtain ⟨w₁, hw₁, rfl⟩ := scanColon_eq_ok.1 hu
        split at hm
        · cases hm
        · next x y hx =>
          cases hm
          obtain ⟨w₂, v, hw₂, hv, rfl⟩ := hb slot hslot hx
          exact ⟨key, k, w₁, w₂, v, hk, hw₁, hw₂, (ha slot hslot).valid hv, hs,
            .known hslot hname hseen hv⟩
    · next hf =>
      split at hm
      · cases hm
      · next u hu =>
        obtain ⟨w₁, hw₁, rfl⟩ := scanColon_eq_ok.1 hu
        split at hm
        · cases hm
        · next x hx =>
          cases hm
          obtain ⟨w₂, v, hw₂, hv, rfl⟩ := skipValue_sound hx
          exact ⟨key, k, w₁, w₂, v, hk, hw₁, hw₂, hv, hs, .unknown (h.not_mem_names hf)⟩

/-- **The members of an object are read** as the record that they tell. -/
lemma members_spelled (h : shape.Has slots)
    (ha : ∀ slot ∈ slots, Accepts slot.field.reader slot.Spells) {first : Bool}
    {ms : List (String × Bytes)} {t : Bytes} (ht : Members first ms t) {x : ρ}
    (hx : Tells slots p ms x) : shape.members first p (t ++ r) = .ok (x, r) := by
  induction ht generalizing p with
  | @close first w blanks =>
    obtain rfl := (tells_nil h).1 hx
    exact members_closed (memberTurn_closed.2 ⟨w, blanks, by simp⟩)
  | @member first key w₁ w₂ k w₃ w₄ v t ms before after literal colon inner value rest ih =>
    obtain ⟨q, hstep, hq⟩ := (tells_cons h).1 hx
    obtain ⟨u, hu, rfl⟩ := literal
    have hturn : memberTurn first (w₁ ++ (lead first ++ (w₂ ++ (quote :: (u ++ [quote]) ++
        (w₃ ++ Ascii.colon :: (w₄ ++ (v ++ t)))))) ++ r) =
        .ok (.more (u ++ quote :: (w₃ ++ Ascii.colon :: (w₄ ++ (v ++ (t ++ r)))))) :=
      memberTurn_more.2 ⟨w₁, w₂, before, after, by simp⟩
    have hmember : shape.member p (u ++ quote :: (w₃ ++ Ascii.colon :: (w₄ ++ (v ++ (t ++ r))))) =
        .ok (q, t ++ r) :=
      member_spelled h ha ⟨u, hu, rfl⟩ colon inner value (by simp) (rest.valid.numberEnds r) hstep
    rw [members_more hturn hmember]
    exact ih hq

/-- What is read as the members of an object are members that tell the record. -/
lemma members_sound (h : shape.Has slots)
    (ha : ∀ slot ∈ slots, Accepts slot.field.reader slot.Spells)
    (hb : ∀ slot ∈ slots, Admits slot.field.reader slot.Spells) {first : Bool} {x : ρ}
    (hm : shape.members first p s = .ok (x, r)) :
    ∃ ms t, Members first ms t ∧ s = t ++ r ∧ Tells slots p ms x := by
  fun_induction Shape.members shape first p s with
  | case2 first p s t ht =>
    obtain ⟨w, hw, rfl⟩ := memberTurn_closed.1 ht
    obtain ⟨rfl, rfl⟩ := Prod.mk.inj (Except.ok.inj hm)
    exact ⟨[], _, .close hw, by simp, (tells_nil h).2 rfl⟩
  | case4 first p s t ht q u hu ih =>
    obtain ⟨w₁, w₂, hw₁, hw₂, rfl⟩ := memberTurn_more.1 ht
    obtain ⟨key, k, w₃, w₄, v, hk, hw₃, hw₄, hv, hs, hstep⟩ := member_sound h ha hb hu
    obtain ⟨ms, t', ht', rfl, htells⟩ := ih hm
    refine ⟨(key, v) :: ms, _, .member hw₁ hw₂ hk hw₃ hw₄ hv ht', ?_,
      (tells_cons h).2 ⟨q, hstep, htells⟩⟩
    rw [hs]
    simp
  | _ => cases hm

end Objects

/-! ### Lists -/

section Turns

variable {first : Bool} {s r : Bytes}

lemma elementTurn_closed :
    elementTurn first s = .ok (.closed r) ↔ ∃ w, Blanks w ∧ s = w ++ closeList :: r := by
  constructor
  · intro h
    unfold elementTurn at h
    split at h
    · cases h
    · next b t ht =>
      split_ifs at h with hb hf hc
      · cases h
        exact hb ▸ blanks_of_skipBlank ht
      · cases h
      · split at h
        · cases h
        · split_ifs at h
          cases h
  · rintro ⟨w, hw, rfl⟩
    rw [elementTurn, skipBlank_blanks hw (by decide)]
    exact if_pos rfl

lemma elementTurn_sound (h : elementTurn first s = .ok (.more r)) :
    ∃ w₁ w₂, Blanks w₁ ∧ Blanks w₂ ∧ s = w₁ ++ (lead first ++ (w₂ ++ r)) := by
  unfold elementTurn at h
  split at h
  · cases h
  · next b t ht =>
    obtain ⟨w₁, hw₁, rfl⟩ := blanks_of_skipBlank ht
    split_ifs at h with hb hf hc
    · cases h
    · -- the first element
      cases h
      exact ⟨w₁, [], hw₁, .nil, by simp [lead, hf]⟩
    · -- another element, after a comma
      split at h
      · cases h
      · next c u hu =>
        obtain ⟨w₂, hw₂, rfl⟩ := blanks_of_skipBlank hu
        split_ifs at h
        cases h
        exact ⟨w₁, w₂, hw₁, hw₂, by simp [lead, hf, hc]⟩

lemma elementTurn_value (first : Bool) {w₁ w₂ v : Bytes} (hw₁ : Blanks w₁) (hw₂ : Blanks w₂)
    (hv : Valid .value v) (r : Bytes) :
    elementTurn first (w₁ ++ (lead first ++ (w₂ ++ (v ++ r)))) = .ok (.more (v ++ r)) := by
  obtain ⟨b, u, rfl, hb, hclose⟩ := hv.first rfl
  have hne : b ≠ closeList := hclose .list
  have hblank : skipBlank (w₂ ++ (b :: u ++ r)) = b :: (u ++ r) := skipBlank_blanks hw₂ hb _
  cases first with
  | true =>
    rw [elementTurn, skipBlank_append hw₁]
    simp only [lead, if_true, List.nil_append, hblank, if_neg hne]
    rfl
  | false =>
    rw [elementTurn, lead, if_neg Bool.false_ne_true, List.singleton_append,
      skipBlank_blanks hw₁ (by decide)]
    simp only [Bool.false_eq_true, if_false, if_true, hblank, if_neg hne]
    rfl

lemma listEnd_eq_ok : listEnd s = .ok r ↔ ∃ w, Blanks w ∧ s = w ++ closeList :: r := by
  constructor
  · intro h
    unfold listEnd at h
    split at h
    · cases h
    · next b t ht =>
      split_ifs at h with hb hc
      · cases h
        exact hb ▸ blanks_of_skipBlank ht
      · split at h
        · cases h
        · cases h
  · rintro ⟨w, hw, rfl⟩
    rw [listEnd, skipBlank_blanks hw (by decide)]
    exact if_pos rfl

end Turns

lemma Elements.valid {first : Bool} {vs : List Bytes} {s : Bytes} (h : Elements first vs s) :
    Valid (.rest .list first) s := by
  induction h with
  | close blanks => exact .close blanks
  | @element first w₁ w₂ v s vs before after value rest ih =>
    have hitem :
        Valid (.rest .list first) (w₁ ++ (lead first ++ (w₂ ++ ([] ++ ([] ++ (v ++ s)))))) :=
      .item before after (show Bracket.list.Label [] from rfl) .nil value ih
    exact hitem

lemma Filled.congr {x y r : ρ} {slots : List (Slot ρ)} {vs : List Bytes}
    (h : Filled x r slots vs) (hxy : ∀ slot ∈ slots, slot.get x = slot.get y) :
    Filled y r slots vs := by
  induction h with
  | rest known => exact .rest fun slot hslot => (known slot hslot).trans (hxy slot hslot)
  | value spells tail ih =>
    exact .value spells (ih fun slot hslot => hxy slot (List.mem_cons_of_mem _ hslot))

section Lists

variable {shape : Shape ρ} {before slots : List (Slot ρ)} {slot : Slot ρ}

/-- A value that is put into a field leaves those before it and those after it. -/
lemma Shape.Has.get_set_others (h : shape.Has (before ++ slot :: slots)) {b : Slot ρ}
    (hb : b ∈ before ++ slots) (v : slot.field.Value) (x : ρ) :
    b.get (slot.field.set v x) = b.get x := by
  have hdistinct := h.distinct
  rw [names, List.map_append, List.map_cons, List.nodup_middle, ← List.map_append,
    List.nodup_cons] at hdistinct
  have hmem : ∀ c ∈ before ++ slots, c ∈ before ++ slot :: slots := by
    intro c hc
    rw [List.mem_append] at hc ⊢
    exact hc.imp_right (List.mem_cons_of_mem slot)
  refine h.get_set_ne b (hmem b hb) slot (by simp) (fun he => ?_) v x
  exact hdistinct.1 (he ▸ List.mem_map_of_mem hb)

/-- **The elements of a list are read** into the fields that are left. The fields before them have
the values of the record already. -/
lemma elements_spelled {all : List (Slot ρ)} (h : shape.Has all)
    (ha : ∀ slot ∈ all, Accepts slot.field.reader slot.Spells) {first : Bool} {vs : List Bytes}
    {t : Bytes} (ht : Elements first vs t) {x r : ρ} (hall : all = before ++ slots)
    (hbefore : ∀ b ∈ before, b.get r = b.get x) (hfill : Filled x r slots vs) (rest : Bytes) :
    elements first (slots.map Slot.field) x (t ++ rest) = .ok (r, rest) := by
  induction ht generalizing before slots x with
  | @close first w blanks =>
    cases hfill with
    | rest known =>
      have hrx : r = x := h.ext fun b hb => by
        rw [hall, List.mem_append] at hb
        exact hb.elim (hbefore b) (known b)
      have hclose : w ++ [closeList] ++ rest = w ++ closeList :: rest := by simp
      rw [hclose, hrx]
      cases slots with
      | nil => rw [List.map_nil, elements, listEnd_eq_ok.2 ⟨w, blanks, rfl⟩]
      | cons slot slots => rw [List.map_cons, elements, elementTurn_closed.2 ⟨w, blanks, rfl⟩]
  | @element first w₁ w₂ v t vs hw₁ hw₂ value tail ih =>
    cases hfill with
    | @value slot slots _ _ spells tailFill =>
      subst hall
      have hslot : slot ∈ before ++ slot :: slots := by simp
      have hothers : ∀ b ∈ before ++ slots, ∀ v, b.get (slot.field.set v x) = b.get x :=
        fun b hb v => h.get_set_others hb v x
      have hturn := elementTurn_value first hw₁ hw₂ value (t ++ rest)
      have hrun : slot.field.reader.run (v ++ (t ++ rest)) = .ok (slot.get r, t ++ rest) :=
        (ha slot hslot).run .nil spells (tail.valid.numberEnds rest)
      have hassoc : w₁ ++ (lead first ++ (w₂ ++ (v ++ t))) ++ rest =
          w₁ ++ (lead first ++ (w₂ ++ (v ++ (t ++ rest)))) := by simp
      rw [hassoc, List.map_cons, elements, hturn]
      simp only [hrun]
      have hall : before ++ slot :: slots = (before ++ [slot]) ++ slots := by simp
      refine ih hall ?_ ?_
      · intro b hb
        rcases List.mem_append.1 hb with hb | hb
        · rw [hbefore b hb, hothers b (List.mem_append_left _ hb)]
        · obtain rfl := List.mem_singleton.1 hb
          exact (h.get_set b hslot _ _).symm
      · exact tailFill.congr fun b hb => (hothers b (List.mem_append_right _ hb) _).symm

/-- What is read as the elements of a list are values of the fields that are left. -/
lemma elements_sound {all : List (Slot ρ)} (h : shape.Has all)
    (ha : ∀ slot ∈ all, Accepts slot.field.reader slot.Spells)
    (hb : ∀ slot ∈ all, Admits slot.field.reader slot.Spells) {first : Bool} {x r : ρ}
    {s rest : Bytes} (hall : all = before ++ slots)
    (he : elements first (slots.map Slot.field) x s = .ok (r, rest)) :
    ∃ vs t, Elements first vs t ∧ s = t ++ rest ∧ Filled x r slots vs ∧
      ∀ b ∈ before, b.get r = b.get x := by
  induction slots generalizing before first x s with
  | nil =>
    simp only [List.map_nil, elements] at he
    split at he
    · cases he
    · next u hu =>
      cases he
      obtain ⟨w, hw, rfl⟩ := listEnd_eq_ok.1 hu
      exact ⟨[], _, .close hw, by simp, .rest fun _ _ => rfl, fun _ _ => rfl⟩
  | cons slot slots ih =>
    simp only [List.map_cons, elements] at he
    split at he
    · cases he
    · -- the list is closed
      next u hu =>
      cases he
      obtain ⟨w, hw, rfl⟩ := elementTurn_closed.1 hu
      exact ⟨[], _, .close hw, by simp, .rest fun _ _ => rfl, fun _ _ => rfl⟩
    · -- another value
      next u hu =>
      obtain ⟨w₁, w₂, hw₁, hw₂, rfl⟩ := elementTurn_sound hu
      split at he
      · cases he
      · next v y hv =>
        subst hall
        have hslot : slot ∈ before ++ slot :: slots := by simp
        obtain ⟨w₃, t, hw₃, ht, rfl⟩ := hb slot hslot hv
        have hall : before ++ slot :: slots = (before ++ [slot]) ++ slots := by simp
        obtain ⟨vs, t', ht', rfl, hfill, hbefore⟩ := ih hall he
        have hget : slot.get r = v :=
          (hbefore slot (by simp)).trans (h.get_set slot hslot v x)
        refine ⟨t :: vs, _, .element hw₁ (hw₂.append hw₃) ((ha slot hslot).valid ht) ht',
          by simp, .value (hget ▸ ht) (hfill.congr fun b hb => ?_), fun b hb => ?_⟩
        · exact h.get_set_others (List.mem_append_right _ hb) v x
        · rw [hbefore b (List.mem_append_left _ hb)]
          exact h.get_set_others (List.mem_append_left _ hb) v x

end Lists

/-! ### Whole records -/

lemma ObjectText.valid {ms : List (String × Bytes)} {t : Bytes} (h : ObjectText ms t) :
    Valid .value t := by
  obtain ⟨s, hs, rfl⟩ := h
  exact .bracket hs.valid

lemma ListText.valid {vs : List Bytes} {t : Bytes} (h : ListText vs t) : Valid .value t := by
  obtain ⟨s, hs, rfl⟩ := h
  exact .bracket hs.valid

lemma RecordText.valid {slots : List (Slot ρ)} {initial r : ρ} {t : Bytes}
    (h : RecordText slots initial r t) : Valid .value t := by
  cases h with
  | object text told => exact text.valid
  | list text filled => exact text.valid

namespace Shape

variable {shape : Shape ρ} {slots : List (Slot ρ)} {r : ρ}

lemma run_blanks {w : Bytes} (hw : Blanks w) (s : Bytes) :
    shape.reader.run (w ++ s) = shape.reader.run s :=
  fromFirst_blanks hw s

lemma run_list (s : Bytes) :
    shape.reader.run (openList :: s) = elements true shape.fields shape.initial s :=
  (fromFirst_cons (b := openList) shape.readFrom s (by decide)).trans rfl

lemma run_spelled (h : shape.Has slots)
    (ha : ∀ slot ∈ slots, Accepts slot.field.reader slot.Spells) {w t : Bytes} (hw : Blanks w)
    (ht : RecordText slots shape.initial r t) (rest : Bytes) :
    shape.reader.run (w ++ (t ++ rest)) = .ok (r, rest) := by
  rw [run_blanks hw]
  cases ht with
  | object text told =>
    obtain ⟨s, hs, rfl⟩ := text
    rw [List.cons_append, run_object]
    exact members_spelled h ha hs ⟨told, fun _ _ => List.not_mem_nil⟩
  | list text filled =>
    obtain ⟨s, hs, rfl⟩ := text
    rw [List.cons_append, run_list, h.fields]
    exact elements_spelled h ha hs slots.nil_append.symm (fun _ hb => absurd hb List.not_mem_nil)
      filled rest

/-- **Records are read** from each of their texts. -/
theorem accepts (h : shape.Has slots)
    (ha : ∀ slot ∈ slots, Accepts slot.field.reader slot.Spells) :
    Accepts shape.reader (RecordText slots shape.initial) where
  valid := RecordText.valid
  run hw ht _ := run_spelled h ha hw ht _

theorem admits (h : shape.Has slots)
    (ha : ∀ slot ∈ slots, Accepts slot.field.reader slot.Spells)
    (hb : ∀ slot ∈ slots, Admits slot.field.reader slot.Spells) :
    Admits shape.reader (RecordText slots shape.initial) := by
  intro r s rest hrun
  obtain ⟨w, b, t, hw, rfl, ht⟩ := fromFirst_sound (f := shape.readFrom) hrun
  unfold readFrom at ht
  split_ifs at ht with hobject hlist
  · obtain ⟨ms, u, hu, rfl, htells⟩ := members_sound h ha hb ht
    exact ⟨w, b :: u, hw, .object ⟨u, hu, by rw [hobject]⟩ htells.told, rfl⟩
  · rw [h.fields] at ht
    obtain ⟨vs, u, hu, rfl, hfill, -⟩ := elements_sound h ha hb slots.nil_append.symm ht
    exact ⟨w, b :: u, hw, .list ⟨u, hu, by rw [hlist]⟩ hfill, rfl⟩

lemma decode_of_run {text rest : Bytes} (h : shape.reader.run text = .ok (r, rest))
    (hrest : Blanks rest) : shape.decode text = .ok r := by
  have hblank : skipBlank rest = [] := by
    have := skipBlank_append hrest []
    rwa [List.append_nil] at this
  have hread : shape.read text = .ok r := by
    simp only [read, h, hblank]
  rw [decode, hread]

lemma run_of_decode {text : Bytes} (h : shape.decode text = .ok r) :
    ∃ rest, Blanks rest ∧ shape.reader.run text = .ok (r, rest) := by
  unfold decode at h
  split at h
  · next x hread =>
    obtain rfl := Except.ok.inj h
    unfold read at hread
    split at hread
    · cases hread
    · next y rest hrun =>
      split at hread
      · next hblank =>
        obtain rfl := Except.ok.inj hread
        obtain ⟨w, hw, hrest⟩ := blanks_of_skipBlank hblank
        rw [List.append_nil] at hrest
        exact ⟨rest, hrest ▸ hw, hrun⟩
      · cases hread
  · cases h

/-- **A record is decoded from each of its texts**, with blanks around it. -/
lemma decode_spelled (h : shape.Has slots)
    (ha : ∀ slot ∈ slots, Accepts slot.field.reader slot.Spells) {text : Bytes}
    (ht : Document (RecordText slots shape.initial r) text) : shape.decode text = .ok r := by
  obtain ⟨w, t, w', hw, ht, hw', rfl⟩ := ht
  exact decode_of_run (run_spelled h ha hw ht w') hw'

lemma document_of_decode (h : shape.Has slots)
    (ha : ∀ slot ∈ slots, Accepts slot.field.reader slot.Spells)
    (hb : ∀ slot ∈ slots, Admits slot.field.reader slot.Spells) {text : Bytes}
    (hd : shape.decode text = .ok r) : Document (RecordText slots shape.initial r) text := by
  obtain ⟨rest, hrest, hrun⟩ := run_of_decode hd
  obtain ⟨w, t, hw, ht, rfl⟩ := admits h ha hb hrun
  exact ⟨w, t, rest, hw, ht, hrest, rfl⟩

/-- **Nothing may follow a record** but blanks. -/
lemma decode_append (h : shape.Has slots)
    (ha : ∀ slot ∈ slots, Accepts slot.field.reader slot.Spells) {text more : Bytes}
    (ht : Document (RecordText slots shape.initial r) text) (hmore : ¬ Blanks more) :
    ∃ e, shape.decode (text ++ more) = .error e := by
  obtain ⟨w, t, w', hw, ht, hw', rfl⟩ := ht
  have hrun : shape.reader.run (w ++ (t ++ w') ++ more) = .ok (r, w' ++ more) := by
    have := run_spelled h ha hw ht (w' ++ more)
    simpa using this
  cases hd : shape.decode (w ++ (t ++ w') ++ more) with
  | error e => exact ⟨e, rfl⟩
  | ok x =>
    obtain ⟨rest, hrest, hrun'⟩ := run_of_decode hd
    obtain ⟨-, rfl⟩ := Prod.mk.inj (Except.ok.inj (hrun.symm.trans hrun'))
    exact absurd (fun b hb => hrest b (List.mem_append_right w' hb)) hmore

end Shape

/-! ### Blanks at the end -/

lemma Members.last {first : Bool} {ms : List (String × Bytes)} {s : Bytes}
    (h : Members first ms s) : ∃ u, s = u ++ [closeObject] := by
  induction h with
  | @close first w blanks => exact ⟨w, rfl⟩
  | @member first key w₁ w₂ k w₃ w₄ v s ms before after literal colon inner value rest ih =>
    obtain ⟨u, rfl⟩ := ih
    exact ⟨w₁ ++ (lead first ++ (w₂ ++ (k ++ (w₃ ++ Ascii.colon :: (w₄ ++ (v ++ u)))))), by simp⟩

lemma Elements.last {first : Bool} {vs : List Bytes} {s : Bytes} (h : Elements first vs s) :
    ∃ u, s = u ++ [closeList] := by
  induction h with
  | @close first w blanks => exact ⟨w, rfl⟩
  | @element first w₁ w₂ v s vs before after value rest ih =>
    obtain ⟨u, rfl⟩ := ih
    exact ⟨w₁ ++ (lead first ++ (w₂ ++ (v ++ u))), by simp⟩

lemma RecordText.last {slots : List (Slot ρ)} {initial r : ρ} {t : Bytes}
    (h : RecordText slots initial r t) : ∃ u, ∃ k : Bracket, t = u ++ [k.closing] := by
  cases h with
  | object text told =>
    obtain ⟨s, hs, rfl⟩ := text
    obtain ⟨u, rfl⟩ := hs.last
    exact ⟨openObject :: u, .object, rfl⟩
  | list text filled =>
    obtain ⟨s, hs, rfl⟩ := text
    obtain ⟨u, rfl⟩ := hs.last
    exact ⟨openList :: u, .list, rfl⟩

/-- **A blank at the end of a line makes no difference** to the record that it holds. -/
lemma Shape.decode_of_append_blank {shape : Shape ρ} {slots : List (Slot ρ)} {r : ρ}
    (h : shape.Has slots) (ha : ∀ slot ∈ slots, Accepts slot.field.reader slot.Spells)
    (hb : ∀ slot ∈ slots, Admits slot.field.reader slot.Spells) {text : Bytes} {b : UInt8}
    (hblank : isBlank b) (hd : shape.decode (text ++ [b]) = .ok r) : shape.decode text = .ok r := by
  obtain ⟨w, t, w', hw, ht, hw', htext⟩ := document_of_decode h ha hb hd
  rcases List.eq_nil_or_concat w' with rfl | ⟨v, c, rfl⟩
  · -- the last byte would close a bracket
    obtain ⟨u, k, rfl⟩ := ht.last
    have hlast : text ++ [b] = (w ++ u) ++ [k.closing] := by simpa using htext
    have hbk := (List.append_inj' hlast rfl).2
    rw [(List.cons.inj hbk).1, k.visible_closing] at hblank
    cases hblank
  · have hlast : text ++ [b] = (w ++ (t ++ v)) ++ [c] := by simpa using htext
    refine decode_spelled h ha ⟨w, t, v, hw, ht, fun x hx => ?_, (List.append_inj' hlast rfl).1⟩
    exact hw' x (by simp [hx])

end EventLog.Json
