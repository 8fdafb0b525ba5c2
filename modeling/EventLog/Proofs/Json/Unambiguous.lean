import EventLog.Proofs.Json.Records

/-!
# Texts are taken apart in one way

A text is an object with given members or a list with given elements in one way only, since at each
place the reader decides what comes next. So whether a field is named twice in a text does not
depend on how the text is taken apart, and a text that names one twice is not the text of any
record.

* `Json.Document.both`: the value of a document.
* `Json.ObjectText.unique`, `Json.ListText.unique`: the parts of a text.
* `Json.RecordText.not_repeats`: the text of a record names no field twice.
* `Json.Shape.decode_repeats`: a text that does so is not decoded.
-/

namespace EventLog.Json

open Ascii

variable {ρ : Type}

/-- A text is taken apart in one way into blanks, a value and what follows it. -/
lemma value_unique {w v y w' v' y' : Bytes} (hw : Blanks w) (hv : Valid .value v)
    (hy : NumberEnds y) (hw' : Blanks w') (hv' : Valid .value v') (hy' : NumberEnds y')
    (h : w ++ (v ++ y) = w' ++ (v' ++ y')) : v = v' ∧ y = y' := by
  have hskip := skipValue_valid hw hv hy
  rw [h, skipValue_valid hw' hv' hy'] at hskip
  obtain rfl := Except.ok.inj hskip
  obtain ⟨b, u, rfl, hb, -⟩ := hv.first rfl
  obtain ⟨b', u', rfl, hb', -⟩ := hv'.first rfl
  have hblank := congrArg skipBlank h
  rw [List.cons_append, List.cons_append, skipBlank_blanks hw hb, skipBlank_blanks hw' hb',
    ← List.cons_append, ← List.cons_append] at hblank
  exact ⟨List.append_cancel_right hblank, rfl⟩

/-- A document has one value in it, whatever is known of the value. -/
lemma Document.both {P Q : Bytes → Prop} {text : Bytes} (h : Document P text)
    (h' : Document Q text) (hp : ∀ {t}, P t → Valid .value t) (hq : ∀ {t}, Q t → Valid .value t) :
    ∃ t, P t ∧ Q t := by
  obtain ⟨w, t, y, hw, ht, hy, rfl⟩ := h
  obtain ⟨w', t', y', hw', ht', hy', he⟩ := h'
  have hends : ∀ {y : Bytes}, Blanks y → NumberEnds y := by
    intro y hy
    have := numberEnds_blanks hy (show NumberEnds [] from trivial)
    rwa [List.append_nil] at this
  obtain ⟨rfl, -⟩ := value_unique hw (hp ht) (hends hy) hw' (hq ht') (hends hy') he
  exact ⟨t, ht, ht'⟩

/-! ### Objects -/

/-- What the reader finds at the front of the members of an object: the end or the first member. -/
inductive FirstMember (first : Bool) (s r : Bytes) : List (String × Bytes) → Prop
  | closed (turn : memberTurn first (s ++ r) = .ok (.closed r)) : FirstMember first s r []
  | more {key : String} {t k c w v u : Bytes} {ms : List (String × Bytes)}
      (turn : memberTurn first (s ++ r) = .ok (.more t)) (text : scanText t = .ok (key, k))
      (colon : scanColon k = .ok c) (blanks : Blanks w) (value : Valid .value v)
      (rest : Members false ms u) (split : c = w ++ (v ++ (u ++ r))) :
      FirstMember first s r ((key, v) :: ms)

lemma Members.firstMember {first : Bool} {ms : List (String × Bytes)} {s : Bytes}
    (h : Members first ms s) (r : Bytes) : FirstMember first s r ms := by
  cases h with
  | close blanks => exact .closed (memberTurn_closed.2 ⟨_, blanks, by simp⟩)
  | @member _ key w₁ w₂ k w₃ w₄ v u ms before after literal colon inner value rest =>
    obtain ⟨x, hx, rfl⟩ := literal
    refine .more (t := x ++ quote :: (w₃ ++ Ascii.colon :: (w₄ ++ (v ++ (u ++ r)))))
      (memberTurn_more.2 ⟨w₁, w₂, before, after, by simp⟩) (scanText_eq_ok.2 ⟨x, hx, rfl⟩)
      (scanColon_eq_ok.2 ⟨w₃, colon, rfl⟩) inner value rest rfl

lemma Members.unique {first : Bool} {ms ms' : List (String × Bytes)} {s s' r r' : Bytes}
    (h : Members first ms s) (h' : Members first ms' s') (he : s ++ r = s' ++ r') :
    ms = ms' ∧ r = r' := by
  induction ms generalizing first ms' s s' with
  | nil =>
    cases h.firstMember r with
    | closed turn =>
      rw [he] at turn
      cases h'.firstMember r' with
      | closed turn' => exact ⟨rfl, Turn.closed.inj (Except.ok.inj (turn.symm.trans turn'))⟩
      | more turn' => cases turn.symm.trans turn'
  | cons m ms ih =>
    cases h.firstMember r with
    | more turn text colon blanks value rest split =>
      rw [he] at turn
      cases h'.firstMember r' with
      | closed turn' => cases turn.symm.trans turn'
      | more turn' text' colon' blanks' value' rest' split' =>
        -- one reader goes over both texts: what it finds at each step is the same
        obtain rfl := Turn.more.inj (Except.ok.inj (turn.symm.trans turn'))
        obtain ⟨rfl, rfl⟩ := Prod.mk.inj (Except.ok.inj (text.symm.trans text'))
        obtain rfl := Except.ok.inj (colon.symm.trans colon')
        obtain ⟨rfl, hrest⟩ := value_unique blanks value (rest.valid.numberEnds r) blanks' value'
          (rest'.valid.numberEnds r') (split.symm.trans split')
        obtain ⟨rfl, hr⟩ := ih rest rest' hrest
        exact ⟨rfl, hr⟩

/-- **An object has one list of members.** -/
theorem ObjectText.unique {ms ms' : List (String × Bytes)} {t : Bytes} (h : ObjectText ms t)
    (h' : ObjectText ms' t) : ms = ms' := by
  obtain ⟨s, hs, rfl⟩ := h
  obtain ⟨s', hs', he⟩ := h'
  have hend : s ++ [] = s' ++ [] := by rw [(List.cons.inj he).2]
  exact (hs.unique hs' hend).1

/-! ### Lists -/

/-- What the reader finds at the front of the elements of a list. -/
inductive FirstElement (first : Bool) (s r : Bytes) : List Bytes → Prop
  | closed (turn : elementTurn first (s ++ r) = .ok (.closed r)) : FirstElement first s r []
  | more {v u : Bytes} {vs : List Bytes}
      (turn : elementTurn first (s ++ r) = .ok (.more (v ++ (u ++ r)))) (value : Valid .value v)
      (rest : Elements false vs u) : FirstElement first s r (v :: vs)

lemma Elements.firstElement {first : Bool} {vs : List Bytes} {s : Bytes}
    (h : Elements first vs s) (r : Bytes) : FirstElement first s r vs := by
  cases h with
  | close blanks => exact .closed (elementTurn_closed.2 ⟨_, blanks, by simp⟩)
  | @element _ w₁ w₂ v u vs before after value rest =>
    refine .more ?_ value rest
    have hturn := elementTurn_value first before after value (u ++ r)
    simpa using hturn

lemma Elements.unique {first : Bool} {vs vs' : List Bytes} {s s' r r' : Bytes}
    (h : Elements first vs s) (h' : Elements first vs' s') (he : s ++ r = s' ++ r') :
    vs = vs' ∧ r = r' := by
  induction vs generalizing first vs' s s' with
  | nil =>
    cases h.firstElement r with
    | closed turn =>
      rw [he] at turn
      cases h'.firstElement r' with
      | closed turn' => exact ⟨rfl, Turn.closed.inj (Except.ok.inj (turn.symm.trans turn'))⟩
      | more turn' => cases turn.symm.trans turn'
  | cons v vs ih =>
    cases h.firstElement r with
    | more turn value rest =>
      rw [he] at turn
      cases h'.firstElement r' with
      | closed turn' => cases turn.symm.trans turn'
      | more turn' value' rest' =>
        have hsplit := Turn.more.inj (Except.ok.inj (turn.symm.trans turn'))
        obtain ⟨rfl, hrest⟩ := value_unique .nil value (rest.valid.numberEnds r) .nil value'
          (rest'.valid.numberEnds r') hsplit
        obtain ⟨rfl, hr⟩ := ih rest rest' hrest
        exact ⟨rfl, hr⟩

/-- **A list has one list of elements.** -/
theorem ListText.unique {vs vs' : List Bytes} {t : Bytes} (h : ListText vs t)
    (h' : ListText vs' t) : vs = vs' := by
  obtain ⟨s, hs, rfl⟩ := h
  obtain ⟨s', hs', he⟩ := h'
  have hend : s ++ [] = s' ++ [] := by rw [(List.cons.inj he).2]
  exact (hs.unique hs' hend).1

lemma ObjectText.not_list {ms : List (String × Bytes)} {vs : List Bytes} {t : Bytes}
    (h : ObjectText ms t) (h' : ListText vs t) : False := by
  obtain ⟨s, -, rfl⟩ := h
  obtain ⟨s', -, he⟩ := h'
  exact absurd (List.cons.inj he).1 (by decide)

/-! ### Fields that are named twice -/

/-- A text names a field twice, or the value of a field in it does, as told by `inside`. -/
inductive Repeats (slots : List (Slot ρ)) (inside : String → Bytes → Prop) (t : Bytes) : Prop
  | here {ms : List (String × Bytes)} (text : ObjectText ms t)
      (twice : ¬ (namedKeys slots ms).Nodup)
  | member {ms : List (String × Bytes)} {key : String} {v : Bytes} (text : ObjectText ms t)
      (mem : (key, v) ∈ ms) (name : key ∈ names slots) (value : inside key v)
  | element {vs : List Bytes} {key : String} {v : Bytes} (text : ListText vs t)
      (mem : (key, v) ∈ (names slots).zip vs) (value : inside key v)

section Repeats

variable {shape : Shape ρ} {slots : List (Slot ρ)} {inside : String → Bytes → Prop} {x r : ρ}

lemma Repeats.valid {t : Bytes} (h : Repeats slots inside t) : Valid .value t := by
  cases h with
  | here text twice => exact text.valid
  | member text mem name value => exact text.valid
  | element text mem value => exact text.valid

lemma namedKeys_eq (slots : List (Slot ρ)) (ms : List (String × Bytes)) :
    namedKeys slots ms = (ms.filter (·.1 ∈ names slots)).map Prod.fst :=
  List.filter_map

lemma Told.spelled {ms : List (String × Bytes)} (h : Told slots x ms r) {slot : Slot ρ}
    (hslot : slot ∈ slots) {v : Bytes} (hv : (slot.field.name, v) ∈ ms) :
    slot.Spells (slot.get r) v := by
  have honce := h.once
  rw [namedKeys_eq] at honce
  have hfilter : ∀ {u}, (slot.field.name, u) ∈ ms →
      (slot.field.name, u) ∈ ms.filter (·.1 ∈ names slots) := fun hu =>
    List.mem_filter.2 ⟨hu, by simpa using mem_names hslot⟩
  rcases h.values slot hslot with ⟨u, hu, hspells⟩ | ⟨hnot, -⟩
  · have heq := List.inj_on_of_nodup_map honce (hfilter hu) (hfilter hv) rfl
    rwa [(Prod.mk.inj heq).2] at hspells
  · exact absurd (List.mem_map.2 ⟨_, hv, rfl⟩) hnot

lemma Filled.spelled {vs : List Bytes} (h : Filled x r slots vs) {key : String} {v : Bytes}
    (hv : (key, v) ∈ (names slots).zip vs) :
    ∃ slot ∈ slots, slot.field.name = key ∧ slot.Spells (slot.get r) v := by
  induction h with
  | rest known => simp at hv
  | @value slot slots u vs spells tail ih =>
    rw [names, List.map_cons, List.zip_cons_cons] at hv
    rcases List.mem_cons.1 hv with hv | hv
    · obtain ⟨rfl, rfl⟩ := Prod.mk.inj hv
      exact ⟨slot, List.mem_cons_self, rfl, spells⟩
    · obtain ⟨slot, hslot, hname, hspells⟩ := ih hv
      exact ⟨slot, List.mem_cons_of_mem _ hslot, hname, hspells⟩

/-- **The text of a record names no field twice**, if the spellings of the values do not. -/
theorem RecordText.not_repeats (hin : ∀ slot ∈ slots, ∀ (y : slot.field.Value) (v : Bytes),
      slot.Spells y v → ¬ inside slot.field.name v) {t : Bytes} (h : RecordText slots x r t) :
    ¬ Repeats slots inside t := by
  intro hrepeats
  cases h with
  | object text told =>
    cases hrepeats with
    | here text' twice =>
      obtain rfl := text.unique text'
      exact twice told.once
    | member text' mem name value =>
      obtain rfl := text.unique text'
      obtain ⟨slot, hslot, rfl⟩ := List.mem_map.1 name
      exact hin slot hslot _ _ (told.spelled hslot mem) value
    | element text' mem value => exact text.not_list text'
  | list text filled =>
    cases hrepeats with
    | here text' twice => exact text'.not_list text
    | member text' mem name value => exact text'.not_list text
    | element text' mem value =>
      obtain rfl := text.unique text'
      obtain ⟨slot, hslot, rfl, hspells⟩ := filled.spelled mem
      exact hin slot hslot _ _ hspells value

/-- **A text that names a field twice is not decoded.** -/
lemma Shape.decode_repeats (h : shape.Has slots)
    (ha : ∀ slot ∈ slots, Accepts slot.field.reader slot.Spells)
    (hb : ∀ slot ∈ slots, Admits slot.field.reader slot.Spells)
    (hin : ∀ slot ∈ slots, ∀ (y : slot.field.Value) (v : Bytes),
      slot.Spells y v → ¬ inside slot.field.name v) {text : Bytes}
    (ht : Document (Repeats slots inside) text) : ∃ e, shape.decode text = .error e := by
  cases hd : shape.decode text with
  | error e => exact ⟨e, rfl⟩
  | ok r =>
    obtain ⟨t, hrepeats, htext⟩ := ht.both (Shape.document_of_decode h ha hb hd) Repeats.valid
      RecordText.valid
    exact absurd hrepeats (htext.not_repeats hin)

end Repeats

end EventLog.Json
