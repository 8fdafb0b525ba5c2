import EventLog.Settings
import Mathlib

/-!
# The file that sets the limits

What a file of settings says, apart from how it is read: it holds a table, and the table gives each
limit a count or leaves it at its standard value. Every file either sets limits in this sense or is
faulty in one of a few ways.

Of several files the first one decides alone. The others do not matter, not even if it is faulty.

* `Settings.ofFile_eq_ok`, `Settings.ofFile_eq_error`: the files that set limits, and the others.
* `Settings.load_of_first`, `Settings.load_of_none`: the search for the file.
* `Settings.decided`: what the search comes to.
-/

namespace EventLog.Settings

/-! ### One file -/

/-- The count that a table gives for a key. If the key is missing, it is the standard one. -/
inductive Gives (entries : Toml.Entries) (key : String) (standard : ℕ) : ℕ → Prop
  | value {n : ℕ} (found : entries.find? key = some (.integer n)) : Gives entries key standard n
  | missing (found : entries.find? key = none) : Gives entries key standard standard

/-- The file can be read and is the text of this table. -/
def Holds (file : Lookup) (entries : Toml.Entries) : Prop :=
  ∃ bytes text, file.content = .ok bytes ∧ Utf8.decode? bytes = some text ∧
    Toml.parse text = some entries

/-- The keys of the limits, with their standard values. -/
def keys : List (String × ℕ) :=
  [("max_line_bytes", Limits.standard.maxLine),
    ("initial_buffer_bytes", Limits.standard.initialBuffer)]

/-- The table gives these limits, each of them under its own key. -/
structure GivesLimits (entries : Toml.Entries) (limits : Limits) : Prop where
  maxLine : Gives entries "max_line_bytes" Limits.standard.maxLine limits.maxLine
  initialBuffer :
    Gives entries "initial_buffer_bytes" Limits.standard.initialBuffer limits.initialBuffer

/-- The file sets these limits. -/
structure Sets (file : Lookup) (limits : Limits) : Prop where
  /-- They are what its table gives. -/
  given : ∃ entries, Holds file entries ∧ GivesLimits entries limits
  /-- A line may have some bytes. -/
  positive : 0 < limits.maxLine

/-- The file sets no limit to anything but its standard value. -/
def SetsNothing (file : Lookup) : Prop :=
  ∃ entries, Holds file entries ∧ ∀ p ∈ keys,
    entries.find? p.1 = none ∨ entries.find? p.1 = some (.integer p.2)

/-- What can be wrong with a file. -/
inductive Faulty (file : Lookup) : Cause → Prop
  /-- It cannot be read. -/
  | unreadable {reason : String} (failed : file.content = .error reason) :
      Faulty file (.unreadable reason)
  /-- It is no text. -/
  | noText {bytes : Bytes} (content : file.content = .ok bytes)
      (undecoded : Utf8.decode? bytes = none) :
      Faulty file (.unreadable "stream did not contain valid UTF-8")
  /-- Its text is no table. -/
  | noTable {bytes : Bytes} {text : List Char} (content : file.content = .ok bytes)
      (decoded : Utf8.decode? bytes = some text) (unparsed : Toml.parse text = none) :
      Faulty file .malformed
  /-- It sets a limit to something that is no whole number from zero on. -/
  | noCount {entries : Toml.Entries} {p : String × ℕ} {node : Toml.Node}
      (holds : Holds file entries) (key : p ∈ keys) (found : entries.find? p.1 = some node)
      (other : ∀ n : ℕ, node ≠ .integer n) :
      Faulty file .malformed
  /-- It allows no line at all. -/
  | zero {entries : Toml.Entries} {initialBuffer : ℕ} (holds : Holds file entries)
      (gives : GivesLimits entries ⟨0, initialBuffer⟩) : Faulty file .zeroLimit

lemma byteCount?_eq_some {entries : Toml.Entries} {key : String} {standard n : ℕ} :
    byteCount? standard (entries.find? key) = some n ↔ Gives entries key standard n := by
  constructor
  · intro h
    cases hf : entries.find? key with
    | none =>
      rw [hf] at h
      cases h
      exact .missing hf
    | some node =>
      rw [hf] at h
      cases node with
      | integer m =>
        rw [byteCount?] at h
        split_ifs at h with hm
        cases h
        exact .value (by rw [hf, Int.toNat_of_nonneg hm])
      | opaqueValue => cases h
      | table origin sub => cases h
      | tables subs => cases h
  · rintro (⟨hf⟩ | ⟨hf⟩)
    · rw [hf, byteCount?, if_pos (Int.natCast_nonneg n), Int.toNat_natCast]
    · rw [hf]
      rfl

/-- A table gives no count for a key that has another value. -/
lemma byteCount?_eq_none {entries : Toml.Entries} {key : String} {standard : ℕ} :
    byteCount? standard (entries.find? key) = none ↔
      ∃ node, entries.find? key = some node ∧ ∀ n : ℕ, node ≠ .integer n := by
  constructor
  · intro h
    cases hf : entries.find? key with
    | none =>
      rw [hf] at h
      cases h
    | some node =>
      refine ⟨node, rfl, ?_⟩
      rintro n rfl
      rw [byteCount?_eq_some.2 (.value hf)] at h
      cases h
  · rintro ⟨node, hf, hnode⟩
    by_contra h
    obtain ⟨n, hn⟩ := Option.ne_none_iff_exists'.1 h
    rcases byteCount?_eq_some.1 hn with ⟨hv⟩ | ⟨hm⟩
    · exact hnode n (Option.some.inj (hf.symm.trans hv))
    · rw [hm] at hf
      cases hf

lemma limits?_eq_some {entries : Toml.Entries} {limits : Limits} :
    limits? entries = some limits ↔ GivesLimits entries limits := by
  simp only [limits?, Option.bind_eq_bind, Option.bind_eq_some_iff, byteCount?_eq_some,
    Option.pure_def, Option.some.injEq]
  constructor
  · rintro ⟨maxLine, hmax, initialBuffer, hinitial, rfl⟩
    exact ⟨hmax, hinitial⟩
  · rintro ⟨hmax, hinitial⟩
    exact ⟨_, hmax, _, hinitial, rfl⟩

/-- A table gives limits unless one of them has a value that is no count. -/
lemma limits?_eq_none {entries : Toml.Entries} :
    limits? entries = none ↔
      ∃ p ∈ keys, ∃ node, entries.find? p.1 = some node ∧ ∀ n : ℕ, node ≠ .integer n := by
  have hnone : limits? entries = none ↔
      ∃ p ∈ keys, byteCount? p.2 (entries.find? p.1) = none := by
    simp only [keys, List.mem_cons, List.not_mem_nil, or_false, exists_eq_or_imp, exists_eq_left,
      limits?]
    cases byteCount? Limits.standard.maxLine (entries.find? "max_line_bytes") <;>
      cases byteCount? Limits.standard.initialBuffer (entries.find? "initial_buffer_bytes") <;>
        simp
  simp only [hnone, byteCount?_eq_none]

/-- **A file sets the limits that its table gives**, as long as a line may have some bytes. -/
theorem ofFile_eq_ok {file : Lookup} {limits : Limits} :
    ofFile file = .ok limits ↔ Sets file limits := by
  constructor
  · intro h
    unfold ofFile at h
    split at h
    · cases h
    · next bytes hcontent =>
      split at h
      · cases h
      · next text htext =>
        unfold ofText at h
        split at h
        · cases h
        · next l hl =>
          obtain ⟨entries, hparse, hlimits⟩ := Option.bind_eq_some_iff.1 hl
          split_ifs at h with hzero
          cases h
          exact ⟨⟨entries, ⟨bytes, text, hcontent, htext, hparse⟩, limits?_eq_some.1 hlimits⟩,
            Nat.pos_of_ne_zero hzero⟩
  · rintro ⟨⟨entries, ⟨bytes, text, hcontent, htext, hparse⟩, hgives⟩, hpositive⟩
    have hlimits := limits?_eq_some.2 hgives
    simp only [ofFile, hcontent, htext, ofText, hparse, Option.bind_some, hlimits,
      if_neg (Nat.ne_of_gt hpositive)]

/-- **Every other file is faulty**, and the fault says in which way. -/
theorem ofFile_eq_error {file : Lookup} {cause : Cause} :
    ofFile file = .error cause ↔ Faulty file cause := by
  constructor
  · intro h
    unfold ofFile at h
    split at h
    · next reason hcontent =>
      cases h
      exact .unreadable hcontent
    · next bytes hcontent =>
      split at h
      · next htext =>
        cases h
        exact .noText hcontent htext
      · next text htext =>
        unfold ofText at h
        split at h
        · next hl =>
          cases h
          cases hparse : Toml.parse text with
          | none => exact .noTable hcontent htext hparse
          | some entries =>
            rw [hparse, Option.bind_some, limits?_eq_none] at hl
            obtain ⟨p, hp, node, hf, hnode⟩ := hl
            exact .noCount ⟨bytes, text, hcontent, htext, hparse⟩ hp hf hnode
        · next l hl =>
          obtain ⟨entries, hparse, hlimits⟩ := Option.bind_eq_some_iff.1 hl
          split_ifs at h with hzero
          cases h
          obtain ⟨maxLine, initialBuffer⟩ := l
          obtain rfl : maxLine = 0 := hzero
          exact .zero ⟨bytes, text, hcontent, htext, hparse⟩ (limits?_eq_some.1 hlimits)
  · rintro (⟨hcontent⟩ | ⟨hcontent, htext⟩ | ⟨hcontent, htext, hparse⟩ |
      ⟨⟨bytes, text, hcontent, htext, hparse⟩, hp, hf, hnode⟩ |
      ⟨⟨bytes, text, hcontent, htext, hparse⟩, hgives⟩)
    · simp only [ofFile, hcontent]
    · simp only [ofFile, hcontent, htext]
    · simp only [ofFile, hcontent, htext, ofText, hparse, Option.bind_none]
    · have hlimits := limits?_eq_none.2 ⟨_, hp, _, hf, hnode⟩
      simp only [ofFile, hcontent, htext, ofText, hparse, Option.bind_some, hlimits]
    · have hlimits := limits?_eq_some.2 hgives
      simp only [ofFile, hcontent, htext, ofText, hparse, Option.bind_some, hlimits, if_true]

lemma sets_standard {file : Lookup} : Sets file .standard ↔ SetsNothing file := by
  have hgives : ∀ {entries : Toml.Entries} {key : String} {n : ℕ}, Gives entries key n n ↔
      entries.find? key = none ∨ entries.find? key = some (.integer n) := by
    intro entries key n
    constructor
    · rintro (⟨hf⟩ | ⟨hf⟩)
      · exact Or.inr hf
      · exact Or.inl hf
    · rintro (hf | hf)
      · exact .missing hf
      · exact .value hf
  constructor
  · rintro ⟨⟨entries, hholds, hmax, hinitial⟩, -⟩
    exact ⟨entries, hholds, List.forall_mem_cons.2
      ⟨hgives.1 hmax, List.forall_mem_singleton.2 (hgives.1 hinitial)⟩⟩
  · rintro ⟨entries, hholds, hkeys⟩
    obtain ⟨hmax, hinitial⟩ := List.forall_mem_cons.1 hkeys
    have hinitial := hinitial _ (List.mem_singleton.2 rfl)
    exact ⟨⟨entries, hholds, hgives.2 hmax, hgives.2 hinitial⟩, by decide⟩

/-! ### The file that counts -/

/-- There is something under this path and nothing under those before it. -/
def First (disk : Disk) (paths : List String) (path : String) : Prop :=
  ∃ before after, paths = before ++ path :: after ∧ (disk path).isPresent ∧
    ∀ p ∈ before, ¬ (disk p).isPresent

lemma find?_eq_some {disk : Disk} {paths : List String} {path : String} :
    find? disk paths = some path ↔ First disk paths path := by
  simp only [find?, List.find?_eq_some_iff_append, First]
  constructor
  · rintro ⟨hpath, before, after, rfl, hbefore⟩
    exact ⟨before, after, rfl, hpath, fun p hp => by simpa using hbefore p hp⟩
  · rintro ⟨before, after, rfl, hpath, hbefore⟩
    exact ⟨hpath, before, after, rfl, fun p hp => by simpa using hbefore p hp⟩

lemma find?_eq_none {disk : Disk} {paths : List String} :
    find? disk paths = none ↔ ∀ p ∈ paths, ¬ (disk p).isPresent :=
  List.find?_eq_none

/-- **The first file alone is read.** -/
lemma load_of_first {disk : Disk} {paths : List String} {path : String}
    (h : First disk paths path) :
    load disk paths = ⟨.loading path, (ofFile (disk path)).mapError (Fault.mk path)⟩ := by
  obtain ⟨before, after, rfl, hpath, hbefore⟩ := h
  induction before with
  | nil => rw [List.nil_append, load, if_pos hpath]
  | cons p before ih =>
    obtain ⟨hp, hbefore⟩ := List.forall_mem_cons.1 hbefore
    rw [List.cons_append, load, if_neg hp, ih hbefore]

/-- Without a file the standard limits hold. -/
lemma load_of_none {disk : Disk} {paths : List String} (h : ∀ p ∈ paths, ¬ (disk p).isPresent) :
    load disk paths = ⟨.noSettings, .ok .standard⟩ := by
  induction paths with
  | nil => rfl
  | cons p paths ih =>
    obtain ⟨hp, hpaths⟩ := List.forall_mem_cons.1 h
    rw [load, if_neg hp, ih hpaths]

/-- The search that reads the file and the one that only tells its path agree. -/
lemma load_eq (disk : Disk) (paths : List String) :
    load disk paths = match find? disk paths with
      | none => ⟨.noSettings, .ok .standard⟩
      | some path => ⟨.loading path, (ofFile (disk path)).mapError (Fault.mk path)⟩ := by
  cases h : find? disk paths with
  | none => exact load_of_none (find?_eq_none.1 h)
  | some path => exact load_of_first (find?_eq_some.1 h)

lemma mapError_eq_ok {path : String} {r : Except Cause Limits} {l : Limits} :
    r.mapError (Fault.mk path) = .ok l ↔ r = .ok l := by
  cases r <;> simp [Except.mapError]

lemma mapError_eq_error {path : String} {r : Except Cause Limits} {e : Fault} :
    r.mapError (Fault.mk path) = .error e ↔ ∃ cause, r = .error cause ∧ ⟨path, cause⟩ = e := by
  cases r <;> simp [Except.mapError]

lemma Fault.path_infix (e : Fault) : e.path.toList <:+: e.message.toList := by
  have hinfix : ∀ front back : String, e.path.toList <:+: (front ++ e.path ++ back).toList := by
    intro front back
    rw [String.toList_append, String.toList_append]
    exact List.infix_append _ _ _
  unfold Fault.message
  split
  · next reason _ =>
    rw [String.append_assoc]
    exact hinfix "Failed to read config file " (": " ++ reason)
  · exact hinfix "Failed to parse config file " ": TOML parse error"
  · exact hinfix "Invalid config file " ": max_line_bytes must be greater than zero"

/-- What becomes of a search for settings. -/
structure Decided (disk : Disk) (paths : List String) : Prop where
  /-- The first path under which there is something is the one that counts. -/
  found : ∀ path, find? disk paths = some path ↔ First disk paths path
  /-- No other path and nothing else on the disk matters. -/
  alone : ∀ path, find? disk paths = some path → ∀ (disk' : Disk) (paths' : List String),
    First disk' paths' path → disk' path = disk path → load disk' paths' = load disk paths
  /-- The limits that hold are those that the file sets, or the standard ones if there is none. -/
  limits : ∀ l, (load disk paths).result = .ok l ↔
    (∀ p ∈ paths, ¬ (disk p).isPresent) ∧ l = .standard ∨
      ∃ path, find? disk paths = some path ∧ Sets (disk path) l
  /-- They allow a line some bytes. -/
  positive : ∀ l, (load disk paths).result = .ok l → 0 < l.maxLine
  /-- The search fails exactly if the file is faulty. The error says in which way, under which path,
  and in its message as well. -/
  fault : ∀ e, (load disk paths).result = .error e ↔
    find? disk paths = some e.path ∧ Faulty (disk e.path) e.cause
  named : ∀ e, (load disk paths).result = .error e → e.path.toList <:+: e.message.toList
  /-- The standard limits hold exactly if there is no file or the file sets nothing else. -/
  standard : (load disk paths).result = .ok .standard ↔
    (∀ p ∈ paths, ¬ (disk p).isPresent) ∨
      ∃ path, find? disk paths = some path ∧ SetsNothing (disk path)

/-- **The first file decides.** -/
theorem decided (disk : Disk) (paths : List String) : Decided disk paths := by
  have hlimits : ∀ l, (load disk paths).result = .ok l ↔
      (∀ p ∈ paths, ¬ (disk p).isPresent) ∧ l = .standard ∨
        ∃ path, find? disk paths = some path ∧ Sets (disk path) l := by
    intro l
    rw [load_eq, ← find?_eq_none]
    cases find? disk paths with
    | none => simp [eq_comm]
    | some path => simp [mapError_eq_ok, ofFile_eq_ok]
  have hfault : ∀ e, (load disk paths).result = .error e ↔
      find? disk paths = some e.path ∧ Faulty (disk e.path) e.cause := by
    rintro ⟨path', cause⟩
    rw [load_eq]
    cases find? disk paths with
    | none => simp
    | some path =>
      simp only [mapError_eq_error, ofFile_eq_error, Option.some.injEq, Fault.mk.injEq]
      constructor
      · rintro ⟨_, h, rfl, rfl⟩
        exact ⟨rfl, h⟩
      · rintro ⟨rfl, h⟩
        exact ⟨cause, h, rfl, rfl⟩
  refine ⟨fun path => find?_eq_some, fun path hpath disk' paths' hfirst hsame => ?_, hlimits,
    fun l hl => ?_, hfault, fun e _ => e.path_infix, ?_⟩
  · rw [load_of_first (find?_eq_some.1 hpath), load_of_first hfirst, hsame]
  · rcases (hlimits l).1 hl with ⟨-, rfl⟩ | ⟨path, -, hsets⟩
    · decide
    · exact hsets.positive
  · rw [hlimits]
    simp [sets_standard]

end EventLog.Settings
