import EventLog.Proofs.Json.Numbers
import EventLog.Proofs.Json.Objects

/-!
# The grammar of documents

What a document looks like, apart from any reader. A string is told by the characters that it stands
for, and each character may be written in several ways. A value that nobody wants to know is only
known to be well formed (`Valid`); of an object or a list that a record is read from, the keys and
the texts of the values are known (`Members`, `Elements`).

* `CharText`, `Literal`: the texts of a character and of a string.
* `NumberText`, `Valid`: numbers and values of any kind.
* `ObjectText`, `ListText`: objects and lists with given parts.
* `Document`: a whole text.
-/

namespace EventLog.Json

open Ascii Utf8

/-- Nothing but blanks. -/
def Blanks (w : Bytes) : Prop := ∀ b ∈ w, isBlank b

/-! ### Strings -/

/-- Four hexadecimal digits, each in either case, and the number that they denote. -/
inductive HexText : Bytes → ℕ → Prop
  | digits {a b c d : UInt8} {i j k l : ℕ} (first : hexValue? a = some i)
      (second : hexValue? b = some j) (third : hexValue? c = some k)
      (fourth : hexValue? d = some l) :
      HexText [a, b, c, d] (((i * 16 + j) * 16 + k) * 16 + l)

/-- The short escapes: the letter after the backslash, and the character that it stands for. -/
def shortEscapes : List (UInt8 × Char) :=
  [(quote, '"'), (backslash, '\\'), (byte '/', '/'), (byte 'b', '\x08'), (byte 'f', '\x0c'),
    (byte 'n', '\n'), (byte 'r', '\r'), (byte 't', '\t')]

/-- What may be written for a character inside a string. -/
inductive CharText (c : Char) : Bytes → Prop
  /-- The character itself, if it is neither a mark of the grammar nor a control. -/
  | raw (quote : c ≠ '"') (backslash : c ≠ '\\') (visible : 0x20 ≤ c.toNat) :
      CharText c (String.utf8EncodeChar c)
  /-- A short escape. -/
  | short {e : UInt8} (escape : (e, c) ∈ shortEscapes) : CharText c [Ascii.backslash, e]
  /-- An escape by the number of the character. -/
  | number {ds : Bytes} (hex : HexText ds c.toNat) :
      CharText c (Ascii.backslash :: byte 'u' :: ds)
  /-- Two escapes by number that make a pair of surrogates. -/
  | pair {ds es : Bytes} {high low : ℕ} (first : HexText ds high) (second : HexText es low)
      (isHigh : 0xD800 ≤ high ∧ high ≤ 0xDBFF) (isLow : 0xDC00 ≤ low ∧ low ≤ 0xDFFF)
      (sum : c.toNat = 0x10000 + (high - 0xD800) * 0x400 + (low - 0xDC00)) :
      CharText c (Ascii.backslash :: byte 'u' :: (ds ++ Ascii.backslash :: byte 'u' :: es))

/-- What may be written for some characters. -/
inductive CharsText : List Char → Bytes → Prop
  | nil : CharsText [] []
  | cons {c : Char} {cs : List Char} {t s : Bytes} (head : CharText c t) (tail : CharsText cs s) :
      CharsText (c :: cs) (t ++ s)

/-- A string with its quotes. -/
def Literal (x : String) (t : Bytes) : Prop :=
  ∃ s, CharsText x.toList s ∧ t = quote :: (s ++ [quote])

/-- The inside of a string that nobody reads. Its escapes need not make characters, and its bytes
need not make any either. -/
inductive StringBody : Bytes → Prop
  | nil : StringBody []
  | raw {b : UInt8} {s : Bytes} (plain : Plain b) (tail : StringBody s) : StringBody (b :: s)
  | short {e : UInt8} {c : Char} {s : Bytes} (escape : (e, c) ∈ shortEscapes)
      (tail : StringBody s) : StringBody (backslash :: e :: s)
  | number {ds s : Bytes} {n : ℕ} (hex : HexText ds n) (tail : StringBody s) :
      StringBody (backslash :: byte 'u' :: (ds ++ s))

/-! ### Numbers -/

/-- At least one digit. -/
def DigitRow (ds : Bytes) : Prop := ds ≠ [] ∧ ∀ d ∈ ds, isDigit d

/-- The fraction of a number, which may be missing. -/
def FractionText (t : Bytes) : Prop := t = [] ∨ ∃ ds, DigitRow ds ∧ t = point :: ds

/-- The exponent of a number, which may be missing. -/
def ExponentText (t : Bytes) : Prop :=
  t = [] ∨ ∃ e sign ds, e ∈ [byte 'e', byte 'E'] ∧ sign ∈ [[], [plus], [minus]] ∧ DigitRow ds ∧
    t = e :: (sign ++ ds)

/-- A number after its sign. -/
def UnsignedText (t : Bytes) : Prop :=
  ∃ whole fraction exponent, WholeRow whole ∧ FractionText fraction ∧ ExponentText exponent ∧
    t = whole ++ (fraction ++ exponent)

/-- A number of any size. -/
def NumberText (t : Bytes) : Prop :=
  ∃ sign s, sign ∈ [[], [minus]] ∧ UnsignedText s ∧ t = sign ++ s

/-! ### Values -/

/-- The three words. -/
def words : List Bytes := [byte 'n' :: nullTail, byte 't' :: trueTail, byte 'f' :: falseTail]

/-- The byte that opens a bracket. -/
def Bracket.opening : Bracket → UInt8
  | .list => openList
  | .object => openObject

/-- What stands before a value inside a bracket: nothing in a list, a key and a colon in an
object. -/
def Bracket.Label : Bracket → Bytes → Prop
  | .list, t => t = []
  | .object, t => ∃ s w, StringBody s ∧ Blanks w ∧ t = quote :: (s ++ quote :: (w ++ [colon]))

/-- The parts of the grammar of values. -/
inductive Part
  /-- A value. -/
  | value
  /-- What is left of a list or an object, its closing bracket included. -/
  | rest (bracket : Bracket) (first : Bool)

/-- A well-formed value, or what is left of one. -/
inductive Valid : Part → Bytes → Prop
  | word {t : Bytes} (mem : t ∈ words) : Valid .value t
  | number {t : Bytes} (number : NumberText t) : Valid .value t
  | string {s : Bytes} (body : StringBody s) : Valid .value (quote :: (s ++ [quote]))
  | bracket {k : Bracket} {s : Bytes} (rest : Valid (.rest k true) s) :
      Valid .value (k.opening :: s)
  | close {k : Bracket} {first : Bool} {w : Bytes} (blanks : Blanks w) :
      Valid (.rest k first) (w ++ [k.closing])
  | item {k : Bracket} {first : Bool} {w₁ w₂ l w₃ v s : Bytes} (before : Blanks w₁)
      (after : Blanks w₂) (label : k.Label l) (inner : Blanks w₃) (value : Valid .value v)
      (rest : Valid (.rest k false) s) :
      Valid (.rest k first) (w₁ ++ (lead first ++ (w₂ ++ (l ++ (w₃ ++ (v ++ s))))))

/-- What is left of an object with members of these keys and values, its closing bracket
included. -/
inductive Members : Bool → List (String × Bytes) → Bytes → Prop
  | close {first : Bool} {w : Bytes} (blanks : Blanks w) : Members first [] (w ++ [closeObject])
  | member {first : Bool} {key : String} {w₁ w₂ k w₃ w₄ v s : Bytes} {ms : List (String × Bytes)}
      (before : Blanks w₁) (after : Blanks w₂) (literal : Literal key k) (colon : Blanks w₃)
      (inner : Blanks w₄) (value : Valid .value v) (rest : Members false ms s) :
      Members first ((key, v) :: ms)
        (w₁ ++ (lead first ++ (w₂ ++ (k ++ (w₃ ++ Ascii.colon :: (w₄ ++ (v ++ s)))))))

/-- An object with members of these keys and values. -/
def ObjectText (ms : List (String × Bytes)) (t : Bytes) : Prop :=
  ∃ s, Members true ms s ∧ t = openObject :: s

/-- What is left of a list with these values, its closing bracket included. -/
inductive Elements : Bool → List Bytes → Bytes → Prop
  | close {first : Bool} {w : Bytes} (blanks : Blanks w) : Elements first [] (w ++ [closeList])
  | element {first : Bool} {w₁ w₂ v s : Bytes} {vs : List Bytes} (before : Blanks w₁)
      (after : Blanks w₂) (value : Valid .value v) (rest : Elements false vs s) :
      Elements first (v :: vs) (w₁ ++ (lead first ++ (w₂ ++ (v ++ s))))

/-- A list of these values. -/
def ListText (vs : List Bytes) (t : Bytes) : Prop :=
  ∃ s, Elements true vs s ∧ t = openList :: s

/-- A text with a value of some kind and nothing else but blanks. -/
def Document (P : Bytes → Prop) (text : Bytes) : Prop :=
  ∃ w t w', Blanks w ∧ P t ∧ Blanks w' ∧ text = w ++ (t ++ w')

end EventLog.Json
