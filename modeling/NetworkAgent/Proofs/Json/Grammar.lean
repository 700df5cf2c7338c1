import NetworkAgent.Json.Syntax

/-! # The grammar of JSON

What a JSON text is, said without the readers: each part of the grammar is a relation between a text and what it stands
for, or a property of a text.

* **`Spelled`** — the inside of a string as it is written, piece by piece; **`Spells`** — the text that pieces stand
  for. Half a surrogate pair stands for none.
* **`IsMagnitude`** — a number without its sign.
* **`Padded`**, **`Member`** — parts of an array and of an object, with the blanks around them.
* **`IsValue`** — the text of a value, of any kind and depth. -/

namespace NetworkAgent.Json

/-! ## Blanks -/

/-- A text of blanks alone. -/
def Blank (s : List Char) : Prop := ∀ c ∈ s, isBlank c = true

instance : DecidablePred Blank := fun s => decidable_of_iff (s.all isBlank = true) List.all_eq_true

/-- **A part of a text with blanks around it.** -/
structure Padded where
  /-- What stands in front. -/
  front : List Char
  /-- The part itself. -/
  core : List Char
  /-- What stands behind. -/
  back : List Char
  deriving DecidableEq

/-- The text with what stands around it. -/
def Padded.text (p : Padded) : List Char := p.front ++ (p.core ++ p.back)

/-- Only blanks stand around the part. -/
structure Padded.Clean (p : Padded) : Prop where
  /-- Those in front are blanks. -/
  front : Blank p.front
  /-- So are those behind. -/
  back : Blank p.back

instance : DecidablePred Padded.Clean := fun p =>
  decidable_of_iff (Blank p.front ∧ Blank p.back) ⟨fun ⟨hf, hb⟩ => ⟨hf, hb⟩, fun ⟨hf, hb⟩ => ⟨hf, hb⟩⟩

/-! ## Strings -/

/-- **The inside of a string as it is written**, with its pieces. -/
inductive Spelled : List Char → List Piece → Prop where
  /-- nothing is written -/
  | nil : Spelled [] []
  /-- a character that stands for itself -/
  | plain {c : Char} {s : List Char} {ps : List Piece} (hc : isPlain c = true) (h : Spelled s ps) :
      Spelled (c :: s) (.char c :: ps)
  /-- an escape of one letter -/
  | short {e c : Char} {s : List Char} {ps : List Piece} (he : shortEscape? e = some c) (h : Spelled s ps) :
      Spelled ('\\' :: e :: s) (.char c :: ps)
  /-- an escape of four hexadecimal digits -/
  | unit {a b c d : Char} {n : Nat} {s : List Char} {ps : List Piece} (hn : hex4? a b c d = some n)
      (h : Spelled s ps) : Spelled ('\\' :: 'u' :: a :: b :: c :: d :: s) (.unit n :: ps)

/-- **The text that pieces stand for.** A number stands for its code point, of which the halves of surrogate pairs have
none; two halves stand for a character together. -/
inductive Spells : List Piece → List Char → Prop where
  /-- no pieces -/
  | nil : Spells [] []
  /-- a character -/
  | char {c : Char} {ps : List Piece} {text : List Char} (h : Spells ps text) : Spells (.char c :: ps) (c :: text)
  /-- the number of a character -/
  | scalar {c : Char} {ps : List Piece} {text : List Char} (h : Spells ps text) :
      Spells (.unit c.toNat :: ps) (c :: text)
  /-- a surrogate pair -/
  | pair {high low : Nat} {c : Char} {ps : List Piece} {text : List Char} (hh : 0xD800 ≤ high ∧ high ≤ 0xDBFF)
      (hl : 0xDC00 ≤ low ∧ low ≤ 0xDFFF) (hc : c.toNat = 0x10000 + (high - 0xD800) * 0x400 + (low - 0xDC00))
      (h : Spells ps text) : Spells (.unit high :: .unit low :: ps) (c :: text)

/-- A string with its quotes. -/
def quoted (inside : List Char) : List Char := '"' :: (inside ++ ['"'])

/-- A string, which may stand for no text. -/
def IsString (s : List Char) : Prop := ∃ inside ps, Spelled inside ps ∧ s = quoted inside

/-- A string that stands for a text. -/
def StandsFor (s text : List Char) : Prop := ∃ inside ps, Spelled inside ps ∧ Spells ps text ∧ s = quoted inside

/-! ## Numbers -/

/-- Digits, of which there is one at least. -/
structure IsDigits (ds : List Char) : Prop where
  /-- There is one. -/
  ne_nil : ds ≠ []
  /-- All are digits. -/
  digits : ∀ c ∈ ds, c.isDigit = true

/-- A whole number: a zero, or digits that do not begin with one. -/
structure IsWhole (ds : List Char) : Prop extends IsDigits ds where
  /-- Nothing follows a zero in front. -/
  zero : ds.head? = some '0' → ds.length = 1

/-- A fraction, or none. -/
inductive IsFraction : List Char → Prop where
  /-- there is none -/
  | none : IsFraction []
  /-- digits behind a point -/
  | point {ds : List Char} (h : IsDigits ds) : IsFraction ('.' :: ds)

/-- An exponent, or none. -/
inductive IsExponent : List Char → Prop where
  /-- there is none -/
  | none : IsExponent []
  /-- digits behind the sign of a power -/
  | bare {e : Char} {ds : List Char} (he : e = 'e' ∨ e = 'E') (h : IsDigits ds) : IsExponent (e :: ds)
  /-- the same with a sign in front of the digits -/
  | signed {e sign : Char} {ds : List Char} (he : e = 'e' ∨ e = 'E') (hs : isSign sign = true) (h : IsDigits ds) :
      IsExponent (e :: sign :: ds)

/-- **A number without its sign**: a whole number, a fraction and an exponent. -/
inductive IsMagnitude : List Char → Prop where
  /-- the three parts -/
  | mk {whole fraction exponent : List Char} (hw : IsWhole whole) (hf : IsFraction fraction)
      (he : IsExponent exponent) : IsMagnitude (whole ++ (fraction ++ exponent))

/-! ## Values -/

/-- The values that are words. -/
def words : List (List Char) := ["true".toList, "false".toList, "null".toList]

/-- **A member of an object**: a name and a value, with a colon between them. -/
structure Member where
  /-- The name. -/
  name : Padded
  /-- The value. -/
  value : Padded
  deriving DecidableEq

/-- The text of a member. -/
def Member.text (m : Member) : List Char := m.name.text ++ ':' :: m.value.text

/-- Only blanks stand around name and value. -/
structure Member.Clean (m : Member) : Prop where
  /-- Those around the name are blanks. -/
  name : m.name.Clean
  /-- So are those around the value. -/
  value : m.value.Clean

instance : DecidablePred Member.Clean := fun m =>
  decidable_of_iff (m.name.Clean ∧ m.value.Clean) ⟨fun ⟨hn, hv⟩ => ⟨hn, hv⟩, fun ⟨hn, hv⟩ => ⟨hn, hv⟩⟩

/-- Parts with commas between them. -/
def listed (parts : List (List Char)) : List Char := [','].intercalate parts

/-- The text of an array, with a gap behind its bracket. -/
def arrayText (gap : List Char) (items : List Padded) : List Char :=
  '[' :: (gap ++ (listed (items.map Padded.text) ++ [']']))

/-- The text of an object, with a gap behind its brace. -/
def objectText (gap : List Char) (members : List Member) : List Char :=
  '\x7b' :: (gap ++ (listed (members.map Member.text) ++ ['\x7d']))

/-- **The text of a value.** -/
inductive IsValue : List Char → Prop where
  /-- a word -/
  | word {w : List Char} (h : w ∈ words) : IsValue w
  /-- a string -/
  | string {s : List Char} (h : IsString s) : IsValue s
  /-- a number -/
  | number {s : List Char} (h : IsMagnitude s) : IsValue s
  /-- a number below zero -/
  | negative {s : List Char} (h : IsMagnitude s) : IsValue ('-' :: s)
  /-- an array of values -/
  | array {gap : List Char} {items : List Padded} (hgap : Blank gap) (hclean : ∀ i ∈ items, i.Clean)
      (h : ∀ i ∈ items, IsValue i.core) : IsValue (arrayText gap items)
  /-- an object of named values -/
  | object {gap : List Char} {members : List Member} (hgap : Blank gap) (hclean : ∀ m ∈ members, m.Clean)
      (hname : ∀ m ∈ members, IsString m.name.core) (h : ∀ m ∈ members, IsValue m.value.core) :
      IsValue (objectText gap members)

/-- An element of an array: a value with blanks around it. -/
structure IsElement (i : Padded) : Prop where
  /-- Only blanks stand around it. -/
  clean : i.Clean
  /-- It is a value. -/
  value : IsValue i.core

/-- A member of an object: a string and a value with blanks around them. -/
structure IsMember (m : Member) : Prop where
  /-- Only blanks stand around name and value. -/
  clean : m.Clean
  /-- The name is a string. -/
  name : IsString m.name.core
  /-- The value is one. -/
  value : IsValue m.value.core

end NetworkAgent.Json
