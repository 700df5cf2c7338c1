import Mathlib.Data.List.Infix
import NetworkAgent.Path.Element
import NetworkAgent.Path.Notation

/-! # The grammar of the two notations

Both notations write down the same thing, a list of segments: names, each with the predicates behind it. They
differ in the signs between the parts, and so in what the parts may hold.

* **`Spelling`** — the signs of a notation; `Spelling.write` is the text of a list of segments. The two spellings
  are `XPath.spelling` and `JsPath.spelling`.
* **`XPath.Admits`**, **`JsPath.Admits`** — the segments whose text can be told apart again: no part holds the
  sign that ends it.
* **`Segment.rename`** — a segment with its name respelled, character by character; `underscored` and `dashed`
  are the respellings of the two translations. -/

namespace NetworkAgent

open XPath (Segment)

/-! ## Spellings -/

/-- **The signs of a notation.** -/
structure Spelling where
  /-- What stands in front of a name. -/
  separator : Char
  /-- What stands in front of a predicate. -/
  opening : List Char
  /-- What stands between the key and the value of a predicate. -/
  equals : List Char
  /-- What stands behind a predicate. -/
  closing : List Char

namespace Spelling

variable (n : Spelling)

/-- The text of a predicate. -/
def predicate (p : List Char × List Char) : List Char :=
  n.opening ++ (p.1 ++ (n.equals ++ (p.2 ++ n.closing)))

/-- The text of a segment: its name, and its predicates. -/
def segment (s : Segment) : List Char := n.separator :: (s.name ++ s.predicates.flatMap n.predicate)

/-- The text of a list of segments. -/
def write (ss : List Segment) : String := String.ofList (ss.flatMap n.segment)

end Spelling

/-! ## Names -/

/-- A character of a name, with an underscore for a dash. -/
def underscored (c : Char) : Char := if c = '-' then '_' else c

/-- A character of a name, with a dash for an underscore. -/
def dashed (c : Char) : Char := if c = '_' then '-' else c

/-- A segment with its name respelled. -/
def XPath.Segment.rename (f : Char → Char) (s : Segment) : Segment := { s with name := s.name.map f }

/-! ## XPaths -/

namespace XPath

/-- The segments of an XPath are `/name[key=value]`. -/
def spelling : Spelling := ⟨'/', ['['], ['='], [']']⟩

/-- **A predicate that an XPath admits.** -/
structure AdmitsPredicate (p : List Char × List Char) : Prop where
  /-- The key is not ended by its own text. -/
  equals_notMem : '=' ∉ p.1
  /-- Nor is the predicate, in its key. -/
  close_notMem_key : ']' ∉ p.1
  /-- Nor is it in its value. -/
  close_notMem_value : ']' ∉ p.2

/-- **A segment that an XPath admits.** -/
structure Admits (s : Segment) : Prop where
  /-- The name starts no other segment. -/
  slash_notMem : '/' ∉ s.name
  /-- The name starts no predicate. -/
  open_notMem : '[' ∉ s.name
  /-- Its predicates are admitted. -/
  predicates : ∀ p ∈ s.predicates, AdmitsPredicate p

instance : DecidablePred AdmitsPredicate := fun p =>
  decidable_of_iff ('=' ∉ p.1 ∧ ']' ∉ p.1 ∧ ']' ∉ p.2)
    ⟨fun ⟨he, hk, hv⟩ => ⟨he, hk, hv⟩, fun ⟨he, hk, hv⟩ => ⟨he, hk, hv⟩⟩

instance : DecidablePred Admits := fun s =>
  decidable_of_iff ('/' ∉ s.name ∧ '[' ∉ s.name ∧ ∀ p ∈ s.predicates, AdmitsPredicate p)
    ⟨fun ⟨hs, ho, hp⟩ => ⟨hs, ho, hp⟩, fun ⟨hs, ho, hp⟩ => ⟨hs, ho, hp⟩⟩

end XPath

/-! ## JSPaths -/

namespace JsPath

/-- The segments of a JSPath have dotted names, and predicates in braces with a dotted key and a quoted value. -/
def spelling : Spelling := ⟨'.', ['{', '.'], ['=', '=', '"'], ['"', '}']⟩

/-- **A predicate that a JSPath admits.** -/
structure AdmitsPredicate (p : List Char × List Char) : Prop where
  /-- The key is not ended by its own text. -/
  equals_notMem : '=' ∉ p.1
  /-- Nor is the predicate, in its key. -/
  close_notMem : '}' ∉ p.1
  /-- Nor is it in its value, which goes on over a quote that no brace follows. -/
  close_notInfix : ¬['"', '}'] <:+: p.2

/-- **A segment that a JSPath admits.** -/
structure Admits (s : Segment) : Prop where
  /-- The name starts no other segment. -/
  dot_notMem : '.' ∉ s.name
  /-- The name starts no predicate. -/
  open_notMem : '{' ∉ s.name
  /-- Its predicates are admitted. -/
  predicates : ∀ p ∈ s.predicates, AdmitsPredicate p

instance : DecidablePred AdmitsPredicate := fun p =>
  decidable_of_iff ('=' ∉ p.1 ∧ '}' ∉ p.1 ∧ ¬['"', '}'] <:+: p.2)
    ⟨fun ⟨he, hk, hv⟩ => ⟨he, hk, hv⟩, fun ⟨he, hk, hv⟩ => ⟨he, hk, hv⟩⟩

instance : DecidablePred Admits := fun s =>
  decidable_of_iff ('.' ∉ s.name ∧ '{' ∉ s.name ∧ ∀ p ∈ s.predicates, AdmitsPredicate p)
    ⟨fun ⟨hd, ho, hp⟩ => ⟨hd, ho, hp⟩, fun ⟨hd, ho, hp⟩ => ⟨hd, ho, hp⟩⟩

end JsPath

end NetworkAgent
