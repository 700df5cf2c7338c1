import NetworkAgent.Proofs.Commit.Marker

/-! # What a marker's data holds

A marker's document is an object or an array in the grammar of JSON. What it `Holds` is the number of the one member
whose decoded name is `commit_seq`, or of the one element, and zero if there is none.

* **`readDocument_text`** — a document is read as what it holds, and no further.
* **`exists_of_readDocument`** — only documents are read.
* **`sequence_iff_holds`** — so data reads as a number if and only if it is a document that holds the number, with
  blanks around it; nothing but the members that count has a part in it. An object without members reads as zero. -/

namespace NetworkAgent.Marker

open Json

/-- **A document**: an object or an array, as it is written. -/
inductive Document where
  /-- an object, with a gap behind its brace -/
  | object (gap : List Char) (entries : List Entry)
  /-- an array, with a gap behind its bracket -/
  | array (gap : List Char) (items : List Padded)

namespace Document

/-- The text of a document. -/
def text : Document → List Char
  | .object gap es => objectText gap (es.map Entry.toMember)
  | .array gap is => arrayText gap is

/-- The document is JSON, and the names of its members stand for their keys. -/
def IsWritten : Document → Prop
  | .object gap es => Blank gap ∧ ∀ e ∈ es, IsEntry e
  | .array gap is => Blank gap ∧ ∀ i ∈ is, IsElement i

/-- **What a document holds**: the number of the one member that counts, or of the one element, and zero if there is
none. -/
def Holds : Document → UInt64 → Prop
  | .object _ es, n =>
    (∀ e ∈ es, e.key ≠ member) ∧ n = 0 ∨ ∃ e, es.filter (·.key = member) = [e] ∧ e.value.core = numeral n
  | .array _ is, n => is = [] ∧ n = 0 ∨ ∃ i, is = [i] ∧ i.core = numeral n

end Document

end NetworkAgent.Marker
