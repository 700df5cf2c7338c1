import NetworkAgent.Decimal.Read

/-!
# Places in settings

A **place** says where in a tree of settings a value belongs: a list of steps from the top, each to a branch of a
table or to an element of a list. A place is written as names with dots between them. Each name may be followed by
subscripts in brackets, whole numbers of which a negative one counts from the end of the list: `a.b[0].c`.

A text that is not written like that is a single name.
-/

namespace NetworkAgent

/-- A step on the way to a place. -/
inductive Place.Step where
  /-- to the branch with a name -/
  | branch (name : String)
  /-- to the element with a number, which counts from the end if it is negative -/
  | element (index : Int)
  deriving DecidableEq, Repr

/-- Where a value belongs: the steps that lead there from the top. -/
abbrev Place := List Place.Step

namespace Place

/-- Whether a character may stand in a name. -/
def isNameChar (c : Char) : Bool := c.isAlphanum || c == ' ' || c == '_' || c == '-'

/-- Whether a character may surround the number of a subscript. -/
def isBlank (c : Char) : Bool := c == ' ' || c == '\t'

/-- Reads a subscript after its opening bracket. The number has to fit 64 bits with a sign. -/
def subscript? (s : List Char) : Option Int :=
  let (negative, r) :=
    match s.dropWhile isBlank with
    | '-' :: r => (true, r)
    | r => (false, r)
  let digits := r.takeWhile Char.isDigit
  let n := Decimal.withSign negative (Nat.ofDigitChars 10 digits 0)
  if !digits.isEmpty && Decimal.fitsInt64 n && (r.dropWhile Char.isDigit).dropWhile isBlank == [']'] then some n
  else none

/-- Reads a name with its subscripts. -/
def part? (s : List Char) : Option Place :=
  match s.splitOn '[' with
  | [] => none
  | name :: subscripts =>
    if name.isEmpty || !name.all isNameChar then none
    else (subscripts.mapM subscript?).map fun is => .branch (String.ofList name) :: is.map .element

/-- The place that a text stands for. -/
def ofText (s : String) : Place :=
  match (s.toList.splitOn '.').mapM part? with
  | some parts => parts.flatten
  | none => [.branch s]

end Place

end NetworkAgent
