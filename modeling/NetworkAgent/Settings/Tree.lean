import NetworkAgent.Decimal.Read
import NetworkAgent.Decimal.Shortest
import NetworkAgent.Settings.Place

/-!
# Trees of settings

What a source of settings says is a **tree**: tables with named branches, lists, and leaves. Sources are laid over each
other, each leaf of the upper one replacing what stands at its place and tables being merged branch by branch. Names
of branches are compared without regard to case, so they are kept in lower case.

A value may also be put at a place below others. What is no table or no list on the way there gives way to one, and a
list that is too short is filled up with nothing.

A leaf is converted to what a setting needs: a number or a text, from whatever form it was written in.
-/

namespace NetworkAgent

/-- What a source of settings says. -/
inductive Tree where
  /-- nothing, in the place of an element that no source gives -/
  | nothing
  | boolean (b : Bool)
  /-- a whole number that fits 64 bits with a sign -/
  | integer (n : Int)
  | real (r : Real64)
  | text (s : String)
  | list (ts : List Tree)
  /-- branches with their names, each name once -/
  | table (branches : List (String × Tree))
  deriving Repr, Inhabited

namespace Tree

/-- The lower case of a letter that has an ASCII one, the sign for kelvins among them. -/
def lowerChar (c : Char) : Char := if c = '\u212A' then 'k' else c.toLower

/-- The lower case of a name. -/
def lowerCase (s : String) : String := String.ofList (s.toList.map lowerChar)

/-- The branches of a table; a leaf has none. -/
def branches : Tree → List (String × Tree)
  | .table bs => bs
  | _ => []

/-- The branch of a name. -/
def branch? (t : Tree) (name : String) : Option Tree := t.branches.lookup name

/-- Puts a branch in the place of the one with its name, or after all others. -/
def putBranch (name : String) (t : Tree) : List (String × Tree) → List (String × Tree)
  | [] => [(name, t)]
  | (n, u) :: rest => if n = name then (n, t) :: rest else (n, u) :: putBranch name t rest

mutual

/-- Lays a tree over what is there already, if anything is. -/
def merge : Tree → Option Tree → Tree
  | .table bs, base => mergeBranches bs (base.getD (.table []))
  | .nothing, _ => .nothing
  | .boolean b, _ => .boolean b
  | .integer n, _ => .integer n
  | .real r, _ => .real r
  | .text s, _ => .text s
  | .list ts, _ => .list ts

/-- Lays branches over a tree. A leaf gives way to a table as soon as there is a branch to lay over it. -/
def mergeBranches : List (String × Tree) → Tree → Tree
  | [], base => base
  | (name, t) :: rest, base =>
    let name := lowerCase name
    mergeBranches rest (.table (putBranch name (merge t (base.branch? name)) base.branches))

end

/-- The elements of a list; anything else has none. -/
def elements : Tree → List Tree
  | .list ts => ts
  | _ => []

/-- How many elements a list has room for. -/
def maxElements : Nat := 16777216

/-- Which position in a list of a length a number means. There is none before the first element. -/
def position? (length : Nat) (index : Int) : Option Nat :=
  let n := if index < 0 then index + length else index
  if 0 ≤ n ∧ n < maxElements then some n.toNat else none

/-- Puts an element at a position, filling up a list that is too short. -/
def putElement (position : Nat) (t : Tree) (ts : List Tree) : List Tree :=
  (ts ++ List.replicate (position + 1 - ts.length) Tree.nothing).set position t

/-- Lays a tree over a place. An element is replaced as a whole; only branches are merged. -/
def mergeAt (t : Tree) : Place → Option Tree → Option Tree
  | [], base => some (merge t base)
  | .branch name :: place, base =>
    let base := base.getD .nothing
    let name := lowerCase name
    (mergeAt t place (base.branch? name)).map fun u => .table (putBranch name u base.branches)
  | .element index :: place, base => do
    let ts := (base.getD .nothing).elements
    let position ← position? ts.length index
    let u ← if place.isEmpty then some t else mergeAt t place ts[position]?
    some (.list (putElement position u ts))

/-- The number that a leaf stands for. Words for yes and no count as one and zero, and a real number is rounded. -/
def toWord? : Tree → Option UInt64
  | .boolean b => some (if b then 1 else 0)
  | .integer n => if 0 ≤ n then some (UInt64.ofNat n.toNat) else none
  | .real r => some r.toWord
  | .text s =>
    let l := lowerCase s
    if l = "true" ∨ l = "on" ∨ l = "yes" then some 1
    else if l = "false" ∨ l = "off" ∨ l = "no" then some 0
    else Decimal.readWord s.toList
  | .nothing | .list _ | .table _ => none

/-- The text that a leaf stands for. -/
def toText? : Tree → Option String
  | .boolean b => some (if b then "true" else "false")
  | .integer n => some (toString n)
  | .real r => some (Shortest.text r)
  | .text s => some s
  | .nothing | .list _ | .table _ => none

end Tree

end NetworkAgent
