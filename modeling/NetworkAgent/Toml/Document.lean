import NetworkAgent.Settings.Tree
import NetworkAgent.Toml.Moment

/-!
# The structure of configuration files

A file builds its tree line by line. A header `[a.b]` opens a table, a header `[[a.b]]` adds a table to a list, and a
line `c.d = v` puts a value below the table that was opened last. No part may be given twice: what a table may still
take depends on how it came to be.

* A table of a header's own takes lines only under that header.
* A table on the way to a header's table may still get a header of its own.
* A table on the way to a value takes further values by the same way, and no header of its own.
* A table that is written within a line takes nothing more.

The parts become a tree at the end. A table whose first name is `momentMark` is then no table but the date or time that
is written under that name.
-/

namespace NetworkAgent.Toml

/-- How a table came to be. -/
inductive Origin where
  /-- by a header of its own -/
  | header
  /-- on the way to the table of another header -/
  | implied
  /-- on the way to a value -/
  | dotted
  /-- within a line -/
  | closed
  deriving DecidableEq, Repr

/-- A part of a file that is being read. -/
inductive Item where
  /-- a truth value or a number -/
  | value (t : Tree)
  | text (s : String)
  /-- a date or time in its standard form -/
  | moment (s : String)
  /-- a list within a line -/
  | list (items : List Item)
  | table (o : Origin) (entries : List (String × Item))
  /-- a list of tables, the last of which is open -/
  | tables (ts : List (List (String × Item)))
  deriving Repr, Inhabited

/-- The parts of a table, with their names. -/
abbrev Entries := List (String × Item)

namespace Entries

/-- Puts a part in the place of the one with its name, or after all others. -/
def put (name : String) (item : Item) : Entries → Entries
  | [] => [(name, item)]
  | (n, i) :: rest => if n = name then (n, item) :: rest else (n, i) :: put name item rest

/-- Replaces the last table of a list. -/
def replaceLast (ts : List Entries) (t : Entries) : List Entries := ts.dropLast ++ [t]

/-- Puts a value below a table, the names of `path` leading to the table that takes it. -/
def assign (name : String) (v : Item) : List String → Entries → Option Entries
  | [], es => if (es.lookup name).isSome then none else some (es ++ [(name, v)])
  | p :: path, es =>
    match es.lookup p with
    | none => (assign name v path []).map fun inner => es ++ [(p, .table .dotted inner)]
    | some (.table .dotted inner) =>
      (assign name v path inner).map fun inner => put p (.table .dotted inner) es
    | some (.table .implied inner) =>
      if path.isEmpty then none
      else (assign name v path inner).map fun inner => put p (.table .implied inner) es
    | some (.tables ts) =>
      if path.isEmpty then none
      else (assign name v path (ts.getLastD [])).map fun inner => put p (.tables (replaceLast ts inner)) es
    | some _ => none

/-- Opens the table `name` of a table, as the last of its parts. -/
def openTable (name : String) (es : Entries) : Option Entries :=
  match es.lookup name with
  | none => some (es ++ [(name, .table .header [])])
  | some (.table .implied inner) => some (es.filter (·.1 ≠ name) ++ [(name, .table .header inner)])
  | some _ => none

/-- Adds a table to the list `name` of a table. -/
def openElement (name : String) (es : Entries) : Option Entries :=
  match es.lookup name with
  | none => some (es ++ [(name, .tables [[]])])
  | some (.tables ts) => some (put name (.tables (ts ++ [[]])) es)
  | some _ => none

/-- Changes the table that the names of a header lead to; tables that are missing on the way are made. -/
def below (f : Entries → Option Entries) : List String → Entries → Option Entries
  | [], es => f es
  | p :: path, es =>
    match es.lookup p with
    | none => (below f path []).map fun inner => es ++ [(p, .table .implied inner)]
    | some (.table .closed _) => none
    | some (.table o inner) => (below f path inner).map fun inner => put p (.table o inner) es
    | some (.tables ts) =>
      (below f path (ts.getLastD [])).map fun inner => put p (.tables (replaceLast ts inner)) es
    | some _ => none

end Entries

/-- The name that marks a table as a date or time. -/
def momentMark : String := "$__toml_private_datetime"

/-- The date or time that a part under `momentMark` stands for, which has to be a text. -/
def Item.marked? : Item → Option Tree
  | .text s => (Moment.read? Moment.ofMarked s.toList).map fun t => .text (String.ofList t)
  | _ => none

mutual

/-- The tree of a part. -/
def Item.toTree? : Item → Option Tree
  | .value t => some t
  | .text s | .moment s => some (.text s)
  | .list items => (treesOf? items).map .list
  | .table _ es => tableOf? es
  | .tables ts => (tablesOf? ts).map .list

/-- The trees of the parts of a list. -/
def treesOf? : List Item → Option (List Tree)
  | [] => some []
  | item :: rest => do
    let t ← item.toTree?
    let ts ← treesOf? rest
    some (t :: ts)

/-- The tree of a table's parts. What follows the mark of a date or time does not count. -/
def tableOf? : List (String × Item) → Option Tree
  | [] => some (.table [])
  | (name, item) :: rest =>
    if name = momentMark then item.marked?
    else do
      let t ← item.toTree?
      let bs ← branchesOf? rest
      some (.table ((name, t) :: bs))

/-- The branches of a table's parts. -/
def branchesOf? : List (String × Item) → Option (List (String × Tree))
  | [] => some []
  | (name, item) :: rest => do
    let t ← item.toTree?
    let bs ← branchesOf? rest
    some ((name, t) :: bs)

/-- The trees of a list of tables. -/
def tablesOf? : List (List (String × Item)) → Option (List Tree)
  | [] => some []
  | es :: rest => do
    let t ← tableOf? es
    let ts ← tablesOf? rest
    some (t :: ts)

end

end NetworkAgent.Toml
