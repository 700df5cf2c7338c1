import NetworkAgent.Settings.Tree

/-!
# Layers of settings

Settings come from several sources, laid over each other in order. A source gives values at places. A file gives its
top-level names as places, and what is below them as a tree. The environment gives one value for each variable whose
name begins with the agent's own start, the rest of the name being the place: two underscores stand for a dot.
-/

namespace NetworkAgent

/-- What a source gives: values at places. -/
abbrev Layer := List (Place × Tree)

namespace Layer

/-- Lays the values of a source over a tree, one after another, if each of them has a place there. -/
def lay (layer : Layer) (base : Tree) : Option Tree :=
  layer.foldlM (fun base entry => entry.2.mergeAt entry.1 (some base)) base

/-- What a file gives, which has to be a table. -/
def ofFile? : Tree → Option Layer
  | .table bs => some (bs.map fun b => (Place.ofText b.1, b.2))
  | _ => none

/-- The start of the names of the agent's variables, in lower case. -/
def variableStart : List Char := ['n', 'd', 'k', '_', '_']

/-- What is left of a text after its start. -/
def afterStart? : List Char → List Char → Option (List Char)
  | [], s => some s
  | _ :: _, [] => none
  | c :: start, d :: s => if c = d then afterStart? start s else none

/-- Writes a dot for every two underscores. -/
def dotted : List Char → List Char
  | '_' :: '_' :: r => '.' :: dotted r
  | c :: r => c :: dotted r
  | [] => []

/-- The value that a variable's text stands for: a truth value, a whole number, a real number, or a text. -/
def ofText (value : String) : Tree :=
  let lower := Tree.lowerCase value
  if lower = "true" then .boolean true
  else if lower = "false" then .boolean false
  else
    match Decimal.readInt64 value.toList with
    | some n => .integer n
    | none =>
      match Decimal.readReal value.toList with
      | some r => .real r
      | none => .text value

/-- What a variable gives, if it is one of the agent's and not empty. -/
def ofVariable (name value : String) : Option (Place × Tree) :=
  if value.isEmpty then none
  else
    (afterStart? variableStart (Tree.lowerCase name).toList).map fun rest =>
      (Place.ofText (String.ofList (dotted rest)), ofText value)

/-- What the environment gives. -/
def ofEnvironment (environment : List (String × String)) : Layer :=
  environment.filterMap fun v => ofVariable v.1 v.2

end Layer

end NetworkAgent
