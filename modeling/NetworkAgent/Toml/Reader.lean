import NetworkAgent.Toml.Lexeme
import NetworkAgent.Toml.Number

/-!
# Reading configuration files

`Toml.read` reads the text of a configuration file into a tree. Lists and tables within a line may be nested up to a
bound. Readers of nested parts take an allowance of steps; one for each character is enough.
-/

namespace NetworkAgent.Toml

mutual

/-- Reads a value, `depth` being how much deeper it may be nested. -/
def readValue : Nat → Nat → List Char → Option (Item × List Char)
  | 0, _, _ => none
  | n + 1, depth, s =>
    match s with
    | '[' :: r =>
      match depth with
      | 0 => none
      | d + 1 =>
        match skipLines r with
        | ']' :: r => some (.list [], r)
        | r => (readElements n d r).map fun p => (.list p.1, p.2)
    | '\x7b' :: r =>
      match depth with
      | 0 => none
      | d + 1 =>
        match skipBlanks r with
        | '\x7d' :: r => some (.table .closed [], r)
        | r => (readPairs n d [] r).map fun p => (.table .closed p.1, p.2)
    | s =>
      match readString s with
      | some (text, r) => some (.text (String.ofList text), r)
      | none => if s.head? = some '"' ∨ s.head? = some '\'' then none else readPlain s

/-- Reads the elements of a list and its closing bracket; a comma may follow the last one. -/
def readElements : Nat → Nat → List Char → Option (List Item × List Char)
  | 0, _, _ => none
  | n + 1, depth, s =>
    match readValue n depth s with
    | none => none
    | some (v, r) =>
      match skipLines r with
      | ']' :: r => some ([v], r)
      | ',' :: r =>
        match skipLines r with
        | ']' :: r => some ([v], r)
        | r => (readElements n depth r).map fun p => (v :: p.1, p.2)
      | _ => none

/-- Reads the pairs of a table within a line and its closing brace. -/
def readPairs : Nat → Nat → Entries → List Char → Option (Entries × List Char)
  | 0, _, _, _ => none
  | n + 1, depth, es, s =>
    match readPath s with
    | none => none
    | some (path, r) =>
      match r with
      | '=' :: r =>
        match readValue n depth (skipBlanks r) with
        | none => none
        | some (v, r) =>
          match es.assign (path.getLastD "") v path.dropLast with
          | none => none
          | some es =>
            match skipBlanks r with
            | '\x7d' :: r => some (es, r)
            | ',' :: r => readPairs n depth es r
            | _ => none
      | _ => none

end

/-- What has been read of a file. -/
structure Draft where
  /-- The parts. -/
  entries : Entries
  /-- The names of the table that was opened last. -/
  current : List String

/-- Takes a header, `element` telling whether it adds a table to a list. -/
def Draft.open (d : Draft) (element : Bool) (path : List String) : Option Draft :=
  let name := path.getLastD ""
  let f := if element then Entries.openElement name else Entries.openTable name
  (d.entries.below f path.dropLast).map fun es => ⟨es, path⟩

/-- Takes a value. -/
def Draft.assign (d : Draft) (path : List String) (v : Item) : Option Draft :=
  (d.entries.below (fun es => es.assign (path.getLastD "") v path.dropLast) d.current).map
    fun es => ⟨es, d.current⟩

/-- Reads a header after its opening bracket. -/
def readHeader (d : Draft) : List Char → Option (Draft × List Char)
  | '[' :: r => do
    let (path, r) ← readPath r
    match r with
    | ']' :: ']' :: r => (d.open true path).map fun d => (d, r)
    | _ => none
  | r => do
    let (path, r) ← readPath r
    match r with
    | ']' :: r => (d.open false path).map fun d => (d, r)
    | _ => none

/-- Reads a line that gives a value. -/
def readAssignment (d : Draft) (s : List Char) : Option (Draft × List Char) := do
  let (path, r) ← readPath s
  match r with
  | '=' :: r =>
    let (v, r) ← readValue (r.length + 1) maxDepth (skipBlanks r)
    (d.assign path v).map fun d => (d, r)
  | _ => none

/-- Reads lines to the end of the file, with an allowance of one step for each. -/
def readLines : Nat → Draft → List Char → Option Draft
  | 0, _, _ => none
  | n + 1, d, s =>
    match skipLines s with
    | [] => some d
    | c :: r => do
      let (d, r) ← if c = '[' then readHeader d r else readAssignment d (c :: r)
      let r ← endLine r
      readLines n d r

/-- Drops the mark that a text may begin with. -/
def dropMark : List Char → List Char
  | c :: r => if c = '\uFEFF' then r else c :: r
  | [] => []

/-- Reads a configuration file. -/
def read (text : String) : Option Tree :=
  let s := dropMark text.toList
  (readLines (s.length + 1) ⟨[], []⟩ s).bind fun d => tableOf? d.entries

end NetworkAgent.Toml
