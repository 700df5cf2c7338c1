import NetworkAgent.Text.Hex

/-!
# Lexemes of configuration files

The smallest parts of a configuration file: blanks, line ends, comments and quoted strings. Every reader takes the rest
of the text and hands back what it read and what follows. A line ends with a line feed, which a carriage return may
precede; no other control character but the tab may stand anywhere.
-/

namespace NetworkAgent.Toml

/-- Whether a character is a blank within a line. -/
def isBlank (c : Char) : Bool := c == ' ' || c == '\t'

/-- What follows the blanks at the start of a text. -/
def skipBlanks (s : List Char) : List Char := s.dropWhile isBlank

/-- Whether a character may stand in a comment or a string. -/
def isAllowed (c : Char) : Bool := c == '\t' || (0x20 ≤ c.toNat && c.toNat != 0x7F)

/-- What follows the line end at the start of a text, if there is one. -/
def lineEnd? : List Char → Option (List Char)
  | '\n' :: r => some r
  | '\r' :: '\n' :: r => some r
  | _ => none

/-- What follows a comment, if one starts here. -/
def skipComment : List Char → List Char
  | '#' :: r => r.dropWhile isAllowed
  | s => s

/-- What follows the rest of a line in which nothing more is said. -/
def endLine (s : List Char) : Option (List Char) :=
  match skipComment (skipBlanks s) with
  | [] => some []
  | r => lineEnd? r

/-- What follows blanks, comments and line ends, `n` being at least the number of lines. -/
def skipLinesWithin : Nat → List Char → List Char
  | 0, s => s
  | n + 1, s =>
    let r := skipComment (skipBlanks s)
    match lineEnd? r with
    | some r => skipLinesWithin n r
    | none => r

/-- What follows blanks, comments and line ends. -/
def skipLines (s : List Char) : List Char := skipLinesWithin s.length s

/-- The character whose number some hexadecimal digits spell. -/
def charOfHex? (ds : List Char) : Option Char := do
  let n ← Hex.toNat? ds
  if n < 0xD800 ∨ (0xDFFF < n ∧ n ≤ 0x10FFFF) then some (Char.ofNat n) else none

/-- The character that a one-letter escape stands for. -/
def shortEscape? (c : Char) : Option Char :=
  if c = 'b' then some '\x08'
  else if c = 't' then some '\t'
  else if c = 'n' then some '\n'
  else if c = 'f' then some '\x0C'
  else if c = 'r' then some '\r'
  else if c = '"' then some '"'
  else if c = '\\' then some '\\'
  else none

/-- Reads an escape after its backslash. -/
def readEscape : List Char → Option (Char × List Char)
  | 'u' :: r => if r.length < 4 then none else (charOfHex? (r.take 4)).map fun c => (c, r.drop 4)
  | 'U' :: r => if r.length < 8 then none else (charOfHex? (r.take 8)).map fun c => (c, r.drop 8)
  | c :: r => (shortEscape? c).map fun x => (x, r)
  | [] => none

/-- Reads a string of one line after its opening quote, with an allowance of one step for each character. -/
def readBasic : Nat → List Char → Option (List Char × List Char)
  | 0, _ => none
  | _, [] => none
  | n + 1, c :: r =>
    if c = '"' then some ([], r)
    else if c = '\\' then
      match readEscape r with
      | some (x, r) => (readBasic n r).map fun p => (x :: p.1, p.2)
      | none => none
    else if isAllowed c then (readBasic n r).map fun p => (c :: p.1, p.2)
    else none

/-- Reads a string of one line without escapes after its opening quote. -/
def readLiteral : List Char → Option (List Char × List Char)
  | [] => none
  | c :: r =>
    if c = '\'' then some ([], r)
    else if isAllowed c then (readLiteral r).map fun p => (c :: p.1, p.2)
    else none

/-- What a run of quotes within a string of several lines comes to: up to two quotes are text, three close the
string, and up to two more before those are text again. -/
def closing (q : Char) (s : List Char) : Option (List Char × List Char) :=
  let run := (s.takeWhile (· == q)).length
  if run < 3 then none else some (List.replicate (min run 5 - 3) q, s.drop (min run 5))

/-- What follows blanks and line ends, `n` being at least the number of characters. -/
def skipSpaceWithin : Nat → List Char → List Char
  | 0, s => s
  | n + 1, s =>
    match lineEnd? (skipBlanks s) with
    | some r => skipSpaceWithin n r
    | none => skipBlanks s

/-- Reads a string of several lines after its opening, with an allowance of one step for each character;
`escapes` tells whether backslashes mean anything. -/
def readMultiline (q : Char) (escapes : Bool) : Nat → List Char → Option (List Char × List Char)
  | 0, _ => none
  | _, [] => none
  | n + 1, c :: r =>
    if c = q then
      match closing q (c :: r) with
      | some p => some p
      | none => (readMultiline q escapes n r).map fun p => (c :: p.1, p.2)
    else if escapes ∧ c = '\\' then
      match lineEnd? (skipBlanks r) with
      | some r => readMultiline q escapes n (skipSpaceWithin n r)
      | none =>
        match readEscape r with
        | some (x, r) => (readMultiline q escapes n r).map fun p => (x :: p.1, p.2)
        | none => none
    else
      match lineEnd? (c :: r) with
      | some r => (readMultiline q escapes n r).map fun p => ('\n' :: p.1, p.2)
      | none =>
        if isAllowed c then (readMultiline q escapes n r).map fun p => (c :: p.1, p.2) else none

/-- A line end right after the opening of a string of several lines does not count. -/
def dropFirstLineEnd (s : List Char) : List Char := (lineEnd? s).getD s

/-- Reads a string of any kind, if one starts here. -/
def readString (s : List Char) : Option (List Char × List Char) :=
  match s with
  | '"' :: '"' :: '"' :: r => readMultiline '"' true s.length (dropFirstLineEnd r)
  | '\'' :: '\'' :: '\'' :: r => readMultiline '\'' false s.length (dropFirstLineEnd r)
  | '"' :: r => readBasic s.length r
  | '\'' :: r => readLiteral r
  | _ => none

/-- Whether a character may stand in a name without quotes. -/
def isNameChar (c : Char) : Bool := c.isAlphanum || c == '_' || c == '-'

/-- Reads one name. -/
def readName (s : List Char) : Option (String × List Char) :=
  match s with
  | '"' :: r => (readBasic s.length r).map fun p => (String.ofList p.1, p.2)
  | '\'' :: r => (readLiteral r).map fun p => (String.ofList p.1, p.2)
  | _ =>
    if (s.takeWhile isNameChar).isEmpty then none
    else some (String.ofList (s.takeWhile isNameChar), s.dropWhile isNameChar)

/-- Reads at most `n` names with dots between them; blanks may surround the dots. -/
def readPathWithin : Nat → List Char → Option (List String × List Char)
  | 0, _ => none
  | n + 1, s =>
    match readName (skipBlanks s) with
    | none => none
    | some (name, r) =>
      match skipBlanks r with
      | '.' :: r => (readPathWithin n r).map fun p => (name :: p.1, p.2)
      | r => some ([name], r)

/-- How deep lists and tables may be nested, and how many names a path may have. -/
def maxDepth : Nat := 79

/-- Reads names with dots between them. -/
def readPath (s : List Char) : Option (List String × List Char) := readPathWithin maxDepth s

end NetworkAgent.Toml
