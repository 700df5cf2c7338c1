import NetworkAgent.Text.Hex

/-!
# The syntax of JSON

Readers for JSON text that check its **syntax** and hand back what follows. Blanks are the space, the tab and the two
line ends.

* `Json.pieces` reads a string as it is written. A skipped string may hold any escape of the right form, half of a
  surrogate pair included; only `Json.readString` decodes the pieces, and so refuses what is no text.
* `Json.skip` skips a value of any kind; a skipped number has no bounds. `Json.skipValue` takes an allowance of nested
  steps, for which the number of characters left is always enough.
-/

namespace NetworkAgent.Json

/-- Whether a character is a blank between tokens. -/
def isBlank (c : Char) : Bool := c == ' ' || c == '\t' || c == '\n' || c == '\r'

/-- What follows the blanks at the start of a text. -/
def skipBlanks (s : List Char) : List Char := s.dropWhile isBlank

/-- The number that four hexadecimal digits spell. -/
def hex4? (a b c d : Char) : Option Nat := Hex.toNat? [a, b, c, d]

/-- The character that a one-letter escape stands for. -/
def shortEscape? (c : Char) : Option Char :=
  if c = '"' then some '"'
  else if c = '\\' then some '\\'
  else if c = '/' then some '/'
  else if c = 'b' then some '\x08'
  else if c = 'f' then some '\x0C'
  else if c = 'n' then some '\n'
  else if c = 'r' then some '\r'
  else if c = 't' then some '\t'
  else none

/-- Whether a character may stand unescaped in a string. -/
def isPlain (c : Char) : Bool := c != '"' && c != '\\' && 0x20 ≤ c.toNat

/-- A part of a string as it is written. -/
inductive Piece where
  /-- a character that stands for itself, or that a one-letter escape stands for -/
  | char (c : Char)
  /-- an escape with the number of a code point, or of half a surrogate pair -/
  | unit (n : Nat)
  deriving DecidableEq, Repr

/-- Puts a piece in front of those that were read. -/
def consPiece (p : Piece) : Option (List Piece × List Char) → Option (List Piece × List Char)
  | some (ps, r) => some (p :: ps, r)
  | none => none

/-- Reads the rest of a string after its opening quote: its pieces and what follows the closing quote. -/
def pieces : List Char → Option (List Piece × List Char)
  | [] => none
  | c :: r =>
    if c = '"' then some ([], r)
    else if c = '\\' then
      match r with
      | 'u' :: a :: b :: c :: d :: r =>
        match hex4? a b c d with
        | some n => consPiece (.unit n) (pieces r)
        | none => none
      | e :: r =>
        match shortEscape? e with
        | some x => consPiece (.char x) (pieces r)
        | none => none
      | [] => none
    else if isPlain c then consPiece (.char c) (pieces r)
    else none

/-- Skips the rest of a string, after its opening quote. -/
def skipString (s : List Char) : Option (List Char) := (pieces s).map (·.2)

/-- Whether a number is the first half of a surrogate pair. -/
def isHighSurrogate (n : Nat) : Bool := 0xD800 ≤ n && n ≤ 0xDBFF

/-- Whether a number is the second half of a surrogate pair. -/
def isLowSurrogate (n : Nat) : Bool := 0xDC00 ≤ n && n ≤ 0xDFFF

/-- The character of a surrogate pair. -/
def joinSurrogates (high low : Nat) : Char :=
  Char.ofNat (0x10000 + (high - 0xD800) * 0x400 + (low - 0xDC00))

/-- The text that pieces spell; half a surrogate pair spells none. -/
def decode : List Piece → Option (List Char)
  | [] => some []
  | .char c :: ps => (decode ps).map (c :: ·)
  | .unit n :: ps =>
    if isHighSurrogate n then
      match ps with
      | .unit m :: ps =>
        if isLowSurrogate m then (decode ps).map (joinSurrogates n m :: ·) else none
      | _ => none
    else if isLowSurrogate n then none
    else (decode ps).map (Char.ofNat n :: ·)

/-- Decodes the rest of a string, after its opening quote: the text and what follows the closing quote. -/
def readString (s : List Char) : Option (List Char × List Char) :=
  match pieces s with
  | some (ps, r) => (decode ps).map fun text => (text, r)
  | none => none

/-- Splits a text after the digits at its start, of which there must be one. -/
def readDigits (s : List Char) : Option (List Char × List Char) :=
  if (s.takeWhile Char.isDigit).isEmpty then none
  else some (s.takeWhile Char.isDigit, s.dropWhile Char.isDigit)

/-- Splits a text after the whole number at its start: a zero, or digits that do not begin with one. -/
def readWhole (s : List Char) : Option (List Char × List Char) :=
  match readDigits s with
  | some (ds, r) => if ds.head? = some '0' ∧ ds.length ≠ 1 then none else some (ds, r)
  | none => none

/-- Skips a fraction, if there is one. -/
def skipFraction : List Char → Option (List Char)
  | '.' :: r => (readDigits r).map (·.2)
  | s => some s

/-- Whether a character is a sign. -/
def isSign (c : Char) : Bool := c == '+' || c == '-'

/-- Skips an exponent, if there is one. -/
def skipExponent : List Char → Option (List Char)
  | c :: r =>
    if c = 'e' ∨ c = 'E' then
      match r with
      | d :: r' => (readDigits (if isSign d then r' else d :: r')).map (·.2)
      | [] => none
    else some (c :: r)
  | [] => some []

/-- Skips a number without its sign. -/
def skipNumber (s : List Char) : Option (List Char) :=
  match readWhole s with
  | some (_, r) => (skipFraction r).bind skipExponent
  | none => none

/-- What follows `word` in a text that starts with it. -/
def skipWord : List Char → List Char → Option (List Char)
  | [], s => some s
  | _ :: _, [] => none
  | w :: word, c :: s => if w = c then skipWord word s else none

mutual

/-- Skips a value, blanks in front of it included. -/
def skipValue : Nat → List Char → Option (List Char)
  | 0, _ => none
  | n + 1, s =>
    match skipBlanks s with
    | [] => none
    | c :: r =>
      if c = '"' then skipString r
      else if c = '[' then
        match skipBlanks r with
        | ']' :: r' => some r'
        | r' => skipElements n r'
      else if c = '\x7b' then
        match skipBlanks r with
        | '\x7d' :: r' => some r'
        | r' => skipMembers n r'
      else if c = 't' then skipWord ['r', 'u', 'e'] r
      else if c = 'f' then skipWord ['a', 'l', 's', 'e'] r
      else if c = 'n' then skipWord ['u', 'l', 'l'] r
      else if c = '-' then skipNumber r
      else skipNumber (c :: r)

/-- Skips the elements of an array and its closing bracket. -/
def skipElements : Nat → List Char → Option (List Char)
  | 0, _ => none
  | n + 1, s =>
    match skipValue n s with
    | none => none
    | some r =>
      match skipBlanks r with
      | ',' :: r' => skipElements n r'
      | ']' :: r' => some r'
      | _ => none

/-- Skips the members of an object and its closing brace. -/
def skipMembers : Nat → List Char → Option (List Char)
  | 0, _ => none
  | n + 1, s =>
    match skipBlanks s with
    | '"' :: r =>
      match skipString r with
      | none => none
      | some r =>
        match skipBlanks r with
        | ':' :: r =>
          match skipValue n r with
          | none => none
          | some r =>
            match skipBlanks r with
            | ',' :: r => skipMembers n r
            | '\x7d' :: r => some r
            | _ => none
        | _ => none
    | _ => none

end

/-- Skips a value, blanks in front of it included. -/
def skip (s : List Char) : Option (List Char) := skipValue (s.length + 1) s

end NetworkAgent.Json
