import NetworkAgent.Decimal.Read
import NetworkAgent.Text.Hex
import NetworkAgent.Toml.Document

/-!
# Plain values in configuration files

Values that are written without quotes: truth values, whole numbers in four bases, real numbers, dates and times.
Underscores may separate digits. A whole number has to fit 64 bits and may not begin with a superfluous zero.
-/

namespace NetworkAgent.Toml

/-- Removes the underscores between digits, which must each stand between two. -/
def joinDigits (isDigit : Char → Bool) (s : List Char) : Option (List Char) :=
  let groups := s.splitOn '_'
  if groups.all fun g => !g.isEmpty && g.all isDigit then some groups.flatten else none

/-- Whether a character is a digit of a base up to sixteen. -/
def isDigitOf (base : Nat) (c : Char) : Bool := (Hex.digit? c).any (· < base)

/-- A whole number that fits 64 bits with a sign. -/
def integer? (n : Int) : Option Tree := if Decimal.fitsInt64 n then some (.integer n) else none

/-- Reads digits of a base. -/
def readBased (base : Nat) (s : List Char) : Option Tree := do
  let ds ← joinDigits (isDigitOf base) s
  integer? (ds.foldl (fun n d => n * base + (Hex.digit? d).getD 0) 0 : Nat)

/-- Reads decimal digits without a superfluous zero at the start. -/
def readWhole (s : List Char) : Option (List Char) := do
  let ds ← joinDigits Char.isDigit s
  if ds.head? = some '0' ∧ ds.length ≠ 1 then none else some ds

/-- Reads an exponent: digits after an optional sign. -/
def readExponent (s : List Char) : Option Int := do
  let (negative, r) := Decimal.splitSign s
  let ds ← joinDigits Char.isDigit r
  some (Decimal.withSign negative (Nat.ofDigitChars 10 ds 0))

/-- Reads a real number from its parts. One that is too large is refused, unless it is negative. -/
def realOfParts (negative : Bool) (whole : List Char) (fraction exponent : Option (List Char)) :
    Option Tree := do
  let ws ← readWhole whole
  let fs ← match fraction with
    | some f => joinDigits Char.isDigit f
    | none => some []
  let e ← match exponent with
    | some e => readExponent e
    | none => some 0
  let r := Real64.ofDecimal negative (Nat.ofDigitChars 10 (ws ++ fs) 0) (e - fs.length)
  if r = .infinite false then none else some (.real r)

/-- Whether a character starts an exponent. -/
def startsExponent (c : Char) : Bool := c == 'e' || c == 'E'

/-- The part of a text before the first character of a kind, and what follows that character. -/
def cutAt (p : Char → Bool) (s : List Char) : List Char × Option (List Char) :=
  match s.dropWhile fun c => !p c with
  | [] => (s, none)
  | _ :: r => (s.takeWhile fun c => !p c, some r)

/-- Reads a real number without its sign. -/
def readReal (negative : Bool) (s : List Char) : Option Tree :=
  let (mantissa, exponent) := cutAt startsExponent s
  let (whole, fraction) := cutAt (· == '.') mantissa
  if exponent.isNone ∧ fraction.isNone then none else realOfParts negative whole fraction exponent

/-- Reads a decimal whole number without its sign. -/
def readDecimal (negative : Bool) (s : List Char) : Option Tree := do
  let ds ← readWhole s
  integer? (Decimal.withSign negative (Nat.ofDigitChars 10 ds 0))

/-- Reads a number, with its sign in front. -/
def readNumber (s : List Char) : Option Tree :=
  let (negative, r) := Decimal.splitSign s
  if r = ['i', 'n', 'f'] then some (.real (.infinite negative))
  else if r = ['n', 'a', 'n'] then some (.real .undefined)
  else (readDecimal negative r).orElse fun _ => readReal negative r

/-- Whether a character may stand in a plain value. -/
def isPlainChar (c : Char) : Bool :=
  c.isAlphanum || c == '+' || c == '-' || c == '_' || c == '.' || c == ':'

/-- Reads a plain value that is the whole text. -/
def plain? (s : List Char) : Option Item :=
  match s with
  | ['t', 'r', 'u', 'e'] => some (.value (.boolean true))
  | ['f', 'a', 'l', 's', 'e'] => some (.value (.boolean false))
  | '0' :: 'x' :: r => (readBased 16 r).map .value
  | '0' :: 'o' :: r => (readBased 8 r).map .value
  | '0' :: 'b' :: r => (readBased 2 r).map .value
  | s =>
    match Moment.read? Moment.ofValue s with
    | some text => some (.moment (String.ofList text))
    | none => (readNumber s).map .value

/-- Reads a plain value. A date may be followed by a blank and a time. -/
def readPlain (s : List Char) : Option (Item × List Char) :=
  let token := s.takeWhile isPlainChar
  let rest := s.dropWhile isPlainChar
  let split := (plain? token).map fun v => (v, rest)
  match rest with
  | ' ' :: r =>
    if (Moment.readDate token).isSome ∧ (r.head?.map Char.isDigit) = some true then
      (plain? (token ++ ' ' :: r.takeWhile isPlainChar)).map fun v => (v, r.dropWhile isPlainChar)
    else split
  | _ => split

end NetworkAgent.Toml
