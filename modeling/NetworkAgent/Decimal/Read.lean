import NetworkAgent.Decimal.Binary

/-!
# Reading numbers

The written forms of whole numbers and of real numbers. A whole number is a run of digits after an optional
sign. A real number may have a point, with digits on at least one side of it, and an exponent; infinity and the
undefined number are written as words in any case.
-/

namespace NetworkAgent.Decimal

/-- Splits off a sign: whether it is a minus, and the rest. -/
def splitSign : List Char → Bool × List Char
  | '-' :: r => (true, r)
  | '+' :: r => (false, r)
  | s => (false, s)

/-- A number with a sign. -/
def withSign (negative : Bool) (n : Nat) : Int := if negative then -(n : Int) else n

/-- Reads a whole number. -/
def readInt (s : List Char) : Option Int :=
  let (negative, r) := splitSign s
  if !r.isEmpty && r.all Char.isDigit then some (withSign negative (Nat.ofDigitChars 10 r 0)) else none

/-- Whether a whole number fits 64 bits with a sign. -/
def fitsInt64 (n : Int) : Bool := -9223372036854775808 ≤ n && n < 9223372036854775808

/-- Reads a whole number that fits 64 bits with a sign. -/
def readInt64 (s : List Char) : Option Int :=
  match readInt s with
  | some n => if fitsInt64 n then some n else none
  | none => none

/-- Reads a whole number below a bound: digits only, after an optional plus. -/
def readBelow (bound : Nat) (s : List Char) : Option Nat :=
  let r := match s with | '+' :: r => r | r => r
  let n := Nat.ofDigitChars 10 r 0
  if !r.isEmpty && r.all Char.isDigit && n < bound then some n else none

/-- Reads a whole number that fits 64 bits without a sign. -/
def readWord (s : List Char) : Option UInt64 := (readBelow UInt64.size s).map UInt64.ofNat

/-- Reads an exponent, if there is one, that ends the text. -/
def readExponent : List Char → Option Int
  | [] => some 0
  | c :: r => if c = 'e' ∨ c = 'E' then readInt r else none

/-- Reads a real number without its sign. -/
def readUnsigned (negative : Bool) (s : List Char) : Option Real64 :=
  let whole := s.takeWhile Char.isDigit
  let (fraction, rest) :=
    match s.dropWhile Char.isDigit with
    | '.' :: r => (r.takeWhile Char.isDigit, r.dropWhile Char.isDigit)
    | r => ([], r)
  if whole.isEmpty && fraction.isEmpty then none
  else
    (readExponent rest).map fun e =>
      .ofDecimal negative (Nat.ofDigitChars 10 (whole ++ fraction) 0) (e - fraction.length)

/-- Reads a real number. -/
def readReal (s : List Char) : Option Real64 :=
  let (negative, r) := splitSign s
  let word := String.ofList (r.map Char.toLower)
  if word = "inf" ∨ word = "infinity" then some (.infinite negative)
  else if word = "nan" then some .undefined
  else readUnsigned negative r

end NetworkAgent.Decimal
