/-!
# Binary fractions of double precision

A real number written in decimal is kept as the nearest number `m · 2 ^ q` with `m` below `2 ^ 53` and `q` from
`-1074` to `971`; of two nearest ones, as the one with an even `m`. What is too large for that is infinite. All
arithmetic is on natural numbers, so every step is exact but the one rounding.

* `Real64.ofDecimal` rounds a decimal number.
* `Real64.toWord` rounds to a whole number that fits 64 bits, halves going away from zero and what does not fit to
  the nearest bound.
-/

namespace NetworkAgent

/-- A number of double precision. -/
inductive Real64 where
  /-- `mantissa * 2 ^ exponent`, with its sign; zero has a sign too -/
  | finite (negative : Bool) (mantissa : Nat) (exponent : Int)
  /-- more than any finite number, with its sign -/
  | infinite (negative : Bool)
  /-- no number -/
  | undefined
  deriving DecidableEq, Repr

namespace Real64

/-- The least exponent. -/
def minExponent : Int := -1074

/-- The greatest exponent. -/
def maxExponent : Int := 971

/-- The fraction `num / den` divided by `2 ^ q`, as a numerator and a denominator. -/
def scale (num den : Nat) (q : Int) : Nat × Nat :=
  if 0 ≤ q then (num, den * Nat.pow 2 q.toNat) else (num * Nat.pow 2 (-q).toNat, den)

/-- The whole number nearest to `num / den`, the even one of two. -/
def roundHalfEven (num den : Nat) : Nat :=
  let n := num / den
  let r := num % den
  if 2 * r < den then n else if den < 2 * r then n + 1 else if n % 2 = 0 then n else n + 1

/-- The exponent at which `num / den` has 53 binary digits before the point, or the least one. -/
def exponentFor (num den : Nat) : Int :=
  let q := max ((num.log2 : Int) - den.log2 - 53) minExponent
  let (n, d) := scale num den q
  if n / d < Nat.pow 2 53 then q else q + 1

/-- The number nearest to `num / den`. -/
def ofFraction (negative : Bool) (num den : Nat) : Real64 :=
  let q := exponentFor num den
  let (n, d) := scale num den q
  let m := roundHalfEven n d
  let (m, q) := if m = Nat.pow 2 53 then (Nat.pow 2 52, q + 1) else (m, q)
  if maxExponent < q then .infinite negative else .finite negative m q

/-- The number nearest to `m * 10 ^ e`. Powers that lie beyond every exponent are not worked out. -/
def ofDecimal (negative : Bool) (m : Nat) (e : Int) : Real64 :=
  if m = 0 then .finite negative 0 minExponent
  else
    let magnitude := ((Nat.toDigits 10 m).length : Int) + e
    if 310 < magnitude then .infinite negative
    else if magnitude < -330 then .finite negative 0 minExponent
    else if 0 ≤ e then ofFraction negative (m * Nat.pow 10 e.toNat) 1
    else ofFraction negative m (Nat.pow 10 (-e).toNat)

/-- The whole number nearest to `m * 2 ^ q`, the greater one of two. -/
def roundHalfUp (m : Nat) (q : Int) : Nat :=
  if 0 ≤ q then m * Nat.pow 2 q.toNat
  else (2 * m + Nat.pow 2 (-q).toNat) / (2 * Nat.pow 2 (-q).toNat)

/-- The nearest whole number that fits 64 bits. -/
def toWord : Real64 → UInt64
  | .finite negative m q => if negative then 0 else UInt64.ofNat (min (roundHalfUp m q) (UInt64.size - 1))
  | .infinite negative => if negative then 0 else UInt64.ofNat (UInt64.size - 1)
  | .undefined => 0

end Real64

end NetworkAgent
