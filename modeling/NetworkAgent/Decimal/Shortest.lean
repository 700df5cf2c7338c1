import NetworkAgent.Decimal.Binary

/-!
# The shortest decimal text of a number

Of all decimal numbers that round to a given number of double precision, `Shortest.digits` picks one with the
fewest digits, and of those the nearest. The text of a number is always positional: zeros are written out on
either side of the point, and a whole number has no point.
-/

namespace NetworkAgent.Shortest

/-- The real numbers that round to `m * 2 ^ q`: they lie between `low` and `high`, both in units of
`2 ^ (q - 2)`, and the bounds belong to them if `closed`. -/
structure Interval where
  /-- The lower bound. -/
  low : Nat
  /-- The number itself. -/
  centre : Nat
  /-- The upper bound. -/
  high : Nat
  /-- Whether the bounds round to the number, too. -/
  closed : Bool

/-- The interval of a number; the gap below a power of two is half as wide as the one above it. -/
def Interval.of (m : Nat) (q : Int) : Interval :=
  let below := if m = Nat.pow 2 52 ∧ Real64.minExponent < q then 1 else 2
  ⟨4 * m - below, 4 * m, 4 * m + 2, m % 2 = 0⟩

/-- Compares `d * 10 ^ k` with `n * 2 ^ p`. -/
def compareScaled (d : Nat) (k : Int) (n : Nat) (p : Int) : Ordering :=
  let left := d * Nat.pow 10 k.toNat * Nat.pow 2 (-p).toNat
  let right := n * Nat.pow 2 p.toNat * Nat.pow 10 (-k).toNat
  compare left right

/-- Whether `d * 10 ^ k` lies in an interval in units of `2 ^ p`. -/
def Interval.holds (i : Interval) (d : Nat) (k p : Int) : Bool :=
  let above := compareScaled d k i.low p
  let under := compareScaled d k i.high p
  if i.closed then above != .lt && under != .gt else above == .gt && under == .lt

/-- The whole part of `n * 2 ^ p / 10 ^ k`. -/
def floorAt (n : Nat) (p k : Int) : Nat :=
  (n * Nat.pow 2 p.toNat * Nat.pow 10 (-k).toNat) / (Nat.pow 10 k.toNat * Nat.pow 2 (-p).toNat)

/-- Whether `d * 10 ^ k` is nearer to `n * 2 ^ p` than `(d + 1) * 10 ^ k` is. -/
def isNearer (d n : Nat) (p k : Int) : Bool := compareScaled (2 * d + 1) k (2 * n) p == .gt

/-- The decimal number of the grid `10 ^ k` that rounds to the number of an interval: of two the nearer, and the
greater if both are as near. -/
def onGrid? (i : Interval) (p k : Int) : Option Nat :=
  let d := floorAt i.centre p k
  match i.holds d k p, i.holds (d + 1) k p with
  | true, true => some (if isNearer d i.centre p k then d else d + 1)
  | true, false => some d
  | false, true => some (d + 1)
  | false, false => none

/-- The first grid from `10 ^ k` downwards that has a decimal number in an interval, with that number. -/
def search (i : Interval) (p : Int) : Nat → Int → Nat × Int
  | 0, k => (floorAt i.centre p k, k)
  | n + 1, k =>
    match onGrid? i p k with
    | some d => (d, k)
    | none => search i p n (k - 1)

/-- The shortest decimal number that rounds to `m * 2 ^ q`: its digits and the power of ten of the last one. -/
def digits (m : Nat) (q : Int) : Nat × Int := search (.of m q) (q - 2) 640 310

/-- Writes `d * 10 ^ k` in positional notation. -/
def positional (d : Nat) (k : Int) : List Char :=
  let ds := Nat.toDigits 10 d
  if 0 ≤ k then ds ++ List.replicate k.toNat '0'
  else
    let places := (-k).toNat
    if places < ds.length then ds.take (ds.length - places) ++ '.' :: ds.drop (ds.length - places)
    else '0' :: '.' :: List.replicate (places - ds.length) '0' ++ ds

/-- The text of a number. -/
def text : Real64 → String
  | .finite negative m q =>
    let body := if m = 0 then ['0'] else positional (digits m q).1 (digits m q).2
    String.ofList (if negative then '-' :: body else body)
  | .infinite negative => if negative then "-inf" else "inf"
  | .undefined => "NaN"

end NetworkAgent.Shortest
