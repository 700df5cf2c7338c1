/-!
# Dates and times in configuration files

A date, a time of day, or both with an optional offset. `Moment.read?` accepts the written forms and gives the standard
one: a capital `T` between date and time, a capital `Z` for no offset, and at most nine decimals of a second without
trailing zeros. How large hours and minutes may be depends on where a moment is written: a value of a file is read more
strictly than a text that is marked as a moment.
-/

namespace NetworkAgent.Moment

/-- The number that two digits spell, if it is not greater than a bound. -/
def two? (bound : Nat) (a b : Char) : Option Nat :=
  let n := (a.toNat - 48) * 10 + (b.toNat - 48)
  if a.isDigit && b.isDigit && n ≤ bound then some n else none

/-- How many days a month has. -/
def daysIn (year month : Nat) : Nat :=
  if month = 2 then if year % 4 = 0 ∧ (year % 100 ≠ 0 ∨ year % 400 = 0) then 29 else 28
  else if month = 4 ∨ month = 6 ∨ month = 9 ∨ month = 11 then 30
  else 31

/-- Splits a date off a text. -/
def readDate : List Char → Option (List Char × List Char)
  | a :: b :: c :: d :: '-' :: e :: f :: '-' :: g :: h :: r => do
    let century ← two? 99 a b
    let year ← two? 99 c d
    let month ← two? 12 e f
    let day ← two? (daysIn (century * 100 + year) month) g h
    if month = 0 ∨ day = 0 then none
    else some ([a, b, c, d, '-', e, f, '-', g, h], r)
  | _ => none

/-- The decimals of a second that count, with the point before them. -/
def decimals (ds : List Char) : List Char :=
  let kept := ((ds.take 9).reverse.dropWhile (· == '0')).reverse
  if kept.isEmpty then [] else '.' :: kept

/-- How large the parts of a moment may be. -/
structure Limits where
  /-- The last hour of a day. -/
  lastHour : Nat
  /-- The most hours of an offset. -/
  offsetHours : Nat
  /-- The most minutes of an offset beside its hours. -/
  offsetMinutes : Nat

/-- The limits of a value. -/
def ofValue : Limits := ⟨23, 23, 59⟩

/-- The limits of a text that is marked as a moment. -/
def ofMarked : Limits := ⟨24, 99, 99⟩

/-- Splits a time of day off a text. -/
def readTime (limits : Limits) : List Char → Option (List Char × List Char)
  | a :: b :: ':' :: c :: d :: ':' :: e :: f :: r => do
    let _ ← two? limits.lastHour a b
    let _ ← two? 59 c d
    let _ ← two? 60 e f
    let time := [a, b, ':', c, d, ':', e, f]
    match r with
    | '.' :: r =>
      if (r.takeWhile Char.isDigit).isEmpty then none
      else some (time ++ decimals (r.takeWhile Char.isDigit), r.dropWhile Char.isDigit)
    | r => some (time, r)
  | _ => none

/-- The two digits of a number below a hundred. -/
def digits2 (n : Nat) : List Char := [Nat.digitChar (n / 10), Nat.digitChar (n % 10)]

/-- Reads an offset of at most a day that ends a text. -/
def readOffset (limits : Limits) : List Char → Option (List Char)
  | [] => some []
  | ['Z'] | ['z'] => some ['Z']
  | [sign, a, b, ':', c, d] => do
    let hours ← two? limits.offsetHours a b
    let minutes ← two? limits.offsetMinutes c d
    let total := hours * 60 + minutes
    if total ≤ 24 * 60 ∧ (sign = '+' ∨ sign = '-') then
      some ((if total = 0 then '+' else sign) :: digits2 (total / 60) ++ ':' :: digits2 (total % 60))
    else none
  | _ => none

/-- Reads a date and what may follow it. -/
def readDated (limits : Limits) (s : List Char) : Option (List Char) := do
  let (date, r) ← readDate s
  match r with
  | [] => some date
  | c :: r =>
    if c = 'T' ∨ c = 't' ∨ c = ' ' then
      let (time, r) ← readTime limits r
      let offset ← readOffset limits r
      some (date ++ 'T' :: time ++ offset)
    else none

/-- Reads a time of day that is the whole text. -/
def readTimeOnly (limits : Limits) (s : List Char) : Option (List Char) := do
  let (time, r) ← readTime limits s
  if r.isEmpty then some time else none

/-- The standard form of a date or time. -/
def read? (limits : Limits) (s : List Char) : Option (List Char) :=
  (readDated limits s).orElse fun _ => readTimeOnly limits s

end NetworkAgent.Moment
