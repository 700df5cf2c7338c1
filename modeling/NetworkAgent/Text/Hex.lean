/-!
# Hexadecimal digits

A hexadecimal digit is written in either case. `Hex.toNat?` reads a run of them, the first digit being the highest.
-/

namespace NetworkAgent.Hex

/-- The value of a hexadecimal digit. -/
def digit? (c : Char) : Option Nat :=
  if '0' ≤ c ∧ c ≤ '9' then some (c.toNat - 48)
  else if 'a' ≤ c ∧ c ≤ 'f' then some (c.toNat - 87)
  else if 'A' ≤ c ∧ c ≤ 'F' then some (c.toNat - 55)
  else none

/-- Whether a character is a hexadecimal digit. -/
def isDigit (c : Char) : Bool := (digit? c).isSome

/-- The number that hexadecimal digits spell. -/
def toNat? (ds : List Char) : Option Nat := ds.foldlM (fun n d => (digit? d).map (n * 16 + ·)) 0

/-- No digits spell zero. -/
@[simp] theorem toNat?_nil : toNat? [] = some 0 := rfl

end NetworkAgent.Hex
