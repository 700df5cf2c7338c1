import NetworkAgent.Message.Common
import NetworkAgent.Text.Hex

/-!
# IP addresses

The text forms of addresses. An **IPv4** address is a dotted quad without superfluous zeros. An **IPv6**
address is eight groups of one to four hexadecimal digits, where `::` may stand for one or more
groups of zeros and a dotted quad for the last two groups.
-/

namespace NetworkAgent

open Message (Bytes)

/-- An address of either family. -/
inductive Ip where
  /-- the four octets of an IPv4 address -/
  | v4 (a b c d : UInt8)
  /-- the eight groups of an IPv6 address, from the left -/
  | v6 (groups : List UInt16)
  deriving DecidableEq, Repr

namespace Ip

/-- Reads one number of a dotted quad: one to three digits, at most 255, no superfluous zero. -/
def readOctet (s : List Char) : Option (UInt8 × List Char) :=
  let ds := s.takeWhile Char.isDigit
  let n := Nat.ofDigitChars 10 ds 0
  if ds ≠ [] ∧ ds.length ≤ 3 ∧ n ≤ 255 ∧ (ds.length = 1 ∨ ds.head? ≠ some '0') then
    some (UInt8.ofNat n, s.dropWhile Char.isDigit)
  else none

/-- Reads a given character. -/
def readChar (c : Char) : List Char → Option (List Char)
  | [] => none
  | d :: r => if c = d then some r else none

/-- Reads a dotted quad at the start of a text. -/
def readQuad (s : List Char) : Option ((UInt8 × UInt8 × UInt8 × UInt8) × List Char) := do
  let (a, s) ← readOctet s
  let s ← readChar '.' s
  let (b, s) ← readOctet s
  let s ← readChar '.' s
  let (c, s) ← readOctet s
  let s ← readChar '.' s
  let (d, s) ← readOctet s
  pure ((a, b, c, d), s)

/-- Reads one group of an IPv6 address: one to four hexadecimal digits. -/
def readGroup (s : List Char) : Option (UInt16 × List Char) :=
  let ds := s.takeWhile Hex.isDigit
  if ds ≠ [] ∧ ds.length ≤ 4 then
    (Hex.toNat? ds).map fun n => (UInt16.ofNat n, s.dropWhile Hex.isDigit)
  else none

/-- Two octets as one group. -/
def pair (a b : UInt8) : UInt16 := UInt16.ofNat (a.toNat * 256 + b.toNat)

/-- What a run of groups is: the groups, whether the last two were a dotted quad, and the rest. -/
structure Groups where
  /-- The groups read. -/
  values : List UInt16
  /-- Whether a dotted quad ended them. -/
  dotted : Bool
  /-- What follows. -/
  rest : List Char

/-- Reads at most `limit` groups, each but the first after a colon. A dotted quad counts for two groups
and ends the run. -/
def readGroups : Nat → Bool → List Char → Groups
  | 0, _, s => ⟨[], false, s⟩
  | limit + 1, first, s =>
    match if first then some s else readChar ':' s with
    | none => ⟨[], false, s⟩
    | some t =>
      match if limit = 0 then none else readQuad t with
      | some ((a, b, c, d), rest) => ⟨[pair a b, pair c d], true, rest⟩
      | none =>
        match readGroup t with
        | none => ⟨[], false, s⟩
        | some (g, rest) =>
          let more := readGroups limit false rest
          ⟨g :: more.values, more.dotted, more.rest⟩

/-- Reads an IPv6 address: eight groups, or fewer around one `::`, which stands for the missing ones
and for at least one. -/
def readGroups8 (s : List Char) : Option (List UInt16 × List Char) :=
  let front := readGroups 8 true s
  if front.values.length = 8 then some (front.values, front.rest)
  else if front.dotted then none
  else do
    let t ← readChar ':' front.rest
    let t ← readChar ':' t
    let back := readGroups (7 - front.values.length) true t
    let zeros := List.replicate (8 - front.values.length - back.values.length) 0
    pure (front.values ++ zeros ++ back.values, back.rest)

/-- Reads an address of either family that makes up the whole text. -/
def ofChars? (s : List Char) : Option Ip :=
  match readQuad s with
  | some ((a, b, c, d), rest) => if rest.isEmpty then some (.v4 a b c d) else none
  | none =>
    match readGroups8 s with
    | some (groups, rest) => if rest.isEmpty then some (.v6 groups) else none
    | none => none

/-- Reads an address of either family. -/
def ofString? (s : String) : Option Ip := ofChars? s.toList

/-- The octets of a group, high octet first. -/
def groupOctets (g : UInt16) : Bytes := [UInt8.ofNat (g.toNat / 256), UInt8.ofNat (g.toNat % 256)]

/-- The octets of an address in network order. -/
def octets : Ip → Bytes
  | .v4 a b c d => [a, b, c, d]
  | .v6 groups => groups.flatMap groupOctets

/-- How many bits an address of this family has. -/
def bits : Ip → Nat
  | .v4 .. => 32
  | .v6 _ => 128

/-- The address as it stands in a message. -/
def toMessage (ip : Ip) : Message.IpAddress := ⟨ip.octets⟩

end Ip

end NetworkAgent
