import NetworkAgent.Address.Ip
import NetworkAgent.Decimal.Read

/-!
# Address prefixes

A prefix is written `address/length`, the text being cut at its first slash. The length is a decimal number,
with any leading zeros and an optional plus sign, of at least one and at most the family's width.
Host bits are kept as written.
-/

namespace NetworkAgent.Prefix

/-- The text before the first slash and the text after it. -/
def cut : List Char → Option (List Char × List Char)
  | [] => none
  | c :: r => if c = '/' then some ([], r) else (cut r).map fun p => (c :: p.1, p.2)

/-- Reads a prefix. -/
def ofChars? (s : List Char) : Option Message.IpPrefix := do
  let (address, length) ← cut s
  let ip ← Ip.ofChars? address
  let n ← Decimal.readBelow UInt32.size length
  if n = 0 ∨ n > ip.bits then none
  else pure ⟨some ip.toMessage, UInt32.ofNat n⟩

/-- Reads a prefix. -/
def ofString? (s : String) : Option Message.IpPrefix := ofChars? s.toList

end NetworkAgent.Prefix
