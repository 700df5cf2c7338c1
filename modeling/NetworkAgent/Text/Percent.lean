import NetworkAgent.Message.Common
import NetworkAgent.Text.Hex

/-!
# Percent escapes

A percent sign and two hexadecimal digits stand for the octet that the digits spell. `Percent.octets` gives the octets
that a text with such escapes stands for. A percent sign that two digits do not follow stands for itself, as every
other character does: a text without percent signs stands for its own octets.
-/

namespace NetworkAgent.Percent

open Message (Bytes)

/-- The octets that a text stands for. -/
def octets : List Char → Bytes
  | '%' :: high :: low :: rest =>
    match Hex.toNat? [high, low] with
    | some n => UInt8.ofNat n :: octets rest
    | none => 0x25 :: octets (high :: low :: rest)
  | c :: rest => String.utf8EncodeChar c ++ octets rest
  | [] => []

end NetworkAgent.Percent
