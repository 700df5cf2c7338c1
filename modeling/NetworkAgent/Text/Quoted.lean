import NetworkAgent.Text.Printable

/-!
# Quoted text

How a text is shown inside another one: between double quotes, with backslash escapes for the quote, the
backslash and the common control characters, and with the number of the code point in braces for any other
character that would not show by itself.
-/

namespace NetworkAgent.Quoted

/-- How one character is written. -/
def escape (c : Char) : List Char :=
  if c = '"' then ['\\', '"']
  else if c = '\\' then ['\\', '\\']
  else if c = '\n' then ['\\', 'n']
  else if c = '\r' then ['\\', 'r']
  else if c = '\t' then ['\\', 't']
  else if c.toNat = 0 then ['\\', '0']
  else if Printable.shows c then [c]
  else '\\' :: 'u' :: '{' :: Nat.toDigits 16 c.toNat ++ ['}']

/-- The quoted form of a text. -/
def encode (s : String) : String :=
  String.ofList ('"' :: s.toList.flatMap escape ++ ['"'])

end NetworkAgent.Quoted
