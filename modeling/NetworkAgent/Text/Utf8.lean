import NetworkAgent.Message.Common

/-!
# Reading octets as text

`Utf8.decode` reads octets as UTF-8 and never fails. Where no well-formed character starts, the longest
run of octets that is the beginning of one, or else a single octet, becomes the replacement character. `Utf8.read?`
stops there and tells where it stopped. `Utf8.encode` is the way back for a text.
-/

namespace NetworkAgent.Utf8

open Message (Bytes)

/-- What stands for octets that are no text. -/
def replacement : Char := '\uFFFD'

/-- Whether an octet continues a character: its two high bits are `10`. -/
def isContinuation (b : UInt8) : Bool := 0x80 ≤ b && b ≤ 0xBF

/-- How many octets a character that starts with `b` has, and the bounds of its second octet, which shut
out overlong forms, surrogates and what lies above the last code point. -/
def lead (b : UInt8) : Option (Nat × UInt8 × UInt8) :=
  if 0xC2 ≤ b && b ≤ 0xDF then some (2, 0x80, 0xBF)
  else if b == 0xE0 then some (3, 0xA0, 0xBF)
  else if b == 0xED then some (3, 0x80, 0x9F)
  else if 0xE1 ≤ b && b ≤ 0xEF then some (3, 0x80, 0xBF)
  else if b == 0xF0 then some (4, 0x90, 0xBF)
  else if 0xF1 ≤ b && b ≤ 0xF3 then some (4, 0x80, 0xBF)
  else if b == 0xF4 then some (4, 0x80, 0x8F)
  else none

/-- Six more bits from a continuation octet. -/
def extend (n : Nat) (b : UInt8) : Nat := n * 64 + b.toNat % 64

/-- Reads the character that starts with `b`, and tells how many octets of the rest belong to it; where none starts,
these are the octets that could have belonged to one. -/
def readChar (b : UInt8) (rest : Bytes) : Option Char × Nat :=
  if b < 0x80 then (some (Char.ofNat b.toNat), 0)
  else
    match lead b with
    | none => (none, 0)
    | some (width, low, high) =>
      match rest with
      | [] => (none, 0)
      | second :: rest =>
        if !(low ≤ second && second ≤ high) then (none, 0)
        else if width == 2 then (some (Char.ofNat (extend (b.toNat % 32) second)), 1)
        else
          match rest with
          | [] => (none, 1)
          | third :: rest =>
            if !isContinuation third then (none, 1)
            else if width == 3 then
              (some (Char.ofNat (extend (extend (b.toNat % 16) second) third)), 2)
            else
              match rest with
              | [] => (none, 2)
              | fourth :: _ =>
                if !isContinuation fourth then (none, 2)
                else (some (Char.ofNat (extend (extend (extend (b.toNat % 8) second) third) fourth)), 3)

/-- Reads octets as the characters in them, and nothing for each run of octets that is none. -/
def read : Bytes → List (Option Char)
  | [] => []
  | b :: rest => (readChar b rest).1 :: read (rest.drop (readChar b rest).2)
termination_by bs => bs.length
decreasing_by simp only [List.length_drop, List.length_cons]; omega

/-- Reads octets as text. -/
def decode (bs : Bytes) : List Char := (read bs).map (·.getD replacement)

/-- Where octets stop being text. -/
structure Fault where
  /-- How many octets before that are text. -/
  offset : Nat
  /-- How many octets there could not have begun any other character; nothing if more octets could have. -/
  length : Option Nat
  deriving DecidableEq, Repr

/-- Reads octets as text as long as they are text, `offset` being how many octets have been read before. -/
def read? (offset : Nat) : Bytes → Except Fault (List Char)
  | [] => .ok []
  | b :: rest =>
    let n := (readChar b rest).2
    match (readChar b rest).1 with
    | some c => (read? (offset + n + 1) (rest.drop n)).map (c :: ·)
    | none => .error ⟨offset, if (lead b).isSome && rest.length == n then none else some (n + 1)⟩
termination_by bs => bs.length
decreasing_by simp only [List.length_drop, List.length_cons]; omega

/-- The octets of a text. -/
def encode (s : String) : Bytes := s.toList.flatMap String.utf8EncodeChar

end NetworkAgent.Utf8
