import NetworkAgent.Json.Syntax

/-!
# Commit markers

The notification that closes a commit carries a small JSON document with the commit's sequence number.
`Marker.sequence?` reads it. The document is an object in which `commit_seq` occurs at most once,
with a whole number that fits 64 bits; a missing one reads as zero. Other members are skipped. An array of
at most one such number is read in the same way. A sequence of zero marks the commit that the daemon makes up
when an agent registers.
-/

namespace NetworkAgent.Marker

open Json

/-- The name of the member that holds the sequence number. -/
def member : List Char := "commit_seq".toList

/-- Whether a text goes on with a fraction or an exponent. -/
def continuesNumber : List Char → Bool
  | c :: _ => c == '.' || c == 'e' || c == 'E'
  | [] => false

/-- Reads a whole number that fits 64 bits, blanks in front of it included. -/
def readNumber (s : List Char) : Option (UInt64 × List Char) :=
  match readWhole (skipBlanks s) with
  | none => none
  | some (ds, r) =>
    if continuesNumber r then none
    else
      let n := Nat.ofDigitChars 10 ds 0
      if n < UInt64.size then some (UInt64.ofNat n, r) else none

/-- Reads the members of an object up to its closing brace, `found` being the number that was read
already, with an allowance of one step for each member. -/
def readMembers : Nat → Option UInt64 → List Char → Option (Option UInt64 × List Char)
  | 0, _, _ => none
  | n + 1, found, s =>
    match skipBlanks s with
    | '"' :: r =>
      match readString r with
      | none => none
      | some (key, r) =>
        match skipBlanks r with
        | ':' :: r =>
          let value : Option (Option UInt64 × List Char) :=
            if key = member then
              match found, readNumber r with
              | none, some (v, r) => some (some v, r)
              | _, _ => none
            else (skip r).map fun r => (found, r)
          match value with
          | none => none
          | some (found, r) =>
            match skipBlanks r with
            | ',' :: r => readMembers n found r
            | '\x7d' :: r => some (found, r)
            | _ => none
        | _ => none
    | _ => none

/-- Reads the document of a marker and hands back what follows it. -/
def readDocument (s : List Char) : Option (UInt64 × List Char) :=
  match skipBlanks s with
  | '[' :: r =>
    match skipBlanks r with
    | ']' :: r => some (0, r)
    | r =>
      match readNumber r with
      | none => none
      | some (v, r) =>
        match skipBlanks r with
        | ']' :: r => some (v, r)
        | _ => none
  | '\x7b' :: r =>
    match skipBlanks r with
    | '\x7d' :: r => some (0, r)
    | r => (readMembers (r.length + 1) none r).map fun p => (p.1.getD 0, p.2)
  | _ => none

/-- The sequence number that a marker's data holds, if it can be read. -/
def sequence? (data : String) : Option UInt64 :=
  match readDocument data.toList with
  | some (v, r) => if (skipBlanks r).isEmpty then some v else none
  | none => none

/-- Whether a marker's data holds the sequence zero; data that cannot be read does not. -/
def isZero (data : String) : Bool := sequence? data == some 0

/-- Whether a text is an object without members. -/
def isEmptyObject (text : String) : Bool :=
  match skipBlanks text.toList with
  | '\x7b' :: r =>
    match skipBlanks r with
    | '\x7d' :: r => (skipBlanks r).isEmpty
    | _ => false
  | _ => false

end NetworkAgent.Marker
