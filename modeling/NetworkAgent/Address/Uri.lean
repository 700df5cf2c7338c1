/-!
# Service addresses

Which texts are the address of a service: a URI with a scheme, an authority and an optional path and
query, or an authority alone, or a path alone. `Uri.isValid` decides it on the octets of the text; an
address is used as written, so nothing of it is kept.
-/

namespace NetworkAgent.Uri

/-- Whether a character may stand in a scheme. -/
def isSchemeChar (c : Char) : Bool :=
  c.isAlphanum || c == '+' || c == '-' || c == '.' || c == '~'

/-- Whether a character may stand in an authority, delimiters included. -/
def isAuthorityChar (c : Char) : Bool :=
  c.isAlphanum || "!#$&'()*+,-./:;=?@[]_~".toList.contains c

/-- Whether a character ends an authority. -/
def endsAuthority (c : Char) : Bool := c == '/' || c == '?' || c == '#'

/-- Whether a character is neither a control nor the space; all beyond ASCII are so. -/
def isVisible (c : Char) : Bool := c.toNat > 0x20 && c.toNat != 0x7F

/-- Whether a character may stand in a path; quotes, braces and all beyond ASCII may. -/
def isPathChar (c : Char) : Bool := isVisible c && c != '<' && c != '>' && c.toNat != 0x60

/-- Whether a character may stand in a query. -/
def isQueryChar (c : Char) : Bool := isVisible c && c != '"' && c != '<' && c != '>'

/-- Whether a text is a path with an optional query; what follows `#` is ignored. -/
def isPathAndQuery (s : List Char) : Bool :=
  let path := s.takeWhile fun c => c != '?' && c != '#'
  path.all isPathChar &&
    match s.dropWhile fun c => c != '?' && c != '#' with
    | '?' :: q => (q.takeWhile (· != '#')).all isQueryChar
    | _ => true

/-- What the scan of an authority has seen since the last `@` or `]`. -/
structure Scan where
  /-- The colons, of which a host may have one before its port. -/
  colons : Nat := 0
  /-- Whether an address in brackets has begun. -/
  opened : Bool := false
  /-- Whether an address in brackets has ended. -/
  closed : Bool := false
  /-- Whether there was a percent sign, which belongs in front of `@` or within brackets. -/
  percent : Bool := false
  /-- Whether the last character was `@`. -/
  afterAt : Bool := false

/-- Takes one character of an authority. -/
def Scan.next (s : Scan) (c : Char) : Option Scan :=
  let s := { s with afterAt := c == '@' }
  if c == ':' then if s.colons ≥ 8 then none else some { s with colons := s.colons + 1 }
  else if c == '[' then if s.percent || s.opened then none else some { s with opened := true }
  else if c == ']' then
    if !s.opened || s.closed then none
    else some { s with closed := true, colons := 0, percent := false }
  else if c == '@' then some { s with colons := 0, percent := false }
  else if c == '%' then some { s with percent := true }
  else if isAuthorityChar c then some s
  else none

/-- Whether the scan may end here. -/
def Scan.complete (s : Scan) : Bool :=
  s.opened == s.closed && s.colons ≤ 1 && !s.afterAt && !s.percent

/-- Whether a text is an authority: optional credentials, a host and an optional port. -/
def isAuthority (s : List Char) : Bool :=
  match s.foldlM Scan.next {} with
  | some scan => scan.complete
  | none => false

/-- What a scheme makes of a text. -/
inductive Scheme where
  /-- The text has no scheme. -/
  | absent
  /-- The scheme is longer than 64 characters. -/
  | tooLong
  /-- What follows the scheme and its `://`. -/
  | before (rest : List Char)

/-- Splits off the scheme of a text. -/
def splitScheme (s : List Char) : Scheme :=
  let scheme := s.takeWhile isSchemeChar
  match s.dropWhile isSchemeChar with
  | ':' :: '/' :: '/' :: rest => if scheme.length > 64 then .tooLong else .before rest
  | _ => .absent

/-- Whether a text is the address of a service. -/
def isValid (address : String) : Bool :=
  if address.utf8ByteSize > 65534 then false
  else
    match address.toList with
    | [] => false
    | ['*'] => true
    | '/' :: rest => isPathAndQuery ('/' :: rest)
    | s =>
      match splitScheme s with
      | .tooLong => false
      | .absent => isAuthority s && !s.any endsAuthority
      | .before rest =>
        let authority := rest.takeWhile fun c => !endsAuthority c
        !authority.isEmpty && isAuthority authority &&
          isPathAndQuery (rest.dropWhile fun c => !endsAuthority c)

end NetworkAgent.Uri
