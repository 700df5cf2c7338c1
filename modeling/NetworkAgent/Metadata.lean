/-!
# Call metadata

Every call to the daemon names the agent, and every call to the management server carries credentials, as
**metadata** values. A value may not hold control characters other than the tab. Only a value of visible ASCII
characters, blanks and tabs can be shown as text at the other end.
-/

namespace NetworkAgent.Metadata

/-- The metadata entries that a session sends. -/
inductive Key where
  /-- the agent's name, sent to the daemon -/
  | agentName
  /-- the user, sent to the management server -/
  | username
  /-- the user's password, sent to the management server -/
  | password
  deriving DecidableEq, Repr

/-- The entry's name on the wire. -/
def Key.name : Key → String
  | .agentName => "agent_name"
  | .username => "username"
  | .password => "password"

/-- Whether a character is a control character other than the tab. -/
def isControl (c : Char) : Bool := (c.toNat < 0x20 && c != '\t') || c.toNat == 0x7F

/-- Whether a value can be sent. -/
def isValid (value : String) : Bool := !value.toList.any isControl

/-- Whether a character of a value shows as text at the other end. -/
def isShown (c : Char) : Bool := c == '\t' || (0x20 ≤ c.toNat && c.toNat ≤ 0x7E)

/-- The value as the other end reads it, if it reads as text. -/
def received (value : String) : Option String :=
  if value.toList.all isShown then some value else none

end NetworkAgent.Metadata
