import NetworkAgent.Message.Notification
import NetworkAgent.Path.Notation

/-!
# Streamed configuration changes

An agent that streams its configuration receives each change as a **delta**, with the paths in the application's
notation. The notification that closes a commit keeps the daemon's paths, and `Delta.isCommitEnd`
tells it by them.
-/

namespace NetworkAgent

open Message

/-- A change of one configuration node. -/
structure Delta where
  /-- What happened to the node. -/
  kind : ChangeKind
  /-- The node's path, with list keys. -/
  path : String
  /-- The node's path without list keys. -/
  pathWithoutKeys : String
  /-- The values of the list keys. -/
  keys : List String
  /-- The node's leaves and child containers, as JSON. -/
  json : String
  deriving DecidableEq, Repr, Inhabited

namespace Delta

/-- Whether the delta closes a commit. -/
def isCommitEnd (d : Delta) : Bool := d.path == commitEnd

/-- The delta of a notification; what it leaves out reads as empty. -/
def ofNotification (n : ConfigNotification) : Delta :=
  let key := n.key.getD {}
  let json := (n.data.map (·.json)).getD ""
  if key.jsPathWithKeys = commitEnd then
    ⟨n.kind, key.jsPathWithKeys, key.jsPath, key.keys, json⟩
  else
    ⟨n.kind, JsPath.toXPath key.jsPathWithKeys, JsPath.toXPath key.jsPath, key.keys, json⟩

end Delta

/-- A snapshot of the agent's configuration, read after a commit. -/
structure FullConfig where
  /-- The sequence number of the commit, if its marker's data could be read. -/
  commitSequence : Option UInt64
  /-- The configuration as JSON; nothing if the agent has none. -/
  json : Option String
  deriving DecidableEq, Repr, Inhabited

end NetworkAgent
