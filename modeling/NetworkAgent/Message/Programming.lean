import NetworkAgent.Message.Notification

/-!
# What an agent pushes to the daemon

Operational state, routes, next hop groups and the acknowledgements of a commit.
-/

namespace NetworkAgent.Message

/-- The state of one node. -/
structure TelemetryInfo where
  /-- The node's JSPath. -/
  jsPath : String
  /-- The node's leaves, as JSON. -/
  json : String
  deriving DecidableEq, Repr, Inhabited

/-- A route with its key. -/
structure RouteInfo where
  /-- Which route. -/
  key : RouteKey
  /-- Where it leads. -/
  data : RouteData
  deriving DecidableEq, Repr, Inhabited

/-- A next hop group with its key. -/
structure NextHopGroupInfo where
  /-- Which group. -/
  key : NextHopGroupKey
  /-- Its next hops. -/
  data : NextHopGroup
  deriving DecidableEq, Repr, Inhabited

/-- What the operator is told about a configuration node during a commit. -/
inductive Verdict where
  /-- a text shown beside the node -/
  | output (message : String)
  /-- a warning shown beside the node -/
  | warning (message : String)
  /-- a refusal, which rolls the whole commit back -/
  | error (message : String)
  deriving DecidableEq, Repr, Inhabited

/-- The acknowledgement of one configuration node. -/
structure AcknowledgeInfo where
  /-- The node's JSPath with list keys. -/
  jsPath : String
  /-- What the operator is told. -/
  verdict : Verdict
  deriving DecidableEq, Repr, Inhabited

end NetworkAgent.Message
