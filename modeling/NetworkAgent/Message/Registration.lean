import NetworkAgent.Message.Common

/-!
# Registration messages

An agent registers itself once per session. It then registers notification streams: a **create**
request obtains a stream handle, an **add subscription** request puts one topic on it.
-/

namespace NetworkAgent.Message

/-- Asks the daemon to admit the agent. -/
structure AgentRegistrationRequest where
  /-- Commits wait until the agent has acknowledged them. -/
  waitConfigAck : Bool := false
  /-- The daemon shows the agent's configuration as its state. -/
  autoTelemetryState : Bool := false
  /-- The daemon caches notifications. -/
  enableCache : Bool := false
  deriving DecidableEq, Repr, Inhabited

/-- The daemon's answer to a registration or an unregistration. -/
structure AgentRegistrationResponse where
  /-- Zero for success. -/
  status : Int32 := 0
  /-- The daemon's explanation of a failure. -/
  errorText : String := ""
  /-- The identifier given to the agent. -/
  appId : UInt32 := 0
  deriving DecidableEq, Repr, Inhabited

/-- Status and text of a registration answer. -/
def AgentRegistrationResponse.outcome (r : AgentRegistrationResponse) : Outcome :=
  ⟨r.status, r.errorText⟩

/-- What a subscription asks for; no kind has parameters. -/
inductive Subscription where
  | interface
  | networkInstance
  | lldpNeighbor
  | config
  | bfdSession
  | route
  | appId
  | nextHopGroup
  deriving DecidableEq, Repr, Inhabited

/-- Creates a notification stream or changes its subscriptions. -/
structure StreamRegistrationRequest where
  /-- `0` creates a stream, `2` adds a subscription. -/
  operation : Int32 := 0
  /-- The stream to change. -/
  streamId : UInt64 := 0
  /-- The subscription to change. -/
  subscriptionId : UInt64 := 0
  /-- The subscription to add. -/
  subscription : Option Subscription := none
  deriving DecidableEq, Repr, Inhabited

/-- The daemon's answer to a stream registration. -/
structure StreamRegistrationResponse where
  /-- The handle of the stream. -/
  streamId : UInt64 := 0
  /-- The handle of the subscription. -/
  subscriptionId : UInt64 := 0
  /-- Zero for success. -/
  status : Int32 := 0
  /-- The daemon's explanation of a failure. -/
  errorText : String := ""
  deriving DecidableEq, Repr, Inhabited

/-- Status and text of a stream registration answer. -/
def StreamRegistrationResponse.outcome (r : StreamRegistrationResponse) : Outcome :=
  ⟨r.status, r.errorText⟩

/-- Number of the operation that creates a stream. -/
def createOperation : Int32 := 0

/-- Number of the operation that adds a subscription. -/
def addSubscriptionOperation : Int32 := 2

/-- The request for a new stream handle. -/
def StreamRegistrationRequest.create : StreamRegistrationRequest :=
  { operation := createOperation }

/-- The request that puts a subscription on a stream. -/
def StreamRegistrationRequest.subscribe (streamId : UInt64) (s : Subscription) :
    StreamRegistrationRequest :=
  { operation := addSubscriptionOperation, streamId := streamId, subscription := some s }

end NetworkAgent.Message
