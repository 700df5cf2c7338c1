import NetworkAgent.Error
import NetworkAgent.Management
import NetworkAgent.Message.Programming
import NetworkAgent.Message.Registration

/-!
# Calls to the services

The calls that an agent makes, with the messages that they carry, and the answers that they get. A call
that fails answers with a status. `Answer.succeeded` is the test that most operations make: answered, and
with a success.
-/

namespace NetworkAgent

open Message

/-- The calls that the services offer. -/
inductive Rpc where
  | agentRegister
  | agentUnregister
  | notificationRegister
  | keepAlive
  | notificationStream
  | telemetryAddOrUpdate
  | telemetryDelete
  | routeAddOrUpdate
  | routeDelete
  | routeSyncStart
  | routeSyncEnd
  | nextHopGroupAddOrUpdate
  | nextHopGroupDelete
  | nextHopGroupSyncStart
  | nextHopGroupSyncEnd
  | acknowledgeConfig
  | getConfig
  | gnmiGet
  | gnmiSet
  deriving DecidableEq, Repr

/-- A call with what it carries. -/
inductive Request where
  | agentRegister (r : AgentRegistrationRequest)
  | agentUnregister
  | notificationRegister (r : StreamRegistrationRequest)
  | keepAlive
  | notificationStream (streamId : UInt64)
  | telemetryAddOrUpdate (state : List TelemetryInfo)
  /-- deletes the state of nodes, given by their JSPaths -/
  | telemetryDelete (jsPaths : List String)
  | routeAddOrUpdate (routes : List RouteInfo)
  | routeDelete (routes : List RouteKey)
  | routeSyncStart
  | routeSyncEnd
  | nextHopGroupAddOrUpdate (groups : List NextHopGroupInfo)
  | nextHopGroupDelete (groups : List NextHopGroupKey)
  | nextHopGroupSyncStart
  | nextHopGroupSyncEnd
  | acknowledgeConfig (infos : List AcknowledgeInfo)
  /-- reads the configuration below an XPath -/
  | getConfig (path : String)
  | gnmiGet (r : Gnmi.GetRequest)
  | gnmiSet (r : Gnmi.SetRequest)
  deriving DecidableEq, Repr

/-- Which call a request makes. -/
def Request.rpc : Request → Rpc
  | .agentRegister _ => .agentRegister
  | .agentUnregister => .agentUnregister
  | .notificationRegister _ => .notificationRegister
  | .keepAlive => .keepAlive
  | .notificationStream _ => .notificationStream
  | .telemetryAddOrUpdate _ => .telemetryAddOrUpdate
  | .telemetryDelete _ => .telemetryDelete
  | .routeAddOrUpdate _ => .routeAddOrUpdate
  | .routeDelete _ => .routeDelete
  | .routeSyncStart => .routeSyncStart
  | .routeSyncEnd => .routeSyncEnd
  | .nextHopGroupAddOrUpdate _ => .nextHopGroupAddOrUpdate
  | .nextHopGroupDelete _ => .nextHopGroupDelete
  | .nextHopGroupSyncStart => .nextHopGroupSyncStart
  | .nextHopGroupSyncEnd => .nextHopGroupSyncEnd
  | .acknowledgeConfig _ => .acknowledgeConfig
  | .getConfig _ => .getConfig
  | .gnmiGet _ => .gnmiGet
  | .gnmiSet _ => .gnmiSet

/-- What an answered call carries back. -/
inductive Response where
  | registration (r : AgentRegistrationResponse)
  | stream (r : StreamRegistrationResponse)
  /-- a status with a text, and nothing else -/
  | outcome (o : Outcome)
  /-- a stream of notifications was opened -/
  | opened
  /-- the configuration as JSON, if there is any -/
  | config (json : Option String)
  | got (r : Gnmi.GetResponse)
  | set (r : Gnmi.SetResponse)
  deriving DecidableEq, Repr

/-- The status and text that a response reports. What reports none has succeeded. -/
def Response.report : Response → Outcome
  | .registration r => r.outcome
  | .stream r => r.outcome
  | .outcome o => o
  | .opened | .config _ | .got _ | .set _ => {}

/-- The answer of a call. -/
inductive Answer where
  /-- a response -/
  | response (r : Response)
  /-- the status of a call that failed -/
  | failed (s : Status)
  deriving DecidableEq, Repr

/-- Whether a call was answered with a success. -/
def Answer.succeeded : Answer → Bool
  | .response r => r.report.isSuccess
  | .failed _ => false

/-- The response of a call about which nothing else is known: success, zero and empty throughout. -/
def Rpc.defaultResponse : Rpc → Response
  | .agentRegister | .agentUnregister => .registration {}
  | .notificationRegister => .stream {}
  | .notificationStream => .opened
  | .getConfig => .config none
  | .gnmiGet => .got {}
  | .gnmiSet => .set {}
  | _ => .outcome {}

end NetworkAgent
