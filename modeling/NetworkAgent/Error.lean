import NetworkAgent.Metadata
import NetworkAgent.Status

/-!
# What can go wrong

Each error is the cause of a failure; `message` gives the text shown for it. Errors are grouped by the
capability that they belong to.
-/

namespace NetworkAgent

/-- Why settings are refused. -/
inductive SettingsError where
  /-- The settings could not be read from their sources. -/
  | unreadable
  /-- A source gives a value for an element that a list cannot have. -/
  | misplaced
  /-- The daemon's address is blank. -/
  | emptyDaemonAddress
  /-- The daemon's connect timeout is zero. -/
  | zeroDaemonTimeout
  /-- A keepalive answer may take as long as the time between two keepalives, or longer. -/
  | keepAliveTimeout (timeout interval : UInt64)
  /-- The management server's address is blank. -/
  | emptyManagementAddress
  /-- A timeout of the management server is zero. -/
  | zeroManagementTimeout
  /-- A request may not take longer than connecting. -/
  | requestTimeout (request connect : UInt64)
  /-- The retry interval is zero. -/
  | zeroRetryInterval
  deriving DecidableEq, Repr

/-- The text of a settings error. -/
def SettingsError.message : SettingsError → String
  | .unreadable => "configuration could not be read"
  | .misplaced => "configuration has a value outside of a list"
  | .emptyDaemonAddress => "ndk address cannot be empty"
  | .zeroDaemonTimeout => "ndk connection timeout must be > 0"
  | .keepAliveTimeout timeout interval =>
    "ndk keepalive timeout " ++ toString timeout ++ "s must be < interval " ++ toString interval ++ "s"
  | .emptyManagementAddress => "gnmi address cannot be empty"
  | .zeroManagementTimeout => "gnmi timeouts must be > 0"
  | .requestTimeout request connect =>
    "gnmi request timeout " ++ toString request ++ "ms must exceed connect timeout " ++
      toString connect ++ "ms"
  | .zeroRetryInterval => "retry interval must be > 0"

/-- Failures between an agent and the services that it calls. -/
inductive NetworkError where
  /-- The address of a service is malformed. -/
  | invalidUri (address : String)
  /-- No connection could be made. -/
  | transport
  /-- A call failed with a status. -/
  | status (s : Status)
  /-- A call was answered, but its outcome was a failure. -/
  | statusFailed (rpc text : String)
  /-- A metadata value holds characters that cannot be sent. -/
  | invalidMetadata (key : Metadata.Key)
  /-- A request to change a node has no value to set. -/
  | emptyValue
  deriving DecidableEq, Repr

/-- The text of a network error. -/
def NetworkError.message : NetworkError → String
  | .invalidUri address => "Invalid URI format: " ++ address
  | .transport => "transport error"
  | .status s => s.describe
  | .statusFailed rpc text => rpc ++ " returned failed status: " ++ text
  | .invalidMetadata key => "Invalid metadata value for " ++ key.name
  | .emptyValue => "value to set request cannot be empty"

/-- Failures of pushed state. -/
inductive StateError where
  /-- State was not taken. -/
  | addOrUpdate (jsPath json : String)
  /-- State was not deleted. -/
  | delete (jsPath : String)
  /-- The state to delete was never added. -/
  | notTracked (path : String)
  deriving DecidableEq, Repr

/-- The text of a state error. -/
def StateError.message : StateError → String
  | .addOrUpdate jsPath json => "state add/update failed: key: " ++ jsPath ++ ", data: " ++ json
  | .delete jsPath => "state delete failed: path: " ++ jsPath
  | .notTracked path => "state delete failed: path " ++ path ++ " has never been added"

/-- Failures of route programming. -/
inductive RouteError where
  /-- The text is no address prefix. -/
  | invalidPrefix (text : String)
  /-- Routes were not taken. -/
  | addOrUpdate
  /-- Routes were not deleted. -/
  | delete
  /-- A sync window was not opened. -/
  | syncStart
  /-- A sync window was not closed. -/
  | syncEnd
  deriving DecidableEq, Repr

/-- The text of a route error. -/
def RouteError.message : RouteError → String
  | .invalidPrefix text => "invalid ip prefix provided: " ++ text
  | .addOrUpdate => "route add or update failed"
  | .delete => "route delete failed"
  | .syncStart => "route sync start failed"
  | .syncEnd => "route sync end failed"

/-- Failures of next hop group programming. -/
inductive NextHopGroupError where
  /-- The text is no address. -/
  | invalidAddress (text : String)
  /-- Groups were not taken. -/
  | addOrUpdate
  /-- A group was not deleted. -/
  | delete
  /-- A sync window was not opened. -/
  | syncStart
  /-- A sync window was not closed. -/
  | syncEnd
  deriving DecidableEq, Repr

/-- The text of a next hop group error. -/
def NextHopGroupError.message : NextHopGroupError → String
  | .invalidAddress text => "invalid next hop address provided: " ++ text
  | .addOrUpdate => "nexthop group add or update failed"
  | .delete => "nexthop group delete failed"
  | .syncStart => "nexthop group sync start failed"
  | .syncEnd => "nexthop group sync end failed"

/-- Failures of a commit's acknowledgement. -/
inductive AcknowledgeError where
  /-- The acknowledgement was not taken. -/
  | failed
  /-- The agent does not acknowledge commits. -/
  | optionNotSet
  /-- The agent does not stream its configuration. -/
  | notStreaming
  deriving DecidableEq, Repr

/-- The text of an acknowledgement error. -/
def AcknowledgeError.message : AcknowledgeError → String
  | .failed => "acknowledge config failed"
  | .optionNotSet => "agent is not registered with config acknowledge option"
  | .notStreaming => "agent cannot acknowledge configs unless it enables config stream"

/-- A topic could not be put on a stream. -/
structure SubscriptionError where
  /-- The topic's name. -/
  topic : String
  /-- The stream. -/
  streamId : UInt64
  /-- What the daemon or the transport reported. -/
  reason : String
  deriving DecidableEq, Repr

/-- The text of a subscription error. -/
def SubscriptionError.message (e : SubscriptionError) : String :=
  "failed adding " ++ e.topic ++ " subscription to stream " ++ toString e.streamId ++ ": " ++ e.reason

/-- Why a session could not be set up. -/
inductive SetupError where
  /-- No connection to the daemon. -/
  | connect (cause : NetworkError)
  /-- The client of the management server could not be made. -/
  | managementClient (cause : NetworkError)
  /-- The session was started before. -/
  | alreadyStarted
  /-- The daemon refused to register the agent. -/
  | refused (text : String)
  /-- The registration call failed. -/
  | registration (cause : Status)
  deriving DecidableEq, Repr

/-- The text of a setup error. -/
def SetupError.message : SetupError → String
  | .connect cause => "connecting to NDK failed: " ++ cause.message
  | .managementClient cause => "gNMI client creation failed: " ++ cause.message
  | .alreadyStarted => "agent is already started"
  | .refused text => "agent registration failed: " ++ text
  | .registration cause => "agent registration failed: " ++ cause.describe

/-- The failure of an operation. -/
inductive Error where
  | settings (e : SettingsError)
  | network (e : NetworkError)
  | state (e : StateError)
  | route (e : RouteError)
  | nextHopGroup (e : NextHopGroupError)
  | acknowledge (e : AcknowledgeError)
  | subscription (e : SubscriptionError)
  /-- The session was cancelled before the operation was done. -/
  | cancelled
  /-- The operation needs a session that was started. -/
  | notStarted
  | fatal (e : SetupError)
  deriving DecidableEq, Repr

/-- The text of an error. -/
def Error.message : Error → String
  | .settings e => e.message
  | .network e => e.message
  | .state e => e.message
  | .route e => e.message
  | .nextHopGroup e => e.message
  | .acknowledge e => e.message
  | .subscription e => e.message
  | .cancelled => "Operation cancelled"
  | .notStarted => "Agent is not started"
  | .fatal e => "Fatal error: " ++ e.message

end NetworkAgent
