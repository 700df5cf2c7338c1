import NetworkAgent.Settings.Basic

/-!
# Options of an agent

An agent is described by its name and a list of options, given in any order. `Plan.ofOptions` gathers them, and
reports every fault at once: an empty name, each keepalive option that sets nothing, and the combinations
of acknowledging commits with options that rule it out.
-/

namespace NetworkAgent

/-- How the daemon is probed. -/
structure KeepAlive where
  /-- The time between two probes, in milliseconds. -/
  interval : Nat
  /-- The number of failures in a row after which probing stops for good. -/
  threshold : UInt32
  deriving DecidableEq, Repr, Inhabited

/-- Whether probes are sent at all: both the interval and the threshold are set. -/
def KeepAlive.isSet (k : KeepAlive) : Bool := k.interval != 0 && k.threshold != 0

/-- One option of an agent. -/
inductive AgentOption where
  /-- the XPath of the application's root container -/
  | appRoot (path : String)
  /-- every configuration change is streamed, rather than one snapshot for each commit -/
  | streamConfig
  /-- commits wait until the agent has acknowledged them -/
  | acknowledge
  /-- the daemon is probed -/
  | keepAlive (k : KeepAlive)
  /-- the daemon shows the agent's configuration as its state -/
  | autoState
  /-- the daemon caches notifications -/
  | cache
  /-- the settings to use -/
  | settings (s : Settings)
  /-- the context of log messages, which changes nothing else -/
  | logContext
  /-- the token by which the session is cancelled, which may have been `cancelled` already -/
  | cancellation (cancelled : Bool)
  deriving DecidableEq, Repr

/-- Why an agent's options are refused. -/
inductive OptionError where
  /-- The name is empty. -/
  | emptyName
  /-- A keepalive option has neither interval nor threshold. -/
  | invalidKeepAlive
  /-- Commits are acknowledged, but configuration is not streamed. -/
  | acknowledgeWithoutStream
  /-- Commits are acknowledged, but configuration becomes state by itself. -/
  | acknowledgeWithAutoState
  deriving DecidableEq, Repr

/-- The text of an option error. -/
def OptionError.message : OptionError → String
  | .emptyName => "agent name cannot be empty"
  | .invalidKeepAlive =>
    "configuring agent keepalives failed. interval and threshold cannot both be zero"
  | .acknowledgeWithoutStream =>
    "agent cannot acknowledge configs unless it enables config stream"
  | .acknowledgeWithAutoState =>
    "agent cannot acknowledge configs when auto config state is enabled"

/-- What an agent is to do. -/
structure Plan where
  /-- The agent's name. -/
  name : String
  /-- The XPath of the application's root container, if it is not the default one. -/
  appRoot? : Option String := none
  /-- Every configuration change is streamed. -/
  streamConfig : Bool := false
  /-- Commits wait until the agent has acknowledged them. -/
  acknowledge : Bool := false
  /-- How the daemon is probed. -/
  keepAlive : Option KeepAlive := none
  /-- The daemon shows the agent's configuration as its state. -/
  autoState : Bool := false
  /-- The daemon caches notifications. -/
  cache : Bool := false
  /-- The settings to use. -/
  settings : Settings := {}
  /-- The session is cancelled from the beginning. -/
  cancelled : Bool := false
  deriving DecidableEq, Repr

namespace Plan

/-- The XPath of the application's root container: the agent's name below the root, unless given. -/
def appRoot (p : Plan) : String := p.appRoot?.getD ("/" ++ p.name)

/-- Takes one option. A keepalive option that sets nothing is refused and leaves an accepted one in force. -/
def apply (p : Plan) : AgentOption → Plan
  | .appRoot path => { p with appRoot? := some path }
  | .streamConfig => { p with streamConfig := true }
  | .acknowledge => { p with acknowledge := true }
  | .keepAlive k =>
    if k.interval = 0 ∧ k.threshold = 0 then p else { p with keepAlive := some k }
  | .autoState => { p with autoState := true }
  | .cache => { p with cache := true }
  | .settings s => { p with settings := s }
  | .logContext => p
  | .cancellation cancelled => { p with cancelled := cancelled }

/-- Whether an option is refused by itself. -/
def refuses : AgentOption → Bool
  | .keepAlive k => k.interval == 0 && k.threshold == 0
  | _ => false

/-- The faults in the combination of options. -/
def conflicts (p : Plan) : List OptionError :=
  (if p.acknowledge && !p.streamConfig then [.acknowledgeWithoutStream] else []) ++
    (if p.acknowledge && p.autoState then [.acknowledgeWithAutoState] else [])

/-- Gathers the options of an agent, or reports all their faults. -/
def ofOptions (name : String) (options : List AgentOption) : Except (List OptionError) Plan :=
  let plan := options.foldl apply { name := name }
  let faults :=
    (if name.isEmpty then [.emptyName] else []) ++
      (options.filter refuses).map (fun _ => .invalidKeepAlive) ++ plan.conflicts
  if faults.isEmpty then .ok plan else .error faults

end Plan

end NetworkAgent
