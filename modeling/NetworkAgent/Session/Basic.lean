import NetworkAgent.Commit.Tracker
import NetworkAgent.Options
import NetworkAgent.Programming
import NetworkAgent.Session.Ledger
import NetworkAgent.Stream.Topic

/-!
# Sessions

A **session** is an agent at work. The application asks for **operations**; each is a short conversation
with the services, one call at a time. `Conversation` says which answer an operation waits for, and
`Stage` what an operation comes to in a step: it waits for the answer of a further call, or is finished. A step may
also set off activities that run beside the application.

Calls of several operations may overlap. All that they share is the session itself, and each step reads and
changes it at once.
-/

namespace NetworkAgent

open Message

/-- An agent at work. -/
structure Session where
  /-- What it is to do. -/
  plan : Plan
  /-- Whether it has been given its connections, which happens once. -/
  connected : Bool := false
  /-- The identifier that the daemon gave it. -/
  appId : Option UInt32 := none
  /-- The state that the daemon has taken. -/
  ledger : Ledger := .empty
  /-- The configuration after the last commit. -/
  snapshot : Option String := none
  /-- Whether it has been cancelled. -/
  cancelled : Bool := false
  deriving DecidableEq, Repr

/-- How a session reaches the services. -/
inductive Link where
  /-- It calls them directly. -/
  | direct
  /-- It calls them over channels that are open already. -/
  | channel
  /-- It has to connect first; `reachable` tells whether the daemon can be reached. -/
  | dial (reachable : Bool)
  deriving DecidableEq, Repr

/-- What is synchronised as a whole between a start and an end call. -/
inductive Window where
  | routes
  | nextHopGroups
  deriving DecidableEq, Repr

/-- What an application asks of a session. -/
inductive Operation where
  /-- registers the agent and sets its activities off -/
  | start (link : Link)
  /-- unregisters the agent and cancels the session -/
  | stop
  /-- pushes the state of a node, the empty path naming the root container -/
  | updateState (path json : String)
  /-- deletes the state of a node, the empty path naming the root container -/
  | deleteState (path : String)
  /-- deletes all state that was pushed -/
  | deleteAllState
  /-- adds or updates routes -/
  | addRoutes (routes : List RouteInfo)
  /-- makes routes the only ones of the agent -/
  | replaceRoutes (routes : List RouteInfo)
  /-- deletes routes of a network instance -/
  | deleteRoutes (networkInstance : String) (destinations : List String)
  /-- adds or updates next hop groups -/
  | addGroups (groups : List NextHopGroupInfo)
  /-- makes next hop groups the only ones of the agent -/
  | replaceGroups (groups : List NextHopGroupInfo)
  /-- deletes a next hop group -/
  | deleteGroup (networkInstance name : String)
  /-- acknowledges a commit -/
  | acknowledge (infos : List Acknowledgement)
  /-- reads from the management server -/
  | get (r : Gnmi.GetRequest)
  /-- writes to the management server -/
  | set (r : Gnmi.SetRequest)
  /-- receives the notifications of a topic -/
  | receive (topic : Topic)
  deriving DecidableEq, Repr

/-- What a successful operation hands back. -/
inductive Reply where
  | done
  | got (r : Gnmi.GetResponse)
  | set (r : Gnmi.SetResponse)
  deriving DecidableEq, Repr

/-- Which answer an operation waits for, with all that it needs to go on. -/
inductive Conversation where
  /-- of the agent's registration -/
  | registering
  /-- of the agent's unregistration -/
  | unregistering
  /-- of an update of a path's state -/
  | updating (path json : String)
  /-- of a delete of a path's state, `rest` being the paths to delete after it if all are to go -/
  | deleting (path : String) (rest : Option (List String))
  /-- of the call that opens a window, `add` being the call to make within it -/
  | openingWindow (w : Window) (add : Request)
  /-- of the call within a window -/
  | fillingWindow (w : Window)
  /-- of the call that closes a window -/
  | closingWindow (w : Window)
  /-- of a call that is the whole operation, with the error to report if it is refused -/
  | single (onFailure : Error)
  /-- of a read from the management server -/
  | getting
  /-- of a write to the management server -/
  | setting
  deriving DecidableEq, Repr

/-- An activity that a session sets off. -/
inductive Job where
  /-- probing the daemon -/
  | probe (k : KeepAlive)
  /-- receiving and tracking the agent's configuration -/
  | configFeed
  /-- receiving the notifications of a topic -/
  | topicFeed (topic : Topic)
  deriving DecidableEq, Repr

/-- What an operation comes to in a step. -/
inductive Stage where
  /-- It waits for the answer of a call. -/
  | waiting (r : Request) (c : Conversation)
  /-- It is finished, having set off some activities. -/
  | finished (result : Except Error Reply) (jobs : List Job)
  deriving Repr

namespace Session

/-- The session of an agent that has not been started. -/
def new (plan : Plan) : Session := { plan := plan, cancelled := plan.cancelled }

/-- The XPath of the application's root container. -/
def appRoot (s : Session) : String := s.plan.appRoot

/-- The pause before a failed activity is tried again, in milliseconds. -/
def retryDelay (s : Session) : Nat := s.plan.settings.retry.interval.toNat

/-- How the session reports commits. -/
def commitMode (s : Session) : CommitMode := if s.plan.streamConfig then .streaming else .aggregate

/-- The path that an operation on state is about: an empty one names the root container. -/
def statePath (s : Session) (path : String) : String := if path.isEmpty then s.appRoot else path

/-- An operation that fails. -/
def fail (s : Session) (e : Error) : Session × Stage := (s, .finished (.error e) [])

/-- An operation that is done. -/
def done (s : Session) : Session × Stage := (s, .finished (.ok .done) [])

/-- An operation that makes a call, which a session can only do once it is connected. -/
def call (s : Session) (r : Request) (c : Conversation) : Session × Stage :=
  if s.connected then (s, .waiting r c) else s.fail .notStarted

end Session

end NetworkAgent
