import NetworkAgent.Session.Connect

/-!
# The course of an operation

`Session.begin` takes up an operation, and `Session.resume` takes it on with an answer. Between the two,
and between two answers, other operations of the same session may take their steps.

* A session registers its agent once. Its connections are there from the moment that it starts to register.
* State is tracked once the daemon has taken it, and is deleted only if it is tracked. All of it is deleted in
  the order of the paths; the paths to delete are those tracked when the operation began, less those that are gone
  when their turn comes.
* Routes and next hop groups are replaced within a window that one call opens and another closes; the first of
  the three calls that is refused ends the operation.
-/

namespace NetworkAgent.Session

open Message

/-- The call that opens a window. -/
def openCall : Window → Request
  | .routes => .routeSyncStart
  | .nextHopGroups => .nextHopGroupSyncStart

/-- The call that closes a window. -/
def closeCall : Window → Request
  | .routes => .routeSyncEnd
  | .nextHopGroups => .nextHopGroupSyncEnd

/-- The error of a window that was not opened. -/
def openError : Window → Error
  | .routes => .route .syncStart
  | .nextHopGroups => .nextHopGroup .syncStart

/-- The error of a window that was not filled. -/
def fillError : Window → Error
  | .routes => .route .addOrUpdate
  | .nextHopGroups => .nextHopGroup .addOrUpdate

/-- The error of a window that was not closed. -/
def closeError : Window → Error
  | .routes => .route .syncEnd
  | .nextHopGroups => .nextHopGroup .syncEnd

/-- The call that pushes a path's state. -/
def updateCall (path json : String) : Request := .telemetryAddOrUpdate [⟨XPath.toJsPath path, json⟩]

/-- The call that deletes a path's state. -/
def deleteCall (path : String) : Request := .telemetryDelete [XPath.toJsPath path]

/-- The request that registers an agent. -/
def registration (plan : Plan) : AgentRegistrationRequest :=
  ⟨plan.acknowledge, plan.autoState, plan.cache⟩

/-- The activities of a session that has registered its agent. -/
def jobs (plan : Plan) : List Job :=
  (match plan.keepAlive with
    | some k => if k.isSet then [.probe k] else []
    | none => []) ++ [.configFeed]

/-- Deletes the first of some paths that is still tracked, or finds that all are gone. -/
def deleteNext (s : Session) : List String → Session × Stage
  | [] => ({ s with ledger := .empty }).done
  | path :: rest =>
    if path ∈ s.ledger then s.call (deleteCall path) (.deleting path (some rest))
    else s.deleteNext rest

/-- Starts a session. -/
def beginStart (s : Session) (link : Link) : Session × Stage :=
  match linkFault? s.plan link with
  | some e => s.fail e
  | none =>
    if s.connected then s.fail (.fatal .alreadyStarted)
    else ({ s with connected := true }).call (.agentRegister (registration s.plan)) .registering

/-- Acknowledges a commit, which the agent's options have to provide for. -/
def beginAcknowledge (s : Session) (infos : List Acknowledgement) : Session × Stage :=
  if !s.plan.acknowledge then s.fail (.acknowledge .optionNotSet)
  else if !s.plan.streamConfig then s.fail (.acknowledge .notStreaming)
  else s.call (.acknowledgeConfig (infos.map (·.toMessage))) (.single (.acknowledge .failed))

/-- Takes up an operation. -/
def begin (s : Session) : Operation → Session × Stage
  | .start link => s.beginStart link
  | .stop =>
    if s.connected then (s, .waiting .agentUnregister .unregistering)
    else ({ s with cancelled := true }).done
  | .updateState path json =>
    s.call (updateCall (s.statePath path) json) (.updating (s.statePath path) json)
  | .deleteState path =>
    if s.statePath path ∈ s.ledger then
      s.call (deleteCall (s.statePath path)) (.deleting (s.statePath path) none)
    else s.fail (.state (.notTracked (s.statePath path)))
  | .deleteAllState => s.deleteNext s.ledger.paths
  | .addRoutes routes => s.call (.routeAddOrUpdate routes) (.single (fillError .routes))
  | .replaceRoutes routes =>
    s.call (openCall .routes) (.openingWindow .routes (.routeAddOrUpdate routes))
  | .deleteRoutes networkInstance destinations =>
    match Route.keys networkInstance destinations with
    | .error e => s.fail e
    | .ok keys => s.call (.routeDelete keys) (.single (.route .delete))
  | .addGroups groups => s.call (.nextHopGroupAddOrUpdate groups) (.single (fillError .nextHopGroups))
  | .replaceGroups groups =>
    s.call (openCall .nextHopGroups) (.openingWindow .nextHopGroups (.nextHopGroupAddOrUpdate groups))
  | .deleteGroup networkInstance name =>
    s.call (.nextHopGroupDelete [⟨name, networkInstance⟩]) (.single (.nextHopGroup .delete))
  | .acknowledge infos => s.beginAcknowledge infos
  | .get r => s.call (.gnmiGet r) .getting
  | .set r => s.call (.gnmiSet r) .setting
  | .receive topic =>
    if s.connected then (s, .finished (.ok .done) [.topicFeed topic]) else s.fail .notStarted

/-- Takes on a registration with its answer. -/
def registered (s : Session) : Answer → Session × Stage
  | .response (.registration r) =>
    if r.outcome.isSuccess then
      ({ s with appId := some r.appId }, .finished (.ok .done) (jobs s.plan))
    else s.fail (.fatal (.refused r.errorText))
  | .response r => s.fail (.fatal (.refused r.report.errorText))
  | .failed e => s.fail (.fatal (.registration e))

/-- Takes on a delete with its answer. -/
def deleted (s : Session) (path : String) (rest : Option (List String)) (a : Answer) :
    Session × Stage :=
  if a.succeeded then
    let s := { s with ledger := s.ledger.drop s.appRoot path }
    match rest with
    | none => s.done
    | some rest => s.deleteNext rest
  else s.fail (.state (.delete (XPath.toJsPath path)))

/-- Takes an operation on with the answer that it waited for. -/
def resume (s : Session) (c : Conversation) (a : Answer) : Session × Stage :=
  match c with
  | .registering => s.registered a
  | .unregistering => ({ s with cancelled := true }).done
  | .updating path json =>
    if a.succeeded then ({ s with ledger := s.ledger.insert path }).done
    else s.fail (.state (.addOrUpdate (XPath.toJsPath path) json))
  | .deleting path rest => s.deleted path rest a
  | .openingWindow w add => if a.succeeded then s.call add (.fillingWindow w) else s.fail (openError w)
  | .fillingWindow w =>
    if a.succeeded then s.call (closeCall w) (.closingWindow w) else s.fail (fillError w)
  | .closingWindow w => if a.succeeded then s.done else s.fail (closeError w)
  | .single e => if a.succeeded then s.done else s.fail e
  | .getting =>
    match a with
    | .response (.got r) => (s, .finished (.ok (.got r)) [])
    | .response _ => s.done
    | .failed e => s.fail (.network (.status e))
  | .setting =>
    match a with
    | .response (.set r) => (s, .finished (.ok (.set r)) [])
    | .response _ => s.done
    | .failed e => s.fail (.network (.status e))

end NetworkAgent.Session
