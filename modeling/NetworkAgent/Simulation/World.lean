import NetworkAgent.Session.Basic
import NetworkAgent.Simulation.Channel
import NetworkAgent.Simulation.Queue
import NetworkAgent.Simulation.Script
import NetworkAgent.Simulation.Task
import NetworkAgent.Status.Header

/-!
# Worlds

A **world** is a session with its tasks, scripted services and a virtual clock. It keeps the queues between
the tasks and the application, answers calls from its script, and notes what an onlooker can see.
`World.perform` lets the effect of a task happen.
-/

namespace NetworkAgent

open Message

/-- Something that happened, in the order in which an onlooker sees it. -/
inductive Note where
  /-- a call was made -/
  | call (r : Request)
  /-- an attempt was made -/
  | attempt
  /-- a pump has got its first handle -/
  | started (streamId : UInt64)
  deriving Repr

/-- What a task waits for, as its scheduler sees it. -/
inductive Pending where
  /-- something that somebody else brings about, or nothing that ever comes -/
  | idle
  /-- its alarm, with the event that it brings -/
  | alarm (e : Event)
  /-- an event that has come -/
  | arrived (e : Event)
  deriving Repr

/-- An alarm. -/
structure Alarm where
  /-- When it goes off. -/
  due : Nat
  /-- Whose turn it then is. -/
  actor : Actor
  deriving Repr

/-- A task with what its scheduler knows about it. -/
structure Running where
  /-- The number of the task. -/
  id : Nat
  /-- The task. -/
  task : Task
  /-- What it waits for. -/
  pending : Pending := .idle
  /-- The stream that it opened last by a direct call. -/
  stream : ScriptedStream := {}
  /-- The call over a channel that it waits for, or whose stream it reads. -/
  passage : Option Nat := none
  /-- When it finished, if it has. -/
  finished : Option Nat := none
  deriving Repr

/-- A queue of notifications of a topic, with its number. -/
structure TopicQueue where
  /-- The number of the queue. -/
  id : Nat
  /-- The topic. -/
  topic : Topic
  /-- The queue. -/
  queue : Queue Payload := {}
  deriving Repr

/-- A session with its surroundings. -/
structure World where
  /-- The clock, in milliseconds. -/
  now : Nat := 0
  /-- The session. -/
  session : Session
  /-- Whether calls are made over channels. -/
  overChannel : Bool := false
  /-- The replies that are left. -/
  script : Script := []
  /-- The attempts that are left. -/
  attempts : List ScriptedAttempt := []
  /-- What happened since it was last looked at, latest first, with its instant. -/
  notes : List (Nat × Note) := []
  /-- The tasks, oldest first. -/
  tasks : List Running := []
  /-- Those who can go on, in the order of their turns. -/
  ready : List Actor := []
  /-- Those who could go on, but gave way to all others. -/
  deferred : List Actor := []
  /-- The alarms that are set, in the order in which they were set. -/
  alarms : List Alarm := []
  /-- What is on its way over the channel. -/
  channel : Channel := {}
  /-- How many tasks, calls and queues there have been. -/
  count : Nat := 0
  /-- The notifications that wait for the tracker. -/
  inbox : Queue ConfigNotification := {}
  /-- The snapshots that wait for the application. -/
  full : Queue FullConfig := {}
  /-- The changes that wait for the application. -/
  deltas : Queue Delta := {}
  /-- The notifications that wait for the application, by the queue that they are in. -/
  topics : List TopicQueue := []
  deriving Repr

namespace World

/-! ## Tasks and their queues -/

/-- Notes something that happens now. -/
def note (n : Note) (w : World) : World := { w with notes := (w.now, n) :: w.notes }

/-- The task with a number. -/
def task? (w : World) (id : Nat) : Option Running := w.tasks.find? (·.id == id)

/-- Changes the task with a number. -/
def modifyTask (id : Nat) (f : Running → Running) (w : World) : World :=
  { w with tasks := w.tasks.map fun t => if t.id == id then f t else t }

/-- Changes the queue with a number. -/
def modifyTopic (id : Nat) (f : Queue Payload → Queue Payload) (w : World) : World :=
  { w with topics := w.topics.map fun t => if t.id == id then { t with queue := f t.queue } else t }

/-- Lets somebody have a turn after all that have one already. -/
def enqueue (a : Actor) (w : World) : World :=
  if w.ready.contains a then w else { w with ready := w.ready ++ [a] }

/-- Sets a task off. -/
def spawn (t : Task) (w : World) : World :=
  enqueue (.task w.count)
    { w with tasks := w.tasks ++ [{ id := w.count, task := t }], count := w.count + 1 }

/-- Lets every task that waits for its input queue have a turn. -/
def wakeReaders (w : World) : World :=
  w.tasks.foldl (fun w t => if t.task.wait = .input then w.enqueue (.task t.id) else w) w

/-- Sets an alarm. -/
def setAlarm (due : Nat) (a : Actor) (w : World) : World := { w with alarms := w.alarms ++ [⟨due, a⟩] }

/-- Whether somebody's alarm is still to go off. -/
def hasAlarm (a : Actor) (w : World) : Bool := w.alarms.any (·.actor == a)

/-- Takes back the alarms of somebody. -/
def clearAlarms (a : Actor) (w : World) : World := { w with alarms := w.alarms.filter (·.actor ≠ a) }

/-- Whether somebody still takes what a task delivers. -/
def listened (w : World) : Task → Bool
  | .pump .tracker _ | .feed _ _ => !w.inbox.dropped
  | .pump (.queue id _) _ => w.topics.any fun t => t.id == id && !t.queue.dropped
  | _ => true

/-- What a task knows of its surroundings. -/
def surroundings (w : World) (t : Task) : Surroundings := ⟨w.now, w.session.retryDelay, w.listened t⟩

/-- Closes the queues that a finished task sent to, and drops those that it took from. -/
def release (t : Task) (w : World) : World :=
  match t with
  | .pump .tracker _ => { w with inbox := w.inbox.close }.wakeReaders
  | .pump (.queue id _) _ => w.modifyTopic id Queue.close
  | .feed _ _ | .track _ =>
    { w with full := w.full.close, deltas := w.deltas.close, inbox := w.inbox.drop }
  | _ => w

/-! ## Calls -/

/-- A reply on its way. -/
structure Delivery (α : Type) where
  /-- How long it takes, in milliseconds. -/
  delay : Nat
  /-- What it brings, if it ever comes. -/
  content : Option α
  /-- The stream that it opens. -/
  stream : ScriptedStream := {}

/-- The same reply, seen as something else. -/
def Delivery.map {α β : Type} (f : α → β) (d : Delivery α) : Delivery β :=
  ⟨d.delay, d.content.map f, d.stream⟩

/-- The call that a request makes: over a channel, reading the configuration is a read from the management
server. -/
def onWire (overChannel : Bool) : Request → Request
  | .getConfig path => if overChannel then .gnmiGet (Management.configRequest path) else .getConfig path
  | r => r

/-- What a channel makes of the answer to a call. A call that is said to fail for no reason has no response,
unless it opens a stream, which is then empty. -/
def overWire (rpc : Rpc) : Answer → Answer
  | .failed s =>
    let s := s.received
    if s.code = .ok then
      if rpc = .notificationStream then .response .opened else .failed .missingResponse
    else .failed s
  | a => a

/-- The answer to a request, from the answer to the call that it made. -/
def fromWire (overChannel : Bool) (r : Request) (a : Answer) : Answer :=
  match r, if overChannel then overWire r.rpc a else a with
  | .getConfig _, .response (.got r) => .response (.config (Management.firstJson r))
  | _, a => a

/-- The stream that a reply opens; a failure opens one that has ended, if any. -/
def opened (reply : ScriptedReply) : ScriptedStream :=
  match reply.answer with
  | some (.failed _) => { ends := true }
  | _ => reply.stream

/-- The call that a request makes reaches the services, which have a reply to it. -/
def call (r : Request) (w : World) : World × Delivery Answer :=
  let wire := onWire w.overChannel r
  let (reply, script) := w.script.take wire.rpc
  ({ w with script := script }.note (.call wire),
   ⟨reply.delay, reply.answer.map (fromWire w.overChannel r), opened reply⟩)

/-- Makes an attempt. When the attempts are used up, the next one never ends. -/
def attempt (w : World) : World × Delivery (Option String) :=
  let w := w.note .attempt
  match w.attempts with
  | [] => (w, ⟨0, none, {}⟩)
  | a :: rest =>
    ({ w with attempts := rest }, ⟨a.delay, a.outcome, {}⟩)

end World

end NetworkAgent
