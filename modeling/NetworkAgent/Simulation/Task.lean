import NetworkAgent.Commit.Tracker
import NetworkAgent.Probe
import NetworkAgent.Stream.Pump

/-!
# Tasks

A **task** is one activity as a scheduler sees it: whatever the activity is, a task waits for one thing,
takes an event, and has effects on its surroundings.
-/

namespace NetworkAgent

open Message

/-- Where a pump delivers. -/
inductive Sink where
  /-- to the tracker of the session -/
  | tracker
  /-- to the queue with a number -/
  | queue (id : Nat) (topic : Topic)
  deriving DecidableEq, Repr

/-- An activity under a scheduler. -/
inductive Task where
  /-- an attempt that is repeated until it works -/
  | attempt (r : Retry String)
  /-- a pause -/
  | pause (p : Pause)
  /-- obtaining a stream handle -/
  | handle (r : Retry UInt64)
  /-- putting a topic on a stream; first `asked` is false, then the answer is waited for -/
  | subscription (streamId : UInt64) (topic : Topic) (asked : Bool) (result : Option (Except Error Unit))
  /-- probing the daemon -/
  | probe (k : KeepAlive) (p : Probe)
  /-- pumping notifications -/
  | pump (sink : Sink) (p : Pump)
  /-- obtaining the handle of the configuration topic, to become the tracker -/
  | feed (p : Pump) (t : Tracker)
  /-- tracking commits -/
  | track (t : Tracker)
  deriving Repr

/-- What a task does to its surroundings. -/
inductive Effect where
  /-- makes a call -/
  | call (r : Request)
  /-- makes an attempt -/
  | attempt
  /-- a pump has got its first handle -/
  | started (streamId : UInt64)
  /-- hands a notification to the tracker -/
  | notify (n : ConfigNotification)
  /-- puts a notification into a queue -/
  | publish (id : Nat) (p : Payload)
  /-- keeps a configuration as the current snapshot -/
  | store (json : Option String)
  /-- hands over a snapshot -/
  | snapshot (c : FullConfig)
  /-- hands over a change -/
  | delta (d : Delta)
  /-- sets another task off -/
  | spawn (t : Task)
  deriving Repr

/-- What a task knows of its surroundings when it takes an event. -/
structure Surroundings where
  /-- The instant, in milliseconds. -/
  now : Nat
  /-- The pause before a failed activity is tried again. -/
  delay : Nat
  /-- Whether the task's consumer is still there. -/
  listened : Bool

namespace Task

/-- What a task waits for. -/
def wait : Task → Wait
  | attempt r => r.wait
  | pause p => p.wait
  | handle r => r.wait
  | subscription _ _ asked result =>
    if result.isSome then .ended else if asked then .answer else .turn
  | probe _ p => p.wait
  | pump _ p | feed p _ => p.wait
  | track t => t.wait

/-- Whether a task watches the session's cancellation while it waits. -/
def watchesCancellation : Task → Bool
  | subscription .. => false
  | probe _ p => p.watchesCancellation
  | pump _ p | feed p _ => p.watchesCancellation
  | track t => t.watchesCancellation
  | attempt _ | pause _ | handle _ => true

/-- The effect of a pump of the configuration topic. -/
def configEffect : Pump.Output ConfigNotification → Effect
  | .call r => .call r
  | .started id => .started id
  | .deliver n => .notify n

/-- The effect of a pump that delivers to a queue. -/
def queueEffect (id : Nat) : Pump.Output Payload → Effect
  | .call r => .call r
  | .started id => .started id
  | .deliver p => .publish id p

/-- The effect of a tracker. -/
def trackerEffect : Tracker.Output → Effect
  | .call r => .call r
  | .store json => .store json
  | .snapshot c => .snapshot c
  | .delta d => .delta d

/-- A pump that has got its handle leaves the rest to a task of its own and becomes the tracker. -/
def feedStep (env : Surroundings) (p : Pump) (t : Tracker) (e : Event) : Task × List Effect :=
  let (p', outputs) := p.step Selector.config env.delay env.listened env.now e
  if p'.started then (track t, [.spawn (pump .tracker p')])
  else (feed p' t, outputs.map configEffect)

/-- Takes an event. -/
def step (env : Surroundings) : Task → Event → Task × List Effect
  | attempt r, e =>
    let r' := r.step env.delay env.now (.ofAttempt e)
    (attempt r', if r = .poised ∧ r' = .attempting then [.attempt] else [])
  | pause p, e => (pause (p.step e), [])
  | handle r, e =>
    let r' := r.step env.delay env.now (.ofEvent Registry.granted? e)
    (handle r', if r = .poised ∧ r' = .attempting then [.call Registry.createCall] else [])
  | subscription id topic _ none, .turn =>
    (subscription id topic true none, [.call (Registry.subscribeCall id topic)])
  | subscription id topic _ none, .answered a =>
    (subscription id topic true (some (Registry.subscribed id topic a)), [])
  | subscription id topic asked result, _ => (subscription id topic asked result, [])
  | probe k p, e =>
    let (p', calls) := p.step k env.delay env.now e
    (probe k p', calls.map .call)
  | pump .tracker p, e =>
    let (p', outputs) := p.step Selector.config env.delay env.listened env.now e
    (pump .tracker p', outputs.map configEffect)
  | pump (.queue id topic) p, e =>
    let (p', outputs) := p.step topic.selector env.delay env.listened env.now e
    (pump (.queue id topic) p', outputs.map (queueEffect id))
  | feed p t, e => feedStep env p t e
  | track t, e =>
    let (t', outputs) := t.step e
    (track t', outputs.map trackerEffect)

end Task

end NetworkAgent
