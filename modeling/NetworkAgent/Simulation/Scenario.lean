import NetworkAgent.Simulation.Operation

/-!
# Scenarios

A scenario is a world to begin with and a list of **acts** from outside: time passes, the session is
cancelled, notifications come in for a tracker, a consumer leaves. After each act the tasks go on as far as they
can without time passing, and an onlooker takes what is in the queues.
-/

namespace NetworkAgent

open Message

/-- What is done to a world from outside. -/
inductive Act where
  /-- lets time pass, in milliseconds -/
  | advance (duration : Nat)
  /-- cancels the session -/
  | cancel
  /-- sends notifications to the tracker -/
  | notify (ns : List ConfigNotification)
  /-- closes the tracker's input queue -/
  | closeInput
  /-- leaves the queue of snapshots -/
  | dropSnapshots
  /-- leaves the queue of changes -/
  | dropDeltas
  /-- leaves every queue of notifications -/
  | dropTopics
  deriving Repr

namespace World

/-- A world whose session only waits between attempts and may be cancelled; it has no tasks yet. -/
def quiet (delay : UInt64) (script : Script) (cancelled : Bool) : World :=
  { session := { plan := { name := "", settings := { retry := ⟨delay⟩ } }, cancelled := cancelled }
    script := script }

/-- The world of a session that has not been started: nobody listens to a feed yet. -/
def ofSession (s : Session) (overChannel : Bool) (script : Script) : World :=
  { session := s, overChannel := overChannel, script := script,
    full := { dropped := true }, deltas := { dropped := true } }

/-- Sets a task off and lets it go on as far as it can. -/
def withTask (t : Task) (w : World) : World := (w.spawn t).settle

/-- Sets off probing, which needs an interval to keep. -/
def withProbe (k : KeepAlive) (w : World) : World := if k.interval = 0 then w else w.withTask (.probe k .new)

/-- Sets off a pump that delivers to a queue of its own. -/
def withPump (topic : Topic) (p : Pump) (w : World) : World :=
  let w := { w with topics := [(⟨w.count, topic, {}⟩ : TopicQueue)] }
  w.withTask (.pump (.queue w.count topic) p)

/-- Sets off a pump of a handle that has its topic. -/
def withHandle (topic : Topic) (streamId : UInt64) (w : World) : World :=
  (w.note (.started streamId)).withPump topic (.ofHandle streamId)

/-- Leaves every queue of notifications for good. -/
def forgetTopics (w : World) : World := { w with topics := [] }

/-- Does something to the world and lets its tasks go on as far as they can. -/
def act (w : World) (a : Act) : World :=
  match a with
  | .advance duration => w.pass (w.now + duration)
  | .cancel => w.cancel.settle
  | .notify ns => (wakeReaders { w with inbox := ns.foldl (fun q n => q.push n) w.inbox }).settle
  | .closeInput => (wakeReaders { w with inbox := w.inbox.close }).settle
  | .dropSnapshots => { w with full := w.full.drop }
  | .dropDeltas => { w with deltas := w.deltas.drop }
  | .dropTopics => { w with topics := w.topics.map fun t => { t with queue := t.queue.drop } }

/-- The world after an onlooker has taken the notes and all that was in the queues. -/
def taken (w : World) : World :=
  { w with
    notes := []
    full := w.full.drain
    deltas := w.deltas.drain
    topics := w.topics.map fun t => { t with queue := t.queue.drain } }

/-- The first task of the world, with the instant at which it finished if it has. -/
def subject? (w : World) : Option (Task × Option Nat) :=
  w.tasks.head?.map fun t => (t.task, t.finished)

end World

end NetworkAgent
