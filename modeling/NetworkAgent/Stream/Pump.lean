import NetworkAgent.Stream.Registry

/-!
# The notification pump

A pump brings the notifications of one topic from the daemon to a queue. It **obtains** a handle, puts its topic
on it by a single call, **opens** the stream, and **receives**. When the stream fails or ends it pauses and
opens the same handle again. When the daemon does not know the handle any more (a call that fails as not
found or as an invalid argument) it pauses and obtains a new handle. A topic that the daemon refuses leaves
the stream silent; the pump goes on all the same.

Every wait watches the session's cancellation but one: the call that puts the topic on the handle is
waited for to its end. A pump also stops when its consumer is gone, which it notices when it has a
notification to deliver.
-/

namespace NetworkAgent

open Message

/-- What a call to open a stream came to, apart from a failure that is worth another attempt. -/
inductive Opening where
  /-- The stream is open. -/
  | open
  /-- The daemon does not know the handle. -/
  | stale
  deriving DecidableEq, Repr

/-- What an answer to the opening call comes to; a failure that is worth another attempt is nothing. -/
def Opening.ofAnswer? : Answer → Option Opening
  | .response _ => some .open
  | .failed s =>
    match s.code with
    | .notFound | .invalidArgument => some .stale
    | _ => none

namespace Pump

/-- What a pump is doing. -/
inductive Phase where
  /-- obtaining a handle -/
  | obtaining (r : Retry UInt64)
  /-- putting the topic on a new handle -/
  | subscribing (streamId : UInt64)
  /-- opening the stream of a handle -/
  | opening (streamId : UInt64) (r : Retry Opening)
  /-- pausing before it obtains a handle in place of one that the daemon does not know -/
  | stale (resume : Nat)
  /-- receiving -/
  | receiving (streamId : UInt64)
  /-- pausing after a stream failed or ended -/
  | backingOff (streamId : UInt64) (resume : Nat)
  /-- nothing any more -/
  | stopped
  deriving DecidableEq, Repr

end Pump

/-- A pump. -/
structure Pump where
  /-- What it is doing. -/
  phase : Pump.Phase
  /-- Whether it has got its first handle. -/
  started : Bool
  deriving DecidableEq, Repr

namespace Pump

/-- What a pump does in a step. -/
inductive Output (α : Type) where
  /-- makes a call -/
  | call (r : Request)
  /-- has got its first handle, with its topic -/
  | started (streamId : UInt64)
  /-- delivers a notification -/
  | deliver (a : α)
  deriving DecidableEq, Repr

/-- A pump that has no handle yet. -/
def new : Pump := ⟨.obtaining .poised, false⟩

/-- A pump of a handle that has its topic. -/
def ofHandle (streamId : UInt64) : Pump := ⟨.opening streamId .poised, true⟩

/-- What the pump waits for. -/
def wait (p : Pump) : Wait :=
  match p.phase with
  | .obtaining r => r.wait
  | .subscribing _ => .answer
  | .opening _ r => r.wait
  | .stale t | .backingOff _ t => .until t
  | .receiving _ => .item
  | .stopped => .ended

/-- Whether the pump watches the session's cancellation while it waits. -/
def watchesCancellation (p : Pump) : Bool :=
  match p.phase with
  | .subscribing _ => false
  | _ => true

/-- How a pump ended: it was cancelled before it got its first handle, or it did its work. -/
def result? (p : Pump) : Option (Except Error Unit) :=
  match p.phase with
  | .stopped => some (if p.started then .ok () else .error .cancelled)
  | _ => none

/-- A pump that obtains a handle, in the state that an attempt has come to. -/
def obtain {α : Type} (p : Pump) (sel : Selector α) : Retry UInt64 → Pump × List (Output α)
  | .done id =>
    ({ p with phase := .subscribing id }, [.call (Registry.subscribeCall id sel.topic)])
  | .cancelled => ({ p with phase := .stopped }, [])
  | .attempting => ({ p with phase := .obtaining .attempting }, [.call Registry.createCall])
  | r => ({ p with phase := .obtaining r }, [])

/-- A pump that opens a stream, in the state that an attempt has come to. -/
def openStream {α : Type} (p : Pump) (delay now : Nat) (id : UInt64) :
    Retry Opening → Pump × List (Output α)
  | .done .open => ({ p with phase := .receiving id }, [])
  | .done .stale => ({ p with phase := .stale (now + delay) }, [])
  | .cancelled => ({ p with phase := .stopped }, [])
  | .attempting => ({ p with phase := .opening id .attempting }, [.call (.notificationStream id)])
  | r => ({ p with phase := .opening id r }, [])

/-- A pump that has received a message, `listened` telling whether its consumer is still there. -/
def deliver {α : Type} (p : Pump) (sel : Selector α) (listened : Bool) (r : StreamResponse) :
    Pump × List (Output α) :=
  if listened then (p, (sel.extractAll r).map .deliver)
  else if (sel.extractAll r).isEmpty then (p, [])
  else ({ p with phase := .stopped }, [])

/-- Takes an event at the instant `now`; one that the pump does not wait for changes nothing. -/
def step {α : Type} (sel : Selector α) (delay : Nat) (listened : Bool) (now : Nat) (p : Pump)
    (e : Event) : Pump × List (Output α) :=
  match p.phase, e with
  | .obtaining r, e => p.obtain sel (r.step delay now (.ofEvent Registry.granted? e))
  | .subscribing id, .answered _ =>
    (⟨.opening id .poised, true⟩, if p.started then [] else [.started id])
  | .opening id r, e => p.openStream delay now id (r.step delay now (.ofEvent Opening.ofAnswer? e))
  | .stale _, .elapsed => ({ p with phase := .obtaining .poised }, [])
  | .receiving _, .yielded (.response r) => p.deliver sel listened r
  | .receiving id, .yielded (.failed _) | .receiving id, .yielded .ended =>
    ({ p with phase := .backingOff id (now + delay) }, [])
  | .backingOff id _, .elapsed => ({ p with phase := .opening id .poised }, [])
  | .stale _, .cancelled | .receiving _, .cancelled | .backingOff _ _, .cancelled =>
    ({ p with phase := .stopped }, [])
  | _, _ => (p, [])

end Pump

end NetworkAgent
