import NetworkAgent.Activity

/-!
# Trying again until it works

An **attempt** that may fail is repeated after a fixed delay until it succeeds or the session is cancelled.
The cancellation is watched throughout: before an attempt, while it is under way, and during the delay. There
is no limit on the number of attempts.
-/

namespace NetworkAgent

/-- The state of an attempt that is repeated until it yields an `α`. -/
inductive Retry (α : Type) where
  /-- The next attempt is about to start. -/
  | poised
  /-- An attempt is under way. -/
  | attempting
  /-- The last attempt failed, and the next one starts at an instant. -/
  | pausing (resume : Nat)
  /-- An attempt succeeded. -/
  | done (value : α)
  /-- The session was cancelled first. -/
  | cancelled
  deriving DecidableEq, Repr

namespace Retry

variable {α : Type}

/-- What happens to a repeated attempt. -/
inductive Event (α : Type) where
  /-- its turn has come -/
  | turn
  /-- the attempt ended, with a value if it succeeded -/
  | finished (outcome : Option α)
  /-- the delay is over -/
  | elapsed
  /-- the session was cancelled -/
  | cancelled
  /-- something that no attempt waits for -/
  | foreign
  deriving DecidableEq, Repr

/-- What the state waits for. -/
def wait : Retry α → Wait
  | poised => .turn
  | attempting => .answer
  | pausing t => .until t
  | done _ | cancelled => .ended

/-- Takes an event at the instant `now`; one that the state does not wait for changes nothing. -/
def step (delay now : Nat) : Retry α → Retry.Event α → Retry α
  | poised, .turn => attempting
  | attempting, .finished (some a) => done a
  | attempting, .finished none => pausing (now + delay)
  | pausing _, .elapsed => poised
  | poised, .cancelled | attempting, .cancelled | pausing _, .cancelled => cancelled
  | s, _ => s

/-- The event of a repeated call, `read` being the value of an answer that counts as a success. -/
def Event.ofEvent (read : Answer → Option α) : NetworkAgent.Event → Retry.Event α
  | .turn => .turn
  | .answered a => .finished (read a)
  | .elapsed => .elapsed
  | .cancelled => .cancelled
  | .tried _ | .yielded _ | .received _ => .foreign

/-- The event of a repeated attempt that is no call. -/
def Event.ofAttempt : NetworkAgent.Event → Retry.Event String
  | .turn => .turn
  | .tried outcome => .finished outcome
  | .elapsed => .elapsed
  | .cancelled => .cancelled
  | .answered _ | .yielded _ | .received _ => .foreign

end Retry

/-- A pause that is cut short when the session is cancelled. -/
inductive Pause where
  /-- It lasts until an instant. -/
  | resting (resume : Nat)
  /-- It is over, and `completed` tells whether it lasted to its end. -/
  | ended (completed : Bool)
  deriving DecidableEq, Repr

namespace Pause

/-- A pause that begins now. -/
def start (now duration : Nat) : Pause := resting (now + duration)

/-- What the pause waits for. -/
def wait : Pause → Wait
  | resting t => .until t
  | ended _ => .ended

/-- Takes an event; one that the pause does not wait for changes nothing. -/
def step : Pause → Event → Pause
  | resting _, .elapsed => ended true
  | resting _, .cancelled => ended false
  | p, _ => p

end Pause

end NetworkAgent
