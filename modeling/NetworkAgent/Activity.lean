import NetworkAgent.Message.Notification
import NetworkAgent.Service

/-!
# Activities

A session runs several **activities** side by side: it probes the daemon, pumps notifications, tracks
commits. An activity is a state with a step function. Between two steps it **waits** for one thing, and a
step takes the **event** that it waited for. Its `Guard` tells whether it watches the session's
cancellation while it waits; if it does, a cancelled session gives it the event `cancelled` before any other.

An activity's state, its waits and its steps say all that it does. Who runs the steps, and in which order those
of different activities are taken, is left open.
-/

namespace NetworkAgent

open Message

/-- What an open notification stream yields. -/
inductive StreamItem where
  /-- a message with notifications -/
  | response (r : StreamResponse)
  /-- an error, after which the stream is of no use -/
  | failed (s : Status)
  /-- the end of the stream -/
  | ended
  deriving DecidableEq, Repr

/-- What an activity waits for. -/
inductive Wait where
  /-- nothing but its turn -/
  | turn
  /-- the answer to the call, or the end of the attempt, that it made last -/
  | answer
  /-- an instant, in milliseconds -/
  | until (time : Nat)
  /-- the next item of its notification stream -/
  | item
  /-- its input queue -/
  | input
  /-- nothing any more: it has finished -/
  | ended
  deriving DecidableEq, Repr

/-- What ends a wait. -/
inductive Event where
  /-- its turn has come -/
  | turn
  /-- the call was answered -/
  | answered (a : Answer)
  /-- an attempt at something that is no call ended, with a text if it succeeded -/
  | tried (outcome : Option String)
  /-- the instant has come -/
  | elapsed
  /-- the stream yielded an item -/
  | yielded (i : StreamItem)
  /-- the input queue yielded a notification, or is closed and empty -/
  | received (n : Option ConfigNotification)
  /-- the session was cancelled -/
  | cancelled
  deriving DecidableEq, Repr

end NetworkAgent
