import NetworkAgent.Simulation.Script

/-!
# Channels

A call over a **channel** passes several stations, each of which has to wait for its turn as tasks do. Its caller
leaves it at the **outbox**. The **dispatcher** announces it at the **near end** of the connection, and gives it a
**porter** and a **courier** of its own. The near end puts the announcement through to the **far end**, which sets off
a **handler** of its own for the call; and the porter brings what is asked on the same way. The handler then makes the
call and answers it. The answer goes back through both ends to the courier, who takes it to the caller. The items of a
stream that a call has opened go back through both ends as well, but straight to the caller.

A station that has its turn deals with all that is there, in the order in which it came.
-/

namespace NetworkAgent

/-- Who can have a turn. -/
inductive Actor where
  /-- the task with a number -/
  | task (id : Nat)
  /-- where calls are left -/
  | outbox
  /-- where each call is announced -/
  | dispatcher
  /-- the callers' end of the connection -/
  | nearEnd
  /-- the services' end of the connection -/
  | farEnd
  /-- who brings what is asked by the call with a number -/
  | porter (passage : Nat)
  /-- who makes the call with a number and answers it -/
  | handler (passage : Nat)
  /-- who takes the answer of the call with a number to its caller -/
  | courier (passage : Nat)
  deriving DecidableEq, Repr

/-- How far a service has got with a call. -/
inductive Handling where
  /-- It does not know yet what is asked. -/
  | unseen
  /-- What is asked has come. -/
  | asked
  /-- It answers when an alarm goes off; the answer opens a stream or not. -/
  | answering (a : Answer) (s : ScriptedStream)
  /-- It has answered, and yields an item when an alarm goes off, with the rest of the stream after it. -/
  | yielding (i : StreamItem) (s : ScriptedStream)
  /-- There is nothing more to come. -/
  | finished
  /-- It never answers. -/
  | silent
  deriving Repr

/-- A call on its way. -/
structure Passage where
  /-- The number of the call. -/
  id : Nat
  /-- The task that made it, unless an operation did. -/
  caller : Option Nat
  /-- What is asked. -/
  request : Request
  /-- Whether the caller has given it up. -/
  abandoned : Bool := false
  /-- How far the service has got with it. -/
  handling : Handling := .unseen
  /-- The answer that the courier is to take to the caller. -/
  answer : Option Answer := none
  /-- The answer that has come to an operation. -/
  delivered : Option Answer := none
  /-- The items that have come and were not taken. -/
  items : List StreamItem := []
  deriving Repr

/-- What goes out for a call. -/
inductive Freight where
  /-- its announcement -/
  | announcement (passage : Nat)
  /-- what is asked -/
  | content (passage : Nat)
  deriving DecidableEq, Repr

/-- What goes back for a call. -/
inductive Parcel where
  /-- its answer -/
  | answer (passage : Nat) (a : Answer)
  /-- an item of the stream that it has opened -/
  | item (passage : Nat) (i : StreamItem)
  deriving Repr

/-- What is on its way over a channel. -/
structure Channel where
  /-- The calls, oldest first. -/
  passages : List Passage := []
  /-- The calls at the outbox. -/
  posted : List Nat := []
  /-- The calls at the dispatcher. -/
  dispatched : List Nat := []
  /-- What is at the near end to go out. -/
  leaving : List Freight := []
  /-- What is on its way out to the far end. -/
  arriving : List Freight := []
  /-- What is at the far end to go back. -/
  returning : List Parcel := []
  /-- What is on its way back to the near end. -/
  returned : List Parcel := []
  deriving Repr

namespace Channel

/-- The call with a number. -/
def passage? (c : Channel) (id : Nat) : Option Passage := c.passages.find? (·.id == id)

/-- Changes the call with a number. -/
def modify (id : Nat) (f : Passage → Passage) (c : Channel) : Channel :=
  { c with passages := c.passages.map fun p => if p.id == id then f p else p }

/-- Forgets the call with a number. -/
def erase (id : Nat) (c : Channel) : Channel :=
  { c with passages := c.passages.filter (·.id != id) }

/-- Leaves a call at the outbox. -/
def post (p : Passage) (c : Channel) : Channel :=
  { c with passages := c.passages ++ [p], posted := c.posted ++ [p.id] }

/-- Whether a call is still waited for. -/
def isAwaited (c : Channel) (id : Nat) : Bool := (c.passage? id).any fun p => !p.abandoned

end Channel

end NetworkAgent
