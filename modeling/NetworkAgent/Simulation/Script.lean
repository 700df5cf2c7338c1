import NetworkAgent.Activity

/-!
# Scripted services

For a session to run without a network, a **script** stands for the services: for each call the list of its
replies, taken in order. A reply may come late, or never. When the replies of a call are used up it is
answered at once with the default response. The reply that opens a stream holds the items that the stream
yields, each with a delay that is counted from the moment when the stream is asked for it.
-/

namespace NetworkAgent

/-- An item of a scripted stream. -/
structure ScriptedItem where
  /-- How long it takes to come, in milliseconds. -/
  delay : Nat
  /-- The item. -/
  item : StreamItem
  deriving Repr

/-- A scripted stream. -/
structure ScriptedStream where
  /-- The items that it yields. -/
  items : List ScriptedItem := []
  /-- Whether it ends after them, rather than stay open and silent. -/
  ends : Bool := false
  deriving Repr

/-- A scripted reply. -/
structure ScriptedReply where
  /-- How long it takes to come, in milliseconds. -/
  delay : Nat := 0
  /-- The answer, if one ever comes. -/
  answer : Option Answer
  /-- What the stream yields that it opens, if it opens one. -/
  stream : ScriptedStream := {}
  deriving Repr

/-- For each call, the replies that are left. -/
abbrev Script := List (Rpc × List ScriptedReply)

namespace Script

/-- Takes the next reply of a call, and leaves the others. -/
def take (rpc : Rpc) : Script → ScriptedReply × Script
  | [] => (⟨0, some (.response rpc.defaultResponse), {}⟩, [])
  | (r, replies) :: rest =>
    if r = rpc then
      match replies with
      | [] => (⟨0, some (.response rpc.defaultResponse), {}⟩, (r, []) :: rest)
      | reply :: replies => (reply, (r, replies) :: rest)
    else ((take rpc rest).1, (r, replies) :: (take rpc rest).2)

/-- How long the replies that are left take, one after another. -/
def duration (s : Script) : Nat := s.foldl (fun n e => e.2.foldl (fun n r => n + r.delay) n) 0

/-- How many replies and stream items are left. -/
def size (s : Script) : Nat :=
  s.foldl (fun n e => e.2.foldl (fun n r => n + 1 + r.stream.items.length) n) 0

end Script

/-- A scripted attempt: how long it takes and how it ends, if it ever does. -/
structure ScriptedAttempt where
  /-- How long it takes, in milliseconds. -/
  delay : Nat
  /-- How it ends: with a value, with a failure, or not at all. -/
  outcome : Option (Option String)
  deriving Repr

end NetworkAgent
