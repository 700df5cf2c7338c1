/-!
# Queues

An unbounded queue between an activity and its consumer. Either side may leave: the queue is then **closed**, so
that no more comes, or **dropped**, so that nothing is kept. In both cases, an item that is sent is lost.
-/

namespace NetworkAgent

/-- A queue. -/
structure Queue (α : Type) where
  /-- What has been sent and not taken, oldest first. -/
  items : List α := []
  /-- Whether the sender has left. -/
  closed : Bool := false
  /-- Whether the consumer has left. -/
  dropped : Bool := false
  deriving Repr, Inhabited

namespace Queue

variable {α : Type}

/-- Sends an item, which is lost if either side has left. -/
def push (a : α) (q : Queue α) : Queue α :=
  if q.dropped || q.closed then q else { q with items := q.items ++ [a] }

/-- The queue after its sender has left. -/
def close (q : Queue α) : Queue α := { q with closed := true }

/-- The queue after its consumer has left. -/
def drop (q : Queue α) : Queue α := { q with items := [], dropped := true }

/-- The queue after its consumer has taken all that was in it. -/
def drain (q : Queue α) : Queue α := { q with items := [] }

/-- Sending leaves it open whether the consumer has left. -/
@[simp] theorem dropped_push (a : α) (q : Queue α) : (q.push a).dropped = q.dropped := by
  unfold push
  split <;> rfl

/-- Sending leaves it open whether the sender has left. -/
@[simp] theorem closed_push (a : α) (q : Queue α) : (q.push a).closed = q.closed := by
  unfold push
  split <;> rfl

/-- An item that is sent is the latest, unless it is lost. -/
theorem items_push (a : α) (q : Queue α) :
    (q.push a).items = if q.dropped || q.closed then q.items else q.items ++ [a] := by
  unfold push
  split <;> rfl

/-- Sending items one after another leaves it open whether the consumer has left. -/
@[simp] theorem dropped_pushes (as : List α) (q : Queue α) :
    (as.foldl (fun q a => q.push a) q).dropped = q.dropped := by
  induction as generalizing q with
  | nil => rfl
  | cons a as ih => exact (ih (q.push a)).trans (dropped_push a q)

/-- **A queue holds what was sent** if its sender has not left it and these are its items, or its consumer has
left it. -/
structure Holds (q : Queue α) (sent : List α) : Prop where
  /-- The sender is there. -/
  closed_eq : q.closed = false
  /-- Nothing is kept of what was sent, or all. -/
  items_eq : q.items = if q.dropped then [] else sent

/-- A new queue holds nothing. -/
theorem holds_new : ({} : Queue α).Holds [] := ⟨rfl, rfl⟩

/-- A queue holds all that was sent as long as it has its consumer. -/
theorem Holds.items_of_not_dropped {q : Queue α} {sent : List α} (h : q.Holds sent) (hd : q.dropped = false) :
    q.items = sent := by
  rw [h.items_eq, hd, if_neg Bool.false_ne_true]

/-- A queue holds what is sent to it after what it held. -/
theorem Holds.push {q : Queue α} {sent : List α} (h : q.Holds sent) (a : α) :
    (q.push a).Holds (sent ++ [a]) := by
  refine ⟨(closed_push a q).trans h.closed_eq, ?_⟩
  rw [items_push, dropped_push, h.closed_eq, h.items_eq, Bool.or_false]
  cases q.dropped <;> rfl

/-- A queue that holds what was sent goes on doing so without its consumer. -/
theorem Holds.drop {q : Queue α} {sent : List α} (h : q.Holds sent) : q.drop.Holds sent :=
  ⟨h.closed_eq, rfl⟩

/-- Items that are sent to a queue one after another are held in their order. -/
theorem Holds.pushes {q : Queue α} {sent : List α} (h : q.Holds sent) (as : List α) :
    (as.foldl (fun q a => q.push a) q).Holds (sent ++ as) := by
  induction as generalizing q sent with
  | nil => rwa [List.append_nil]
  | cons a as ih =>
    have hi := ih (h.push a)
    rwa [List.append_assoc, List.singleton_append] at hi

end Queue

end NetworkAgent
