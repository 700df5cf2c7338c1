import Mathlib.Logic.Relation
import NetworkAgent.Activity
import NetworkAgent.Simulation.Queue
import NetworkAgent.Simulation.Script

/-! # Courses of an activity

An activity says what it waits for and what it does with an event, and leaves open when things happen.
This file puts one activity among scripted services and follows it through time.

* **`Activity σ ω`** — what an activity shows to its surroundings: its waits, whether it watches the
  cancellation, its steps, and the calls among its outputs.
* **`Services`** — the replies that are left, the call that is under way, and the streams that were opened,
  each with what has been received of it.
* **`Course σ ω`** — an activity among its surroundings, with everything that has happened to it so far.
* **`Course.Step`** — what can happen next: the activity takes the event that it is offered, the session is
  cancelled, the consumer leaves, or the input queue changes. Each may happen at any instant that is not in
  the past, so that replies and items come with any delay, or never.
* **`Course.Reachable`** — what can have happened after any number of steps. `Reachable.invariant` carries a
  property from the start to every reachable course. -/

namespace NetworkAgent

open Message

/-! ## Activities -/

/-- **An activity as its surroundings see it**, with states `σ` and outputs `ω`. -/
structure Activity (σ ω : Type) where
  /-- What a state waits for. -/
  wait : σ → Wait
  /-- Whether a state watches the session's cancellation while it waits. -/
  watchesCancellation : σ → Bool
  /-- Takes an event at an instant, told whether the consumer is still there. -/
  step : (listened : Bool) → (now : Nat) → σ → Event → σ × List ω
  /-- The call that an output makes, if it makes one. -/
  request? : ω → Option Request

/-! ## Streams -/

/-- The response in an item of a stream; a failure and the end have none. -/
def StreamItem.response? : StreamItem → Option StreamResponse
  | .response r => some r
  | .failed _ | .ended => none

/-- The response that an event brings, if it brings one. -/
def Event.response? : Event → Option StreamResponse
  | .yielded i => i.response?
  | _ => none

/-- All that a scripted stream yields: its items, and its end if it ends. -/
def ScriptedStream.contents (s : ScriptedStream) : List StreamItem :=
  s.items.map (·.item) ++ if s.ends then [.ended] else []

/-- A stream that was opened. -/
structure OpenStream where
  /-- All that it yields, if it is asked often enough. -/
  contents : List StreamItem
  /-- How many of its items have been received. -/
  taken : Nat := 0

namespace OpenStream

/-- The items that have been received. -/
def received (s : OpenStream) : List StreamItem := s.contents.take s.taken

/-- The responses that the stream has yielded, in order. -/
def responses (s : OpenStream) : List StreamResponse := s.received.filterMap StreamItem.response?

/-- The item that comes next, if one ever comes. -/
def next? (s : OpenStream) : Option StreamItem := s.contents[s.taken]?

/-- The stream after its next item has been received. -/
def advance (s : OpenStream) : OpenStream := { s with taken := s.taken + 1 }

/-- **A stream is over** once the last that was received of it is a failure or its end. -/
def IsOver (s : OpenStream) : Prop := ∃ i, s.received.getLast? = some i ∧ i.response? = none

/-- Nothing has been received of a stream that was just opened. -/
@[simp] theorem responses_new (contents : List StreamItem) : responses ⟨contents, 0⟩ = [] := rfl

/-- What has been received grows by the next item. -/
theorem received_advance {s : OpenStream} {i : StreamItem} (h : s.next? = some i) :
    s.advance.received = s.received ++ [i] := by
  rw [next?] at h
  rw [received, received, advance, List.take_add_one, h, Option.toList_some]

/-- The responses grow by that of the next item, if it is one. -/
theorem responses_advance {s : OpenStream} {i : StreamItem} (h : s.next? = some i) :
    s.advance.responses = s.responses ++ i.response?.toList := by
  rw [responses, received_advance h, List.filterMap_append, ← responses]
  cases hi : i.response? with
  | none => rw [List.filterMap_cons_none hi, List.filterMap_nil, Option.toList_none]
  | some r => rw [List.filterMap_cons_some hi, List.filterMap_nil, Option.toList_some]

/-- A stream that yields a failure or its end is over. -/
theorem isOver_advance {s : OpenStream} {i : StreamItem} (h : s.next? = some i)
    (hi : i.response? = none) : s.advance.IsOver :=
  ⟨i, by rw [received_advance h, List.getLast?_concat], hi⟩

end OpenStream

/-! ## Services -/

/-- The services of an activity. -/
structure Services where
  /-- The replies that are left. -/
  script : Script
  /-- The call that is under way, with the reply that it gets. -/
  pending : Option (Request × ScriptedReply) := none
  /-- The streams that have made way for a later one, in the order in which they were opened. -/
  left : List OpenStream := []
  /-- The stream that was opened last. -/
  current : Option OpenStream := none

namespace Services

/-- All streams that were opened, in order. -/
def streams (s : Services) : List OpenStream := s.left ++ s.current.toList

/-- All responses that streams have yielded, in order. -/
def responses (s : Services) : List StreamResponse := s.streams.flatMap (·.responses)

/-- Receives a call, which takes the next reply to calls of its kind. -/
def call (s : Services) (r : Request) : Services :=
  { s with script := (s.script.take r.rpc).2, pending := some (r, (s.script.take r.rpc).1) }

/-- The answer to the call that is under way, if one ever comes. -/
def answer? (s : Services) : Option Answer := s.pending.bind (·.2.answer)

/-- The item that the stream opened last yields next, if one ever comes. -/
def next? (s : Services) : Option StreamItem := s.current.bind (·.next?)

/-- Ends the call that is under way. A response to a call for a stream opens one. -/
def conclude (s : Services) (a : Answer) : Services :=
  match s.pending, a with
  | some (.notificationStream _, reply), .response _ =>
    { s with pending := none, left := s.streams, current := some ⟨reply.stream.contents, 0⟩ }
  | _, _ => { s with pending := none }

/-- Notes that the next item of the current stream has been received. -/
def advance (s : Services) : Services := { s with current := s.current.map OpenStream.advance }

/-- The services after an activity has taken an event. -/
def settle (s : Services) : Event → Services
  | .answered a => s.conclude a
  | .yielded _ => s.advance
  | _ => s

/-- Calls leave the earlier streams alone. -/
@[simp] theorem left_calls (s : Services) (rs : List Request) : (rs.foldl call s).left = s.left := by
  induction rs generalizing s with
  | nil => rfl
  | cons r rs ih => exact ih (s.call r)

/-- Calls leave the current stream alone. -/
@[simp] theorem current_calls (s : Services) (rs : List Request) :
    (rs.foldl call s).current = s.current := by
  induction rs generalizing s with
  | nil => rfl
  | cons r rs ih => exact ih (s.call r)

/-- Calls leave the responses alone. -/
@[simp] theorem responses_calls (s : Services) (rs : List Request) :
    (rs.foldl call s).responses = s.responses := by
  rw [responses, responses, streams, streams, left_calls, current_calls]

/-- A response to a call for a stream opens the stream of its reply. -/
theorem conclude_opened {s : Services} {id : UInt64} {reply : ScriptedReply}
    (h : s.pending = some (.notificationStream id, reply)) (r : Response) :
    s.conclude (.response r)
      = { s with pending := none, left := s.streams, current := some ⟨reply.stream.contents, 0⟩ } := by
  simp only [conclude, h]

/-- A failed call opens nothing. -/
theorem conclude_failed (s : Services) (f : Status) :
    s.conclude (.failed f) = { s with pending := none } := by
  unfold conclude
  split
  · rename_i ha
    cases ha
  · rfl

/-- The answer to a call for anything else opens nothing. -/
theorem conclude_other {s : Services} {r : Request} {reply : ScriptedReply}
    (h : s.pending = some (r, reply)) (hr : r.rpc ≠ .notificationStream) (a : Answer) :
    s.conclude a = { s with pending := none } := by
  unfold conclude
  split
  · rename_i hp
    rw [h] at hp
    cases hp
    exact absurd rfl hr
  · rfl

/-- The end of a call leaves the responses alone: a stream that is opened has yielded nothing. -/
theorem responses_conclude (s : Services) (a : Answer) : (s.conclude a).responses = s.responses := by
  unfold conclude
  split
  · rw [responses, responses, streams, Option.toList_some, List.flatMap_append,
      List.flatMap_singleton, OpenStream.responses_new, List.append_nil]
  · rfl

/-- The responses grow by that of the next item, if it is one. -/
theorem responses_advance {s : Services} {i : StreamItem} (h : s.next? = some i) :
    s.advance.responses = s.responses ++ i.response?.toList := by
  obtain ⟨stream, hc, hi⟩ := Option.bind_eq_some_iff.1 h
  rw [responses, responses, streams, streams, advance, hc, Option.map_some, Option.toList_some,
    Option.toList_some, List.flatMap_append, List.flatMap_append, List.flatMap_singleton,
    List.flatMap_singleton, OpenStream.responses_advance hi, List.append_assoc]

end Services

/-! ## Courses -/

/-- Something that an activity has gone through. -/
structure Moment (ω : Type) where
  /-- When it was, in milliseconds. -/
  time : Nat
  /-- The event that the activity took. -/
  event : Event
  /-- What it did then. -/
  outputs : List ω

/-- **An activity among its surroundings**, with its past. -/
structure Course (σ ω : Type) where
  /-- What the activity is doing. -/
  state : σ
  /-- The services that it calls. -/
  services : Services
  /-- The queue that it takes its input from. -/
  inbox : Queue ConfigNotification := {}
  /-- The clock, in milliseconds. -/
  now : Nat := 0
  /-- Whether the session is cancelled. -/
  cancelled : Bool := false
  /-- Whether the activity's consumer is still there. -/
  listened : Bool := true
  /-- What the activity has gone through, in order. -/
  past : List (Moment ω) := []

namespace Course

variable {σ ω : Type} (A : Activity σ ω)

/-- An activity at the start of its course, its services having a script. -/
def start (state : σ) (script : Script) : Course σ ω :=
  { state := state, services := { script := script } }

/-- All that the activity has done, in order. -/
def outputs (c : Course σ ω) : List ω := c.past.flatMap (·.outputs)

/-- Whether an activity is to be told that the session is cancelled. -/
def isTold (c : Course σ ω) : Bool := c.cancelled && A.watchesCancellation c.state

/-- **The events that an activity is offered** at an instant. One that watches the cancellation is told of it
before anything else. -/
inductive Offers (c : Course σ ω) (t : Nat) : Event → Prop where
  | cancelled (hc : c.isTold A = true) (hw : A.wait c.state ≠ .ended) : Offers c t .cancelled
  | turn (hc : c.isTold A = false) (hw : A.wait c.state = .turn) : Offers c t .turn
  | answered {a : Answer} (hc : c.isTold A = false) (hw : A.wait c.state = .answer)
      (ha : c.services.answer? = some a) : Offers c t (.answered a)
  | elapsed {due : Nat} (hc : c.isTold A = false) (hw : A.wait c.state = .until due) (hd : due ≤ t) :
      Offers c t .elapsed
  | yielded {i : StreamItem} (hc : c.isTold A = false) (hw : A.wait c.state = .item)
      (hi : c.services.next? = some i) : Offers c t (.yielded i)
  | received {n : ConfigNotification} {ns : List ConfigNotification} (hc : c.isTold A = false)
      (hw : A.wait c.state = .input) (hn : c.inbox.items = n :: ns) : Offers c t (.received (some n))
  | closed (hc : c.isTold A = false) (hw : A.wait c.state = .input) (hn : c.inbox.items = [])
      (hq : c.inbox.closed = true) : Offers c t (.received none)

variable {A} in
/-- An activity that has ended is offered nothing. -/
theorem not_offers_of_ended {c : Course σ ω} (hw : A.wait c.state = .ended) (t : Nat) (e : Event) :
    ¬ c.Offers A t e := by
  intro h
  cases h with
  | cancelled hc h => exact h hw
  | turn hc h => cases hw.symm.trans h
  | answered hc h ha => cases hw.symm.trans h
  | elapsed hc h hd => cases hw.symm.trans h
  | yielded hc h hi => cases hw.symm.trans h
  | received hc h hn => cases hw.symm.trans h
  | closed hc h hn hq => cases hw.symm.trans h

variable {A} in
/-- An activity that is to be told of the cancellation is offered that, and nothing else. -/
theorem cancelled_of_offers {c : Course σ ω} (hc : c.isTold A = true) {t : Nat} {e : Event} (h : c.Offers A t e) :
    e = .cancelled := by
  cases h with
  | cancelled => rfl
  | turn hc' | answered hc' | elapsed hc' | yielded hc' | received hc' | closed hc' => cases hc.symm.trans hc'

variable {A} in
/-- An activity that is not to be told of it and waits for an answer is offered that, and nothing else. -/
theorem answer_of_offers {c : Course σ ω} (hc : c.isTold A = false) (hw : A.wait c.state = .answer) {t : Nat}
    {e : Event} (h : c.Offers A t e) : ∃ a, e = .answered a ∧ c.services.answer? = some a := by
  cases h with
  | cancelled hc' => cases hc.symm.trans hc'
  | answered hc' hw' ha => exact ⟨_, rfl, ha⟩
  | turn hc' hw' | elapsed hc' hw' | yielded hc' hw' | received hc' hw' | closed hc' hw' => cases hw.symm.trans hw'

/-- The input queue after an event was taken. -/
def settleInbox (c : Course σ ω) : Event → Queue ConfigNotification
  | .received (some _) => { c.inbox with items := c.inbox.items.tail }
  | _ => c.inbox

/-- The course after its activity has come to a state by an event, with outputs whose calls go out. -/
def record (t : Nat) (e : Event) (state : σ) (outputs : List ω) (c : Course σ ω) : Course σ ω :=
  { c with
    state := state
    services := (outputs.filterMap A.request?).foldl Services.call (c.services.settle e)
    inbox := c.settleInbox e
    now := t
    past := c.past ++ [⟨t, e, outputs⟩] }

/-- **The activity takes an event** at an instant. -/
def take (t : Nat) (e : Event) (c : Course σ ω) : Course σ ω :=
  c.record A t e (A.step c.listened t c.state e).1 (A.step c.listened t c.state e).2

/-- What the activity has done grows by what it does with an event. -/
theorem outputs_record (t : Nat) (e : Event) (state : σ) (outputs : List ω) (c : Course σ ω) :
    (c.record A t e state outputs).outputs = c.outputs ++ outputs := by
  rw [Course.outputs, Course.outputs, record, List.flatMap_append, List.flatMap_singleton]

variable {A} in
/-- **The responses grow by that which an event brings**, if it brings one. -/
theorem responses_settle {c : Course σ ω} {t : Nat} {e : Event} (h : c.Offers A t e) :
    (c.services.settle e).responses = c.services.responses ++ e.response?.toList := by
  cases h with
  | answered hc hw ha =>
      rw [Services.settle, Services.responses_conclude]
      exact (List.append_nil _).symm
  | yielded hc hw hi => exact Services.responses_advance hi
  | _ => exact (List.append_nil _).symm

/-- **What can happen next.** -/
inductive Step : Course σ ω → Course σ ω → Prop where
  /-- The activity takes the event that it is offered. -/
  | event {c : Course σ ω} {t : Nat} {e : Event} (ht : c.now ≤ t) (he : c.Offers A t e) :
      Step c (c.take A t e)
  /-- The session is cancelled. -/
  | cancel {c : Course σ ω} {t : Nat} (ht : c.now ≤ t) : Step c { c with now := t, cancelled := true }
  /-- The consumer leaves. -/
  | leave {c : Course σ ω} {t : Nat} (ht : c.now ≤ t) : Step c { c with now := t, listened := false }
  /-- A notification is sent to the input queue. -/
  | send {c : Course σ ω} {t : Nat} (ht : c.now ≤ t) (n : ConfigNotification) :
      Step c { c with now := t, inbox := c.inbox.push n }
  /-- The sender of the input queue leaves. -/
  | close {c : Course σ ω} {t : Nat} (ht : c.now ≤ t) : Step c { c with now := t, inbox := c.inbox.close }

variable {A} in
/-- Nothing takes a cancellation back. -/
theorem Step.cancelled_eq {c d : Course σ ω} (h : Step A c d) (hc : c.cancelled = true) : d.cancelled = true := by
  cases h with
  | cancel ht => rfl
  | event ht | leave ht | send ht | close ht => exact hc

/-- **What can have happened** after any number of steps. -/
def Reachable : Course σ ω → Course σ ω → Prop := Relation.ReflTransGen (Step A)

/-- The course after its activity has taken events, each at its instant. -/
def follow (c : Course σ ω) (schedule : List (Nat × Event)) : Course σ ω :=
  schedule.foldl (fun c m => c.take A m.1 m.2) c

/-- **A schedule suits a course** if each of its events is offered when its turn comes. -/
def Suits (c : Course σ ω) : List (Nat × Event) → Prop
  | [] => True
  | (t, e) :: rest => c.now ≤ t ∧ c.Offers A t e ∧ Suits (c.take A t e) rest

variable {A}

/-- What a suitable schedule leads to is reachable. -/
theorem reachable_follow {c : Course σ ω} {schedule : List (Nat × Event)} (h : c.Suits A schedule) :
    Reachable A c (c.follow A schedule) := by
  induction schedule generalizing c with
  | nil => exact .refl
  | cons m rest ih =>
      obtain ⟨ht, he, hrest⟩ := h
      exact .head (.event ht he) (ih hrest)

/-- Once an activity has ended, it stays as it is and does nothing more. -/
theorem Reachable.of_ended {c d : Course σ ω} (h : Reachable A c d) (hw : A.wait c.state = .ended) :
    d.state = c.state ∧ d.past = c.past := by
  induction h with
  | refl => exact ⟨rfl, rfl⟩
  | tail _ hs ih =>
      obtain ⟨hstate, hpast⟩ := ih
      cases hs with
      | event ht he => exact absurd he (not_offers_of_ended (hstate ▸ hw) _ _)
      | cancel | leave | send | close => exact ⟨hstate, hpast⟩

/-- A property that the start has and that every step keeps holds of every reachable course. -/
theorem Reachable.invariant {P : Course σ ω → Prop} {c d : Course σ ω} (h : Reachable A c d)
    (start : P c) (step : ∀ {c d : Course σ ω}, P c → Step A c d → P d) : P d := by
  induction h with
  | refl => exact start
  | tail _ hs ih => exact step ih hs

end Course

end NetworkAgent
