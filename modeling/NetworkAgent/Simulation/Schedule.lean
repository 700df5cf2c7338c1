import NetworkAgent.Simulation.Station

/-!
# The schedule of a world

Who goes on next, which the activities themselves leave open.

* The clock moves only when everybody waits. It then goes to the earliest **alarm**; the alarms of one instant go off
  in the order in which they were set.
* Those who can go on have their **turns** in the order in which they became able to. A task goes on until it has to
  wait. A direct call that is answered without delay does not make it wait, but a task that has waited for things that
  were there already for as long as its **patience** allows gives way.
* Turns come in **rounds** of a limited length. Between two rounds an operation takes the answer that has come to it,
  and those who gave way are put after all others.

Every function that runs tasks takes an allowance of steps. Each step uses up a reply, an item or a notification,
or starts an attempt, or passes time, so that `World.allowance` is enough.
-/

namespace NetworkAgent

open Message

namespace World

/-! ## Effects -/

/-- Makes a call for a task: one over a channel sets out, and a direct one has a reply on its way. -/
def callFor (id : Nat) (r : Request) (w : World) : World × Option (Delivery Event) :=
  if w.overChannel then
    let (w, passage) := (w.leaveCall id).send (some id) r
    (w.modifyTask id fun t => { t with passage := some passage }, none)
  else
    let (w, d) := w.call r
    (w.modifyTask id fun t => { t with stream := d.stream }, some (d.map .answered))

/-- Lets an effect of a task happen; a direct call leaves a reply on its way. -/
def perform (id : Nat) (w : World × Option (Delivery Event)) (e : Effect) : World × Option (Delivery Event) :=
  let (w, reply) := w
  match e with
  | .call r => w.callFor id r
  | .attempt => let (w, d) := w.attempt; (w, some (d.map .tried))
  | .started id => (w.note (.started id), reply)
  | .notify n => ({ w with inbox := w.inbox.push n }.wakeReaders, reply)
  | .publish id p => (w.modifyTopic id (·.push p), reply)
  | .store json => ({ w with session := { w.session with snapshot := json } }, reply)
  | .snapshot c => ({ w with full := w.full.push c }, reply)
  | .delta d => ({ w with deltas := w.deltas.push d }, reply)
  | .spawn t => (w.spawn t, reply)

/-! ## Waiting -/

/-- What a task's wait comes to at once. -/
inductive Prospect where
  /-- The event is there, and the task goes on with it. -/
  | now (e : Event)
  /-- The event comes at an instant. -/
  | later (due : Nat) (e : Event)
  /-- There is no event yet. -/
  | open
  /-- The task has finished. -/
  | ended

/-- An event that comes after a delay. -/
def Prospect.after (now delay : Nat) (e : Event) : Prospect :=
  if delay = 0 then .now e else .later (now + delay) e

/-- The prospect of an answer. -/
def answerProspect (w : World) : Option (Delivery Event) → Prospect
  | none => .open
  | some d =>
    match d.content with
    | none => .open
    | some e => .after w.now d.delay e

/-- The prospect of the next item of a stream that a direct call opened, which is taken from it. -/
def itemProspect (now : Nat) (s : ScriptedStream) : Prospect × ScriptedStream :=
  match s.items with
  | i :: rest => (.after now i.delay (.yielded i.item), { s with items := rest })
  | [] => (if s.ends then .now (.yielded .ended) else .open, s)

/-- The prospect of the next item of a stream that a call over a channel opened, which is taken from it. -/
def arrivalProspect (w : World) (passage : Nat) : Prospect × World :=
  match (w.channel.passage? passage).map (·.items) with
  | some (i :: rest) => (.now (.yielded i), w.modifyPassage passage fun p => { p with items := rest })
  | _ => (.open, w)

/-- The prospect of the next notification for the tracker, which is taken from its queue. -/
def inputProspect (w : World) : Prospect × World :=
  match w.inbox.items with
  | n :: rest => (.now (.received (some n)), { w with inbox := { w.inbox with items := rest } })
  | [] => (if w.inbox.closed then .now (.received none) else .open, w)

/-- What the wait of a task comes to. -/
def prospect (w : World) (t : Running) (reply : Option (Delivery Event)) : Prospect × World :=
  match t.task.wait with
  | .turn => (.now .turn, w)
  | .answer => (w.answerProspect reply, w)
  | .until due => (if due ≤ w.now then .now .elapsed else .later due .elapsed, w)
  | .item =>
    match t.passage with
    | some passage => w.arrivalProspect passage
    | none =>
      let (p, s) := itemProspect w.now t.stream
      (p, w.modifyTask t.id fun t => { t with stream := s })
  | .input => w.inputProspect
  | .ended => (.ended, w)

/-- Whether a task has to be told that the session is cancelled. -/
def mustCancel (w : World) (t : Task) : Bool :=
  w.session.cancelled && t.watchesCancellation && t.wait != .ended

/-! ## Running -/

/-- For how many events that a task has to look for it may go on in one turn. -/
def patience : Nat := 128

/-- Whether a task has to look for an event, rather than be given it. -/
def isSought : Event → Bool
  | .elapsed | .received _ => true
  | _ => false

/-- What is left of the patience of a task that goes on with an event. -/
def spend (left : Nat) (e : Event) : Nat := if isSought e then left - 1 else left

/-- Whether a task without patience gives way before it begins a wait. -/
def givesWay : Wait → Bool
  | .answer | .ended => false
  | _ => true

/-- Settles what a task waits for, `reply` being the one that is on its way to it: the event that it goes on with
at once, if there is one. -/
def await (id : Nat) (reply : Option (Delivery Event)) (w : World) : World × Option Event :=
  match w.task? id with
  | none => (w, none)
  | some t =>
    if w.mustCancel t.task then (w, some .cancelled)
    else
      match w.prospect t reply with
      | (.now e, w) => (w, some e)
      | (.later due e, w) =>
        ((w.modifyTask id fun t => { t with pending := .alarm e }).setAlarm due (.task id), none)
      | (.open, w) => (w, none)
      | (.ended, w) =>
        let w := (w.leaveCall id).modifyTask id fun t => { t with finished := some w.now }
        (w.release t.task, none)

/-- Whether an event turns its task away from its call: it is answered without opening a stream, or given up. -/
def endsCall : Event → Bool
  | .answered a => a != .response .opened
  | .cancelled => true
  | _ => false

/-- Lets a task take an event. -/
def takeEvent (id : Nat) (t : Running) (e : Event) (w : World) : World × Option (Delivery Event) :=
  let w := if endsCall e then w.leaveCall id else w
  let (task, effects) := t.task.step (w.surroundings t.task) e
  let w := (w.clearAlarms (.task id)).modifyTask id fun t => { t with task := task, pending := .idle }
  effects.foldl (perform id) (w, none)

/-- Lets a task go on with an event until it has to wait, or gives way with no patience left. -/
def drive : Nat → Nat → Nat → Event → World → World
  | 0, _, _, _, w => w
  | n + 1, left, id, e, w =>
    match w.task? id with
    | none => w
    | some t =>
      let (w, reply) := w.takeEvent id t e
      if left = 0 ∧ (w.task? id).any fun t => givesWay t.task.wait then
        { w with deferred := w.deferred ++ [.task id] }
      else
        match w.await id reply with
        | (w, some e) => drive n (spend left e) id e w
        | (w, none) => w

/-- How many steps there can be at one instant. -/
def allowance (w : World) : Nat :=
  1024 * (w.script.size + w.attempts.length + w.inbox.items.length + w.tasks.length + w.channel.passages.length + 4)

/-- Lets a task go on with an event, as far as it can. -/
def goOn (left id : Nat) (e : Event) (w : World) : World := drive w.allowance left id e w

/-- Lets a task have its turn: it takes the event that has come, or settles what it waits for. -/
def turnTask (id : Nat) (w : World) : World :=
  match w.task? id with
  | none => w
  | some t =>
    if w.mustCancel t.task then w.goOn patience id .cancelled
    else
      match t.pending, t.finished with
      | .arrived e, _ => w.goOn (patience - 1) id e
      | .idle, none =>
        match w.await id none with
        | (w, some e) => w.goOn (spend patience e) id e
        | (w, none) => w
      | _, _ => w

/-- Lets somebody have a turn. -/
def turn (w : World) : Actor → World
  | .task id => w.turnTask id
  | .outbox => w.turnOutbox
  | .dispatcher => w.turnDispatcher
  | .nearEnd => w.turnNearEnd
  | .farEnd => w.turnFarEnd
  | .porter passage => w.putOut (.content passage)
  | .handler passage => w.turnHandler passage
  | .courier passage => w.turnCourier passage

/-- Lets those who can go on have their turns, so many at most. -/
def turns : Nat → World → World
  | 0, w => w
  | n + 1, w =>
    match w.ready with
    | [] => w
    | a :: rest => turns n ({ w with ready := rest }.turn a)

/-- How many turns there are in a round. -/
def roundLength : Nat := 61

/-- Lets those who can go on have a round of turns, and puts those who gave way after all others. -/
def round (w : World) : World :=
  let w := w.turns roundLength
  w.deferred.foldl (fun w a => w.enqueue a) { w with deferred := [] }

/-- Goes on with rounds of turns until nobody can go on. -/
def settleWithin : Nat → World → World
  | 0, w => w
  | n + 1, w => if w.ready.isEmpty then w else settleWithin n w.round

/-- Goes on with rounds of turns until nobody can go on. -/
def settle (w : World) : World := w.settleWithin w.allowance

/-! ## Time -/

/-- The instant of the earliest alarm. -/
def nextAlarm? (w : World) : Option Nat := (w.alarms.map (·.due)).min?

/-- The event of a task's alarm has come. -/
def ring (t : Running) : Running :=
  match t.pending with
  | .alarm e => { t with pending := .arrived e }
  | _ => t

/-- Lets an alarm go off. -/
def goOff (w : World) (a : Alarm) : World :=
  match a.actor with
  | .task id => (w.modifyTask id ring).enqueue a.actor
  | _ => w.enqueue a.actor

/-- Lets the alarms of the current instant go off. -/
def ringAlarms (w : World) : World :=
  let (due, others) := w.alarms.partition (·.due ≤ w.now)
  due.foldl goOff { w with alarms := others }

/-- Moves the clock to an instant, the alarms of which go off. -/
def jump (due : Nat) (w : World) : World := ringAlarms { w with now := due }

/-- Lets time pass up to an instant, with all that happens before it and, if `inclusive`, at it. -/
def passWithin (inclusive : Bool) (target : Nat) : Nat → World → World
  | 0, w => { w with now := target }
  | n + 1, w =>
    let w := w.settle
    match w.nextAlarm? with
    | some due =>
      if due < target ∨ (inclusive ∧ due = target) then passWithin inclusive target n (w.jump due)
      else { w with now := max w.now target }
    | none => { w with now := max w.now target }

/-- How many alarms there can be until an instant. -/
def alarmAllowance (w : World) (target : Nat) : Nat :=
  (w.tasks.length + 2) * (target - w.now + 2) + w.allowance

/-- Lets time pass up to an instant, with all that happens until then. -/
def pass (target : Nat) (w : World) : World := w.passWithin true target (w.alarmAllowance target)

/-- Cancels the session, and lets every task that watches for it have a turn. -/
def cancel (w : World) : World :=
  let w := { w with session := { w.session with cancelled := true } }
  w.tasks.foldl (fun w t => if w.mustCancel t.task then w.enqueue (.task t.id) else w) w

end World

end NetworkAgent
