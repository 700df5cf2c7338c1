import NetworkAgent.Session.Operation
import NetworkAgent.Simulation.Schedule

/-!
# Operations in a world

`World.run` performs an operation of the session: it makes the operation's calls one after another, lets time pass
while it waits for their answers, and sets off the activities that the operation asks for. The operation takes a
direct answer before the tasks whose alarms go off at the same instant, and one that has come over a channel between two
rounds of turns.
-/

namespace NetworkAgent

open Message

namespace World

/-- The task of a job, with the queue that it sends to. -/
def launch (w : World) : Job → World
  | .probe k => w.spawn (.probe k .new)
  | .configFeed =>
    let w := { w with full := {}, deltas := {} }
    w.spawn (.feed .new (.new w.session.commitMode w.session.appRoot))
  | .topicFeed topic =>
    let id := w.count
    let w := { w with count := id + 1, topics := w.topics ++ [(⟨id, topic, {}⟩ : TopicQueue)] }
    w.spawn (.pump (.queue id topic) .new)

/-- Takes over the session as an operation left it, telling the tasks if it was cancelled. -/
def adopt (s : Session) (w : World) : World :=
  if s.cancelled && !w.session.cancelled then { w with session := s }.cancel else { w with session := s }

/-- Goes on until the answer to an operation's call has come. There is none if the service never answers. -/
def awaitAnswer (passage : Nat) : Nat → World → World × Option Answer
  | 0, w => (w, none)
  | n + 1, w =>
    match w.channel.passage? passage with
    | none => (w, none)
    | some p =>
      match p.delivered, p.handling with
      | some a, _ => (w.leavePassage passage, some a)
      | none, .silent => (w, none)
      | none, _ =>
        if w.ready.isEmpty then
          match w.nextAlarm? with
          | some due => awaitAnswer passage n (w.jump due)
          | none => (w, none)
        else awaitAnswer passage n w.round

/-- Makes an operation's call over a channel, and goes on until its answer has come. -/
def exchange (r : Request) (w : World) : World × Option Answer :=
  let (w, passage) := w.send none r
  w.awaitAnswer passage ((w.script.duration + 2) * w.allowance)

/-- Makes an operation's call directly, and lets time pass until its answer comes. -/
def ask (r : Request) (w : World) : World × Option Answer :=
  let (w, d) := w.call r
  if d.delay = 0 ∨ d.content.isNone then (w, d.content)
  else
    let target := w.now + d.delay
    ((w.passWithin false target (w.alarmAllowance target)).ringAlarms, d.content)

/-- Takes an operation to its end, letting time pass while it waits. An operation whose call is never
answered has no result. -/
def operate : Nat → Session × Stage → World → World × Option (Except Error Reply)
  | 0, _, w => (w, none)
  | n + 1, (s, stage), w =>
    let w := w.adopt s
    match stage with
    | .finished result jobs => (jobs.foldl launch w, some result)
    | .waiting r c =>
      match if w.overChannel then w.exchange r else w.ask r with
      | (w, none) => (w, none)
      | (w, some a) => operate n (w.session.resume c a) w

/-- Performs an operation, and lets the tasks go on as far as they can without time passing. -/
def run (op : Operation) (w : World) : World × Option (Except Error Reply) :=
  let (w, result) := operate (w.session.ledger.paths.length + 8) (w.session.begin op) w
  (w.settle, result)

end World

end NetworkAgent
