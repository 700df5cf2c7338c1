import NetworkAgent.Simulation.World

/-!
# Stations of a channel

What each station does when it has its turn. A call that is given up before its courier has had a first turn goes no
further; later it reaches the service all the same, which only does not answer it.
-/

namespace NetworkAgent

namespace World

/-! ## Calls on their way -/

/-- Changes the call with a number. -/
def modifyPassage (id : Nat) (f : Passage → Passage) (w : World) : World :=
  { w with channel := w.channel.modify id f }

/-- Ends a call for good. -/
def endPassage (id : Nat) (w : World) : World :=
  { w with channel := w.channel.erase id }.clearAlarms (.handler id)

/-- Leaves a call at the outbox; the result names it. -/
def send (caller : Option Nat) (r : Request) (w : World) : World × Nat :=
  let id := w.count
  let channel := w.channel.post { id := id, caller := caller, request := r }
  ({ w with count := id + 1, channel := channel }.enqueue .outbox, id)

/-- Turns away from a call, be it over or not. The near end of the connection is told. -/
def leavePassage (id : Nat) (w : World) : World :=
  match w.channel.passage? id with
  | none => w
  | some p =>
    match p.handling with
    | .unseen | .asked => (w.modifyPassage id fun p => { p with abandoned := true }).enqueue .nearEnd
    | _ => (w.endPassage id).enqueue .nearEnd

/-- Turns a task away from the call that it waits for, or whose stream it reads. -/
def leaveCall (id : Nat) (w : World) : World :=
  match (w.task? id).bind (·.passage) with
  | none => w
  | some passage => (w.modifyTask id fun t => { t with passage := none }).leavePassage passage

/-! ## Outward -/

/-- Each call at the outbox goes to the dispatcher, and its caller is told. -/
def turnOutbox (w : World) : World :=
  w.channel.posted.foldl
    (fun w id =>
      if w.channel.isAwaited id then
        let channel := { w.channel with dispatched := w.channel.dispatched ++ [id] }
        let w := { w with channel := channel }.enqueue .dispatcher
        match (w.channel.passage? id).bind (·.caller) with
        | some task => w.enqueue (.task task)
        | none => w
      else w.endPassage id)
    { w with channel := { w.channel with posted := [] } }

/-- Leaves something at the near end to go out. -/
def putOut (f : Freight) (w : World) : World :=
  { w with channel := { w.channel with leaving := w.channel.leaving ++ [f] } }.enqueue .nearEnd

/-- Each call at the dispatcher is announced, and its porter and its courier set off. -/
def turnDispatcher (w : World) : World :=
  w.channel.dispatched.foldl
    (fun w id =>
      if w.channel.isAwaited id then
        ((w.putOut (.announcement id)).enqueue (.porter id)).enqueue (.courier id)
      else w.endPassage id)
    { w with channel := { w.channel with dispatched := [] } }

/-! ## The connection -/

/-- What has come back for a call: the courier is to take its answer to the caller, who takes the items of a stream
without one. -/
def unpack (w : World) : Parcel → World
  | .answer id a => (w.modifyPassage id fun p => { p with answer := some a }).enqueue (.courier id)
  | .item id i =>
    let w := w.modifyPassage id fun p => { p with items := p.items ++ [i] }
    match ((w.channel.passage? id).bind (·.caller)).bind w.task? with
    | some t => if t.task.wait = .item then w.enqueue (.task t.id) else w
    | none => w

/-- Tells the dispatcher of each announcement that is put through. -/
def confirm (w : World) : Freight → World
  | .announcement _ => w.enqueue .dispatcher
  | .content _ => w

/-- The near end takes what has come back, then puts through what is there to go out. -/
def turnNearEnd (w : World) : World :=
  let w := w.channel.returned.foldl unpack { w with channel := { w.channel with returned := [] } }
  let leaving := w.channel.leaving
  if leaving.isEmpty then w
  else
    (leaving.foldl confirm
      { w with channel := { w.channel with leaving := [], arriving := w.channel.arriving ++ leaving } }).enqueue .farEnd

/-- What is asked by a call has come to the far end. -/
def receive (w : World) : Freight → World
  | .announcement _ => w
  | .content id => (w.modifyPassage id fun p => { p with handling := .asked }).enqueue (.handler id)

/-- Sets off the handler of a call that is announced. -/
def setOff (w : World) : Freight → World
  | .announcement id => w.enqueue (.handler id)
  | .content _ => w

/-- The far end takes what is asked by calls, sends back what is there to go, then sets off the handlers of calls that
are announced. -/
def turnFarEnd (w : World) : World :=
  let arrived := w.channel.arriving
  let w := arrived.foldl receive { w with channel := { w.channel with arriving := [] } }
  let w :=
    if w.channel.returning.isEmpty then w
    else
      { w with
        channel :=
          { w.channel with returning := [], returned := w.channel.returned ++ w.channel.returning } }.enqueue .nearEnd
  arrived.foldl setOff w

/-! ## Services -/

/-- Leaves something at the far end to go back. -/
def sendBack (p : Parcel) (w : World) : World :=
  { w with channel := { w.channel with returning := w.channel.returning ++ [p] } }.enqueue .farEnd

/-- Sets down how far the service has got with a call. -/
def setHandling (id : Nat) (h : Handling) (w : World) : World :=
  w.modifyPassage id fun p => { p with handling := h }

/-- Yields the items of a stream as far as they come without delay. A stream ends with its first failure. Unless it has
ended, its handler looks once more whether there is anything to yield. -/
def yieldItems (id : Nat) (ends : Bool) : List ScriptedItem → World → World
  | [], w => (if ends then w.sendBack (.item id .ended) else w.enqueue (.handler id)).setHandling id .finished
  | i :: rest, w =>
    if i.delay = 0 then
      match i.item with
      | .response _ => yieldItems id ends rest (w.sendBack (.item id i.item))
      | _ => (w.sendBack (.item id i.item)).setHandling id .finished
    else
      ((w.setHandling id (.yielding i.item ⟨rest, ends⟩)).setAlarm (w.now + i.delay) (.handler id)).enqueue
        (.handler id)

/-- Answers a call, and begins with the stream that it has opened, if it has. -/
def respond (id : Nat) (a : Answer) (s : ScriptedStream) (w : World) : World :=
  let w := w.sendBack (.answer id a)
  if a = .response .opened then w.yieldItems id s.ends s.items else w.setHandling id .finished

/-- Makes a call that has arrived. -/
def handle (p : Passage) (w : World) : World :=
  let (w, d) := w.call p.request
  if p.abandoned then w.endPassage p.id
  else
    match d.content with
    | none => w.setHandling p.id .silent
    | some a =>
      if d.delay = 0 then w.respond p.id a d.stream
      else (w.setHandling p.id (.answering a d.stream)).setAlarm (w.now + d.delay) (.handler p.id)

/-- The handler of a call goes on with it, unless its alarm is still to go off. -/
def turnHandler (id : Nat) (w : World) : World :=
  match w.channel.passage? id with
  | none => w
  | some p =>
    match p.handling with
    | .unseen | .finished | .silent => w
    | .asked => w.handle p
    | .answering a s => if w.hasAlarm (.handler id) then w else w.respond id a s
    | .yielding i s => if w.hasAlarm (.handler id) then w else w.yieldItems id s.ends (⟨0, i⟩ :: s.items)

/-- The courier of a call takes its answer to the caller, and stops a call that was given up before. -/
def turnCourier (id : Nat) (w : World) : World :=
  match w.channel.passage? id with
  | none => w
  | some p =>
    match p.answer, p.caller with
    | none, _ => if p.abandoned then w.endPassage id else w
    | some a, none => w.modifyPassage id fun p => { p with answer := none, delivered := some a }
    | some a, some task =>
      let w := w.modifyPassage id fun p => { p with answer := none }
      (w.modifyTask task fun t => { t with pending := .arrived (.answered a) }).enqueue (.task task)

end World

end NetworkAgent
