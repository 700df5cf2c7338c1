import NetworkAgent.Proofs.Commit.Moves
import NetworkAgent.Proofs.Stream.Delivery
import NetworkAgent.Simulation.Task

/-! # The feed of the configuration does not depend on the schedule

A pump sends the notifications of the configuration to a queue, and a tracker takes them from there. While the tracker
reads the configuration the pump goes on, and what it sends meanwhile waits. In whichever order the two take their
steps, the application gets what a tracker alone makes of the notifications in the order in which they were yielded.

* **`Tracker.Alone`** — a tracker that handles one notification after another, each to its end, with the results that
  it gets.
* **`ConfigFlow`** — a pump and a tracker with the queue between them; `ConfigFlow.Step` is a step of either, and by
  `tasks_of_step` one of the tasks that a session sets off for its configuration.
* **`Tracker.Follows`** — the invariant of the tracker: it has done what a tracker alone does with what it has taken, as
  far as it has come with the last.
* **`ConfigFlow.feed_of_reachable`** — what the application has got once the queue is empty and nothing is being read. -/

namespace NetworkAgent

open Message

namespace Tracker

/-! ## A tracker alone -/

/-- **A tracker alone**, with what it has done. -/
structure Alone where
  /-- The tracker. -/
  tracker : Tracker
  /-- The results that are left of reading the configuration. -/
  readings : List Reading
  /-- What the tracker has done, in order. -/
  outputs : List Output := []

namespace Alone

/-- The result of reading the configuration next; there is none once the results are used up. -/
def next (k : Alone) : Reading := k.readings.headD (.ok none)

/-- The tracker handles a notification to its end, which takes a result if it reads the configuration. -/
def handle (k : Alone) (n : ConfigNotification) : Alone where
  tracker := (k.tracker.handle n k.next).1
  readings := if (k.tracker.step (.received (some n))).1.wait = .answer then k.readings.tail else k.readings
  outputs := k.outputs ++ (k.tracker.handle n k.next).2

/-- The tracker handles one notification after another. -/
def run (k : Alone) (ns : List ConfigNotification) : Alone := ns.foldl handle k

/-- The last notification is handled after those before it. -/
theorem run_concat (k : Alone) (ns : List ConfigNotification) (n : ConfigNotification) :
    k.run (ns ++ [n]) = (k.run ns).handle n := List.foldl_concat handle k n ns

/-- A notification that takes a single step. -/
theorem handle_of_wait_ne {k : Alone} {n : ConfigNotification}
    (h : (k.tracker.step (.received (some n))).1.wait ≠ .answer) :
    k.handle n = ⟨(k.tracker.step (.received (some n))).1, k.readings,
      k.outputs ++ (k.tracker.step (.received (some n))).2⟩ := by
  rw [handle, if_neg h, Tracker.handle]
  simp only [if_neg h]

/-- A notification after which the configuration is read. -/
theorem handle_of_wait_eq {k : Alone} {n : ConfigNotification}
    (h : (k.tracker.step (.received (some n))).1.wait = .answer) :
    k.handle n
      = ⟨((k.tracker.step (.received (some n))).1.step (.answered k.next.answer)).1, k.readings.tail,
          k.outputs ++ ((k.tracker.step (.received (some n))).2 ++
            ((k.tracker.step (.received (some n))).1.step (.answered k.next.answer)).2)⟩ := by
  rw [handle, if_pos h, Tracker.handle]
  simp only [if_pos h]

/-- What never comes of a notification, whatever is read, does not come of any number of them. -/
theorem filterMap_run {β : Type} {kind : Output → Option β} {k : Alone}
    (h : ∀ n reading, (k.tracker.handle n reading).1 = k.tracker ∧
      (k.tracker.handle n reading).2.filterMap kind = []) (ns : List ConfigNotification) :
    (k.run ns).outputs.filterMap kind = k.outputs.filterMap kind := by
  induction ns generalizing k with
  | nil => rfl
  | cons n ns ih =>
      obtain ⟨hready, hnone⟩ := h n k.next
      have hnext : (k.handle n).tracker = k.tracker := hready
      rw [run, List.foldl_cons, ← run, ih (by rwa [hnext]), handle, List.filterMap_append, hnone, List.append_nil]

/-- An aggregating tracker hands over no change. -/
theorem deltas_run_aggregate (appRoot : String) (readings : List Reading) (ns : List ConfigNotification) :
    (run ⟨new .aggregate appRoot, readings, []⟩ ns).outputs.filterMap Output.delta? = [] := by
  refine filterMap_run (fun n reading => ?_) ns
  rw [handle_aggregate]
  refine ⟨rfl, ?_⟩
  by_cases hc : IsCommit n
  · rw [if_pos hc, deltas_report]
  · rw [if_neg hc, List.filterMap_nil]

/-- A streaming tracker hands over no snapshot. -/
theorem snapshots_run_streaming (appRoot : String) (readings : List Reading) (ns : List ConfigNotification) :
    (run ⟨new .streaming appRoot, readings, []⟩ ns).outputs.filterMap Output.snapshot? = [] :=
  filterMap_run (fun _ _ => ⟨rfl, rfl⟩) ns

end Alone

/-! ## What a tracker does among its surroundings -/

/-- The replies to a tracker, which reads the configuration and calls for nothing else. -/
def answers (readings : List Reading) : Script := [(.getConfig, readings.map fun r => { answer := some r.answer })]

/-- The next reply brings the next result. -/
theorem take_answers (k : Alone) :
    (answers k.readings).take .getConfig = ({ answer := some k.next.answer }, answers k.readings.tail) := by
  obtain ⟨t, readings, outputs⟩ := k
  cases readings <;> rfl

/-- **A tracker among its surroundings follows a tracker alone** through the notifications that it has taken. -/
inductive Follows (start : Alone) : List ConfigNotification → Course Tracker Output → Prop where
  /-- It has handled them to the end. -/
  | ready {taken : List ConfigNotification} {c : Course Tracker Output} (hstate : c.state = (start.run taken).tracker)
      (hwait : c.state.wait ≠ .answer) (houtputs : c.outputs = (start.run taken).outputs)
      (hscript : c.services.script = answers (start.run taken).readings) : Follows start taken c
  /-- It is reading the configuration after the last of them, and gets the next result if it gets any. -/
  | reading {taken : List ConfigNotification} {n : ConfigNotification} {c : Course Tracker Output}
      (hstate : c.state = ((start.run taken).tracker.step (.received (some n))).1) (hwait : c.state.wait = .answer)
      (houtputs : c.outputs
        = (start.run taken).outputs ++ ((start.run taken).tracker.step (.received (some n))).2)
      (hscript : c.services.script = answers (start.run taken).readings.tail)
      (hanswer : c.services.answer? = some (start.run taken).next.answer) : Follows start (taken ++ [n]) c

/-- The queue is of no concern to what a tracker has done. -/
theorem Follows.of_inbox {start : Alone} {taken : List ConfigNotification} {c : Course Tracker Output}
    (h : Follows start taken c) (q : Queue ConfigNotification) : Follows start taken { c with inbox := q } := by
  cases h with
  | ready hstate hwait houtputs hscript => exact .ready hstate hwait houtputs hscript
  | reading hstate hwait houtputs hscript hanswer => exact .reading hstate hwait houtputs hscript hanswer

/-- The end of a call leaves the replies that are left. -/
theorem script_conclude (s : Services) (a : Answer) : (s.conclude a).script = s.script := by
  unfold Services.conclude
  split <;> rfl

/-- What a tracker has done grows by what it does with an event. -/
theorem outputs_take (c : Course Tracker Output) (t : Nat) (e : Event) :
    (c.take activity t e).outputs = c.outputs ++ (c.state.step e).2 :=
  Course.outputs_record activity t e _ _ c

/-- The services after a tracker has taken an event: the calls are made that it makes then. -/
theorem services_take (c : Course Tracker Output) (t : Nat) (e : Event) :
    (c.take activity t e).services
      = ((c.state.step e).2.filterMap Output.request?).foldl Services.call (c.services.settle e) := rfl

/-- A tracker goes on following when it takes a notification. -/
theorem Follows.received {start : Alone} {taken : List ConfigNotification} {c : Course Tracker Output} {t : Nat}
    {n : ConfigNotification} (h : Follows start taken c) (he : c.Offers activity t (.received (some n))) :
    Follows start (taken ++ [n]) (c.take activity t (.received (some n))) := by
  have hinput : c.state.wait = .input := by
    cases he with
    | received hc hw hn => exact hw
  cases h with
  | reading _ hwait _ _ _ => cases hinput.symm.trans hwait
  | ready hstate hwait houtputs hscript =>
      have hout := outputs_take c t (.received (some n))
      have hservices := services_take c t (.received (some n))
      rw [houtputs, hstate] at hout
      rcases calls_of_received (move_of_offers he) with ⟨hanswer, appRoot, hcall⟩ | ⟨hready, hcall⟩
      · -- the call takes the reply that brings the next result
        rw [hcall] at hservices
        refine .reading (congrArg (fun s : Tracker => (s.step (.received (some n))).1) hstate) hanswer hout ?_ ?_
        · rw [hservices]
          show (c.services.script.take .getConfig).2 = _
          rw [hscript, take_answers]
        · rw [hservices]
          show (c.services.script.take .getConfig).1.answer = _
          rw [hscript, take_answers]
      · rw [hcall] at hservices
        have hhandle := Alone.handle_of_wait_ne (k := start.run taken) (n := n) (hstate ▸ hready)
        refine .ready ?_ hready ?_ ?_
        · rw [Alone.run_concat, hhandle, ← hstate]
          rfl
        · rw [Alone.run_concat, hhandle, hout]
        · rw [Alone.run_concat, hhandle, hservices]
          exact hscript

/-- A tracker goes on following when it gets its answer. -/
theorem Follows.answered {start : Alone} {taken : List ConfigNotification} {c : Course Tracker Output} {t : Nat}
    {a : Answer} (h : Follows start taken c) (he : c.Offers activity t (.answered a)) :
    Follows start taken (c.take activity t (.answered a)) := by
  have hoffer : c.state.wait = .answer ∧ c.services.answer? = some a := by
    cases he with
    | answered hc hw ha => exact ⟨hw, ha⟩
  cases h with
  | ready hstate hwait houtputs hscript => exact absurd hoffer.1 hwait
  | @reading taken n c hstate hwait houtputs hscript hanswer =>
      -- the answer brings the result with which the tracker alone goes on
      obtain rfl : a = (start.run taken).next.answer := Option.some.inj (hoffer.2.symm.trans hanswer)
      obtain ⟨hready, hcall⟩ := calls_of_answered (move_of_offers he)
      have hhandle := Alone.handle_of_wait_eq (k := start.run taken) (n := n) (hstate ▸ hwait)
      refine .ready ?_ hready ?_ ?_
      · rw [Alone.run_concat, hhandle, ← hstate]
        rfl
      · rw [Alone.run_concat, hhandle, outputs_take, houtputs, hstate, List.append_assoc]
      · rw [Alone.run_concat, hhandle, services_take, hcall]
        exact (script_conclude c.services _).trans hscript

/-- A tracker that is ready has done what the tracker alone has. -/
theorem Follows.outputs_eq {start : Alone} {taken : List ConfigNotification} {c : Course Tracker Output}
    (h : Follows start taken c) (hc : c.state.phase = .waiting) : c.outputs = (start.run taken).outputs := by
  cases h with
  | ready hstate hwait houtputs hscript => exact houtputs
  | reading hstate hwait houtputs hscript hanswer =>
      rw [wait, hc] at hwait
      cases hwait

end Tracker

/-! ## A pump and a tracker -/

/-- **A pump of the configuration and a tracker**, with the queue between them, which is the tracker's input. -/
structure ConfigFlow where
  /-- The pump. -/
  pump : Course Pump (Pump.Output ConfigNotification)
  /-- The tracker. -/
  tracker : Course Tracker Tracker.Output

namespace ConfigFlow

/-- A pump that has no handle yet and a tracker that has not taken anything, their calls being answered by a script
and by results of reading the configuration. -/
def start (mode : CommitMode) (appRoot : String) (script : Script) (readings : List Tracker.Reading) :
    ConfigFlow :=
  ⟨Course.start .new script, Course.start (.new mode appRoot) (Tracker.answers readings)⟩

/-- The flow after its pump has taken an event: what the pump delivers is sent to the tracker. -/
def pumped (delay t : Nat) (e : Event) (f : ConfigFlow) : ConfigFlow where
  pump := f.pump.take (Pump.activity .config delay) t e
  tracker :=
    { f.tracker with
      inbox := ((f.pump.state.step Selector.config delay f.pump.listened t e).2.filterMap
        Pump.Output.delivered?).foldl (fun q n => q.push n) f.tracker.inbox }

/-- The flow after its tracker has taken an event. -/
def tracked (t : Nat) (e : Event) (f : ConfigFlow) : ConfigFlow :=
  { f with tracker := f.tracker.take Tracker.activity t e }

/-- **What can happen next**: the pump takes the event that it is offered, or, once the pump has a handle, the tracker
does, at any instant that is not in the past. -/
inductive Step (delay : Nat) (f : ConfigFlow) : ConfigFlow → Prop where
  | pump {t : Nat} {e : Event} (hp : f.pump.now ≤ t) (ht : f.tracker.now ≤ t)
      (he : f.pump.Offers (Pump.activity .config delay) t e) : Step delay f (f.pumped delay t e)
  | track {t : Nat} {e : Event} (hs : f.pump.state.started = true) (hp : f.pump.now ≤ t) (ht : f.tracker.now ≤ t)
      (he : f.tracker.Offers Tracker.activity t e) : Step delay f (f.tracked t e)

/-- **What can have happened** after any number of steps. -/
def Reachable (delay : Nat) : ConfigFlow → ConfigFlow → Prop := Relation.ReflTransGen (Step delay)

/-- The notifications of the configuration that the streams have yielded, in order. -/
def payloads (f : ConfigFlow) : List ConfigNotification :=
  f.pump.services.responses.flatMap Selector.config.extractAll

/-- What the application has got: it has taken nothing from its queues yet. -/
def feed (f : ConfigFlow) : Tracker.Feed := f.tracker.outputs.foldl Tracker.Feed.apply { snapshot := none }

variable {delay : Nat} {f g : ConfigFlow}

/-! ## The tasks of a flow -/

/-- The tasks that a session sets off for its configuration: until the pump has a handle there is one, which then
becomes the tracker. -/
def tasks (f : ConfigFlow) : List Task :=
  if f.pump.state.started then [.track f.tracker.state, .pump .tracker f.pump.state]
  else [.feed f.pump.state f.tracker.state]

/-- The notification that an effect hands to the tracker, if it hands it one. -/
def notified? : Effect → Option ConfigNotification
  | .notify n => some n
  | _ => none

/-- The task that an effect sets off, if it sets off one. -/
def spawned? : Effect → Option Task
  | .spawn t => some t
  | _ => none

/-- A pump that has a handle keeps having had one; with the first it does nothing else. -/
theorem started_of_move {listened : Bool} {now : Nat} {p q : Pump} {e : Event}
    {outputs : List (Pump.Output ConfigNotification)} (h : Pump.Move .config delay listened now p e q outputs) :
    (p.started = true → q.started = true) ∧
      (p.started = false → q.started = true → outputs.filterMap Pump.Output.delivered? = []) := by
  cases h with
  | @subscribed b id a =>
      refine ⟨fun _ => rfl, fun hb _ => ?_⟩
      rw [show b = false from hb]
      rfl
  | _ => exact ⟨id, fun hb hq => nomatch hb.symm.trans hq⟩

/-- The effects of a pump of the configuration hand over what it delivers, and set nothing off. -/
theorem filterMap_configEffect (outputs : List (Pump.Output ConfigNotification)) :
    (outputs.map Task.configEffect).filterMap notified? = outputs.filterMap Pump.Output.delivered? ∧
      (outputs.map Task.configEffect).filterMap spawned? = [] := by
  rw [List.filterMap_map, List.filterMap_map]
  constructor
  · refine List.filterMap_congr fun o _ => ?_
    cases o <;> rfl
  · refine List.filterMap_eq_nil_iff.2 fun o _ => ?_
    cases o <;> rfl

/-- The effects of a tracker hand nothing to it, and set nothing off. -/
theorem filterMap_trackerEffect (outputs : List Tracker.Output) :
    (outputs.map Task.trackerEffect).filterMap notified? = [] ∧
      (outputs.map Task.trackerEffect).filterMap spawned? = [] := by
  rw [List.filterMap_map, List.filterMap_map]
  constructor
  · refine List.filterMap_eq_nil_iff.2 fun o _ => ?_
    cases o <;> rfl
  · refine List.filterMap_eq_nil_iff.2 fun o _ => ?_
    cases o <;> rfl

/-- A pump takes nothing from the queue of the tracker. -/
theorem settleInbox_of_offers {t : Nat} {e : Event} (he : f.pump.Offers (Pump.activity .config delay) t e) :
    f.tracker.settleInbox e = f.tracker.inbox := by
  cases he with
  | received hc hw hn => exact absurd hw (Pump.wait_ne_input _)
  | _ => rfl

/-- The task that obtains the first handle becomes the tracker once it has it, and sets the pump off. -/
theorem step_feed_started {env : Surroundings} {p : Pump} {t : Tracker} {e : Event}
    (h : (p.step Selector.config env.delay env.listened env.now e).1.started = true) :
    (Task.feed p t).step env e
      = (.track t, [.spawn (.pump .tracker (p.step Selector.config env.delay env.listened env.now e).1)]) :=
  if_pos h

/-- Until then it does what the pump does. -/
theorem step_feed_waiting {env : Surroundings} {p : Pump} {t : Tracker} {e : Event}
    (h : (p.step Selector.config env.delay env.listened env.now e).1.started = false) :
    (Task.feed p t).step env e
      = (.feed (p.step Selector.config env.delay env.listened env.now e).1 t,
          (p.step Selector.config env.delay env.listened env.now e).2.map Task.configEffect) :=
  if_neg (Bool.eq_false_iff.1 h)

/-- **A step of a flow is one of its tasks**: the task takes an event, those that it sets off come after the others,
and what it hands to the tracker is sent. -/
theorem tasks_of_step (h : Step delay f g) :
    ∃ before task after env e, f.tasks = before ++ task :: after ∧
      g.tasks = before ++ (task.step env e).1 :: (after ++ (task.step env e).2.filterMap spawned?) ∧
      g.tracker.inbox
        = ((task.step env e).2.filterMap notified?).foldl (fun q n => q.push n) (f.tracker.settleInbox e) := by
  cases h with
  | @pump t e hp ht he =>
      have hm := started_of_move (Pump.move_of_offers he)
      obtain ⟨hnotified, hspawned⟩ :=
        filterMap_configEffect (f.pump.state.step Selector.config delay f.pump.listened t e).2
      cases hs : f.pump.state.started with
      | true =>
          have hs' : (f.pumped delay t e).pump.state.started = true := hm.1 hs
          refine ⟨[.track f.tracker.state], .pump .tracker f.pump.state, [], ⟨t, delay, f.pump.listened⟩, e,
            if_pos hs, ?_, ?_⟩
          · rw [tasks, if_pos hs']
            simp only [Task.step, hspawned]
            rfl
          · simp only [Task.step, hnotified, settleInbox_of_offers he]
            rfl
      | false =>
          refine ⟨[], .feed f.pump.state f.tracker.state, [], ⟨t, delay, f.pump.listened⟩, e,
            if_neg (Bool.eq_false_iff.1 hs), ?_⟩
          rw [settleInbox_of_offers he, tasks]
          cases hs' : (f.pump.state.step Selector.config delay f.pump.listened t e).1.started with
          | true =>
              -- with its first handle the task becomes the tracker, and sets the pump off
              rw [if_pos (show (f.pumped delay t e).pump.state.started = true from hs'), step_feed_started hs']
              refine ⟨rfl, ?_⟩
              rw [pumped, show (f.pump.state.step Selector.config delay f.pump.listened t e).2.filterMap
                Pump.Output.delivered? = [] from hm.2 hs hs']
              rfl
          | false =>
              rw [if_neg (show ¬ (f.pumped delay t e).pump.state.started = true from Bool.eq_false_iff.1 hs'),
                step_feed_waiting hs', hnotified, hspawned]
              exact ⟨rfl, rfl⟩
  | @track t e hs hp ht he =>
      obtain ⟨hnotified, hspawned⟩ := filterMap_trackerEffect (f.tracker.state.step e).2
      have hs' : (f.tracked t e).pump.state.started = true := hs
      refine ⟨[], .track f.tracker.state, [.pump .tracker f.pump.state], ⟨t, delay, true⟩, e, if_pos hs, ?_, ?_⟩
      · rw [tasks, if_pos hs']
        simp only [Task.step, hspawned]
        rfl
      · simp only [Task.step, hnotified]
        rfl

/-! ## The invariant -/

/-- **Pump and tracker are in step**: what the pump has delivered is what the tracker has taken and what is in the queue
between them, and the tracker follows a tracker alone. -/
structure InStep (start : Tracker.Alone) (f : ConfigFlow) : Prop where
  /-- The pump has its consumer. -/
  listened : f.pump.listened = true
  /-- The session is not cancelled. -/
  uncancelled : f.tracker.cancelled = false
  /-- The pump has not left the queue. -/
  unclosed : f.tracker.inbox.closed = false
  /-- Nor has the tracker. -/
  undropped : f.tracker.inbox.dropped = false
  /-- What was delivered was taken or is in the queue. -/
  taken : ∃ taken, Pump.delivered f.pump = taken ++ f.tracker.inbox.items ∧ Tracker.Follows start taken f.tracker

/-- Pump and tracker are in step when nothing has happened. -/
theorem inStep_start (mode : CommitMode) (appRoot : String) (script : Script) (readings : List Tracker.Reading) :
    InStep ⟨.new mode appRoot, readings, []⟩ (start mode appRoot script readings) where
  listened := rfl
  uncancelled := rfl
  unclosed := rfl
  undropped := rfl
  taken := ⟨[], rfl, .ready rfl nofun rfl rfl⟩

/-- A step keeps pump and tracker in step. -/
theorem inStep_step {start : Tracker.Alone} (h : InStep start f) (hs : Step delay f g) : InStep start g := by
  obtain ⟨taken, hdelivered, hfollows⟩ := h.taken
  cases hs with
  | @pump t e hp ht he =>
      -- what the pump delivers comes after what is in the queue
      have hholds : f.tracker.inbox.Holds f.tracker.inbox.items := by
        refine ⟨h.unclosed, ?_⟩
        rw [h.undropped, if_neg Bool.false_ne_true]
      have hsent := hholds.pushes ((f.pump.state.step Selector.config delay f.pump.listened t e).2.filterMap
        Pump.Output.delivered?)
      have hundropped : (f.pumped delay t e).tracker.inbox.dropped = false :=
        (Queue.dropped_pushes _ _).trans h.undropped
      refine ⟨h.listened, h.uncancelled, hsent.closed_eq, hundropped, taken, ?_, hfollows.of_inbox _⟩
      have hitems : (f.pumped delay t e).tracker.inbox.items = f.tracker.inbox.items ++
          (f.pump.state.step Selector.config delay f.pump.listened t e).2.filterMap Pump.Output.delivered? :=
        hsent.items_of_not_dropped hundropped
      rw [hitems, ← List.append_assoc, ← hdelivered]
      exact Pump.delivered_record t e _ _ f.pump
  | @track t e hstarted hp ht he =>
      rcases Tracker.event_of_offers h.uncancelled h.unclosed he with ⟨n, ns, hitems, rfl⟩ | ⟨a, rfl⟩
      · refine ⟨h.listened, h.uncancelled, h.unclosed, h.undropped, taken ++ [n], ?_, hfollows.received he⟩
        show Pump.delivered f.pump = taken ++ [n] ++ f.tracker.inbox.items.tail
        rw [hdelivered, hitems, List.tail_cons, List.append_assoc, List.singleton_append]
      · exact ⟨h.listened, h.uncancelled, h.unclosed, h.undropped, taken, hdelivered, hfollows.answered he⟩

section Reachable

variable {mode : CommitMode} {appRoot : String} {script : Script} {readings : List Tracker.Reading}

/-- Pump and tracker are in step, whatever has happened. -/
theorem inStep_of_reachable (h : Reachable delay (start mode appRoot script readings) f) :
    InStep ⟨.new mode appRoot, readings, []⟩ f := by
  induction h with
  | refl => exact inStep_start mode appRoot script readings
  | tail _ hs ih => exact inStep_step ih hs

/-- The pump of a flow goes through a course of its own. -/
theorem reachable_pump (h : Reachable delay (start mode appRoot script readings) f) :
    Course.Reachable (Pump.activity .config delay) (Course.start .new script) f.pump := by
  induction h with
  | refl => exact .refl
  | tail _ hs ih =>
      cases hs with
      | pump hp ht he => exact ih.tail (.event hp he)
      | track hstarted hp ht he => exact ih

end Reachable

/-! ## What the application gets -/

/-- No output of a tracker has the application leave a queue. -/
theorem dropped_applies (outputs : List Tracker.Output) (d : Tracker.Feed) :
    (outputs.foldl Tracker.Feed.apply d).full.dropped = d.full.dropped ∧
      (outputs.foldl Tracker.Feed.apply d).deltas.dropped = d.deltas.dropped := by
  induction outputs generalizing d with
  | nil => exact ⟨rfl, rfl⟩
  | cons o outputs ih =>
      obtain ⟨hfull, hdeltas⟩ := ih (d.apply o)
      rw [List.foldl_cons, hfull, hdeltas]
      cases o with
      | snapshot c => exact ⟨Queue.dropped_push c d.full, rfl⟩
      | delta e => exact ⟨rfl, Queue.dropped_push e d.deltas⟩
      | _ => exact ⟨rfl, rfl⟩

/-- The application has got what the tracker has handed over. -/
theorem items_feed (f : ConfigFlow) :
    f.feed.full.items = f.tracker.outputs.filterMap Tracker.Output.snapshot? ∧
      f.feed.deltas.items = f.tracker.outputs.filterMap Tracker.Output.delta? := by
  have hnew : Tracker.Feed.Shows none [] { snapshot := none } := ⟨rfl, Queue.holds_new, Queue.holds_new⟩
  have hshows : f.feed.Shows none f.tracker.outputs := hnew.applies f.tracker.outputs
  obtain ⟨hfull, hdeltas⟩ := dropped_applies f.tracker.outputs { snapshot := none }
  constructor
  · exact hshows.full.items_of_not_dropped hfull
  · exact hshows.deltas.items_of_not_dropped hdeltas

/-- **The feed of the configuration does not depend on the schedule.** Whatever the daemon answers to the pump, whatever
is read of the configuration, however long each answer and each item takes, and in whichever order pump and tracker
take their steps, as long as the session is not cancelled: once the queue between them is empty and nothing is being
read, the tracker has done what a tracker alone does that handles, in the order in which they were yielded and each to
its end, the notifications of the configuration. So the application has got the snapshots that this one hands over, or
the changes, and nothing in its other queue. -/
theorem feed_of_reachable {mode : CommitMode} {appRoot : String} {script : Script} {readings : List Tracker.Reading}
    (h : Reachable delay (start mode appRoot script readings) f) (hqueue : f.tracker.inbox.items = [])
    (hidle : f.tracker.state.phase = .waiting) :
    let k := Tracker.Alone.run ⟨.new mode appRoot, readings, []⟩ f.payloads
    f.tracker.outputs = k.outputs ∧
      f.feed.full.items = k.outputs.filterMap Tracker.Output.snapshot? ∧
      f.feed.deltas.items = k.outputs.filterMap Tracker.Output.delta? ∧
      (mode = .aggregate → f.feed.deltas.items = []) ∧
      (mode = .streaming → f.feed.full.items = []) := by
  intro k
  have hs := inStep_of_reachable h
  obtain ⟨taken, hdelivered, hfollows⟩ := hs.taken
  -- the pump has delivered what was yielded, and the tracker has taken all of that
  have hyielded : Pump.delivered f.pump = f.payloads :=
    (Pump.inOrder_of_reachable (reachable_pump h)).1.delivered_eq hs.listened
  have htaken : taken = f.payloads := by
    rw [← hyielded, hdelivered, hqueue, List.append_nil]
  have houtputs : f.tracker.outputs = k.outputs := by
    rw [hfollows.outputs_eq hidle, htaken]
  obtain ⟨hfull, hdeltas⟩ := items_feed f
  rw [houtputs] at hfull hdeltas
  refine ⟨houtputs, hfull, hdeltas, ?_, ?_⟩
  · rintro rfl
    rw [hdeltas]
    exact Tracker.Alone.deltas_run_aggregate appRoot readings f.payloads
  · rintro rfl
    rw [hfull]
    exact Tracker.Alone.snapshots_run_streaming appRoot readings f.payloads

/-! ## A slow read -/

/-- Whose turn it is, when, and what happens to it. -/
inductive Turn where
  /-- the pump takes an event -/
  | pump (t : Nat) (e : Event)
  /-- the tracker takes an event -/
  | track (t : Nat) (e : Event)

/-- The flow after a turn. -/
def after (delay : Nat) (f : ConfigFlow) : Turn → ConfigFlow
  | .pump t e => f.pumped delay t e
  | .track t e => f.tracked t e

/-- **Turns suit a flow** if each event is offered when its turn comes. -/
def Suits (delay : Nat) (f : ConfigFlow) : List Turn → Prop
  | [] => True
  | .pump t e :: rest =>
    f.pump.now ≤ t ∧ f.tracker.now ≤ t ∧ f.pump.Offers (Pump.activity .config delay) t e ∧
      Suits delay (f.pumped delay t e) rest
  | .track t e :: rest =>
    f.pump.state.started = true ∧ f.pump.now ≤ t ∧ f.tracker.now ≤ t ∧
      f.tracker.Offers Tracker.activity t e ∧ Suits delay (f.tracked t e) rest

/-- What suitable turns lead to is reachable. -/
theorem reachable_follow {turns : List Turn} (h : f.Suits delay turns) :
    Reachable delay f (turns.foldl (after delay) f) := by
  induction turns generalizing f with
  | nil => exact .refl
  | cons a rest ih =>
      cases a with
      | pump t e =>
          obtain ⟨hp, ht, he, hrest⟩ := h
          exact .head (.pump hp ht he) (ih hrest)
      | track t e =>
          obtain ⟨hs, hp, ht, he, hrest⟩ := h
          exact .head (.track hs hp ht he) (ih hrest)

/-- A notification that closes a commit. -/
def commit : ConfigNotification := { key := some { jsPath := commitEnd } }

/-- A response with a commit. -/
def message : StreamResponse := ⟨0, [⟨1, some (.config commit)⟩]⟩

/-- A script by which a stream yields two commits. -/
def twoCommits : Script :=
  [(.notificationStream,
    [{ answer := some (.response .opened)
       stream := { items := [⟨0, .response message⟩, ⟨1, .response message⟩] } }])]

/-- The second commit comes while the configuration is being read after the first. -/
def slowRead : List Turn :=
  [.pump 0 .turn, .pump 0 (.answered (.response (.stream {}))), .pump 0 (.answered (.response (.stream {}))),
   .pump 0 .turn, .pump 0 (.answered (.response .opened)), .pump 0 (.yielded (.response message)),
   .track 0 (.received (some commit)), .pump 1 (.yielded (.response message)),
   .track 9 (.answered (.response (.config (some "1")))), .track 9 (.received (some commit)),
   .track 9 (.answered (.response (.config (some "2"))))]

/-- A commit that comes while the configuration is being read is neither lost nor merged with the one before. -/
theorem feed_slowRead :
    ∃ f, Reachable 5 (start .aggregate "/greeter" twoCommits [.ok (some "1"), .ok (some "2")]) f ∧
      f.tracker.inbox.items = [] ∧ f.tracker.state.phase = .waiting ∧ f.payloads = [commit, commit] ∧
      f.feed.full.items = [⟨none, some "1"⟩, ⟨none, some "2"⟩] ∧ f.feed.deltas.items = [] := by
  let start := start .aggregate "/greeter" twoCommits [.ok (some "1"), .ok (some "2")]
  have hs : start.Suits 5 slowRead :=
    ⟨Nat.le_refl _, Nat.le_refl _, .turn rfl rfl, Nat.le_refl _, Nat.le_refl _, .answered rfl rfl rfl,
      Nat.le_refl _, Nat.le_refl _, .answered rfl rfl rfl, Nat.le_refl _, Nat.le_refl _, .turn rfl rfl,
      Nat.le_refl _, Nat.le_refl _, .answered rfl rfl rfl, Nat.le_refl _, Nat.le_refl _, .yielded rfl rfl rfl,
      rfl, Nat.le_refl _, Nat.le_refl _, .received rfl rfl rfl, Nat.zero_le _, Nat.zero_le _, .yielded rfl rfl rfl,
      rfl, by decide, Nat.zero_le _, .answered rfl rfl rfl, rfl, by decide, Nat.le_refl _, .received rfl rfl rfl,
      rfl, by decide, Nat.le_refl _, .answered rfl rfl rfl, trivial⟩
  let f := slowRead.foldl (after 5) start
  have hqueue : f.tracker.inbox.items = [] := by decide +kernel
  have hidle : f.tracker.state.phase = .waiting := by decide +kernel
  have hpayloads : f.payloads = [commit, commit] := by decide +kernel
  have hr : Reachable 5 start f := reachable_follow hs
  obtain ⟨-, hfull, -, hdeltas, -⟩ := feed_of_reachable hr hqueue hidle
  refine ⟨f, hr, hqueue, hidle, hpayloads, ?_, hdeltas rfl⟩
  rw [hfull, hpayloads]
  decide +kernel

end ConfigFlow

end NetworkAgent
