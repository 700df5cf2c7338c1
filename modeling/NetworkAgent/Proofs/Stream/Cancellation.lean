import NetworkAgent.Proofs.Stream.Delivery

/-! # What a pump does once its session is cancelled

Cancelling a session puts an end to its pumps: none makes a call any more, or delivers anything. It ends at once
unless it is waiting for the answer to the call that puts its topic on a handle, and then it ends with that
answer, however long the answer takes.

* **`Pump.queue`** — the queue that a pump sends to, which is closed when the pump has stopped.
* **`Pump.ClosesAtOnce`** — a pump closes its queue as the next thing that it does, and has nothing to wait for.
* `Pump.quiet_step` — a step of a cancelled course neither calls nor delivers.
* **`Pump.closes_at_once_iff`** — a cancelled pump calls nothing, delivers nothing, and closes its queue at once
  unless it is putting its topic on a handle.
* `Pump.closesAtOnce_of_answer` — there it waits for the answer, and closes its queue after that;
  `Pump.subscribing_of_silent` — without an answer it stays there, as it does in `Pump.open_of_mute`. -/

namespace NetworkAgent

open Message

/-- All calls that an activity has made, in order. -/
def Course.requests {σ ω : Type} (A : Activity σ ω) (c : Course σ ω) : List Request :=
  c.outputs.filterMap A.request?

namespace Pump

variable {α : Type} {sel : Selector α} {delay : Nat}

/-! ## The queue of a pump -/

/-- The queue of a consumer that has taken nothing yet. A pump is its only sender, and leaves it when it stops. -/
def queue (c : Course Pump (Output α)) : Queue α :=
  if c.state.phase = .stopped then (sent c).close else sent c

/-- The queue of a pump is closed once the pump has stopped, and not before. -/
theorem closed_queue_iff (c : Course Pump (Output α)) :
    (queue c).closed = true ↔ c.state.phase = .stopped := by
  have hopen : (sent c).closed = false := (Queue.holds_new.pushes (delivered c)).closed_eq
  rw [queue]
  split
  · next h => exact iff_of_true rfl h
  · next h => exact iff_of_false (fun hc => absurd (hopen.symm.trans hc) Bool.false_ne_true) h

/-- **A pump closes its queue at once** if it has closed it, or has something to do at this instant and whatever it
does next closes the queue. -/
def ClosesAtOnce (sel : Selector α) (delay : Nat) (c : Course Pump (Output α)) : Prop :=
  (queue c).closed = true ∨
    (∃ e, c.Offers (activity sel delay) c.now e) ∧
      ∀ t e, c.Offers (activity sel delay) t e → (queue (c.take (activity sel delay) t e)).closed = true

/-! ## What a cancelled pump is offered -/

/-- Only a pump that puts its topic on a handle does not watch the cancellation. -/
theorem watchesCancellation_iff (p : Pump) :
    p.watchesCancellation = true ↔ ∀ id, p.phase ≠ .subscribing id := by
  obtain ⟨phase, b⟩ := p
  cases phase with
  | subscribing id => exact iff_of_false Bool.false_ne_true fun h => h id rfl
  | _ => exact iff_of_true rfl fun _ => nofun

/-- A pump that is putting its topic on a handle is offered the answer, and nothing else. -/
theorem answer_of_offers {c : Course Pump (Output α)} {id : UInt64} (hp : c.state.phase = .subscribing id)
    {t : Nat} {e : Event} (h : c.Offers (activity sel delay) t e) :
    ∃ a, e = .answered a ∧ c.services.answer? = some a := by
  have hwait : (activity sel delay).wait c.state = .answer := by
    change c.state.wait = .answer
    rw [wait, hp]
  have hwatches : c.state.watchesCancellation = false := by rw [watchesCancellation, hp]
  refine Course.answer_of_offers ?_ hwait h
  exact Bool.and_eq_false_iff.2 (Or.inr hwatches)

/-- A pump that watches the cancellation of a cancelled session is offered that, and nothing else. -/
theorem cancelled_of_offers {c : Course Pump (Output α)} (hc : c.cancelled = true)
    (hp : ∀ id, c.state.phase ≠ .subscribing id) {t : Nat} {e : Event}
    (h : c.Offers (activity sel delay) t e) : e = .cancelled :=
  Course.cancelled_of_offers (Bool.and_eq_true_iff.2 ⟨hc, (watchesCancellation_iff c.state).2 hp⟩) h

/-! ## What a cancelled pump does -/

/-- What a pump does that is told of the cancellation: it stops. -/
theorem stop_of_move {listened : Bool} {now : Nat} {p q : Pump} {outputs : List (Output α)}
    (h : Move sel delay listened now p .cancelled q outputs) : q.phase = .stopped ∧ outputs = [] := by
  cases h with
  | stop => exact ⟨rfl, rfl⟩

/-- What a pump does when its topic has been put on a handle, or refused: it goes on to open the stream. -/
theorem subscribed_of_move {listened : Bool} {now : Nat} {p q : Pump} {id : UInt64} {a : Answer}
    {outputs : List (Output α)} (hp : p.phase = .subscribing id)
    (h : Move sel delay listened now p (.answered a) q outputs) :
    q.phase = .opening id .poised ∧ (outputs = [] ∨ outputs = [.started id]) := by
  cases h with
  | @subscribed b =>
      cases hp
      cases b with
      | true => exact ⟨rfl, Or.inl rfl⟩
      | false => exact ⟨rfl, Or.inr rfl⟩
  | _ => cases hp

/-- What a pump does in a cancelled session neither calls nor delivers. -/
theorem silent_of_move {c : Course Pump (Output α)} (hc : c.cancelled = true) {t : Nat} {e : Event}
    {p : Pump} {outputs : List (Output α)} (he : c.Offers (activity sel delay) t e)
    (hm : Move sel delay c.listened t c.state e p outputs) :
    outputs.filterMap Output.request? = [] ∧ outputs.filterMap Output.delivered? = [] := by
  by_cases hp : ∃ id, c.state.phase = .subscribing id
  · obtain ⟨id, hp⟩ := hp
    obtain ⟨a, rfl, -⟩ := answer_of_offers hp he
    obtain ⟨-, rfl | rfl⟩ := subscribed_of_move hp hm
    · exact ⟨rfl, rfl⟩
    · exact ⟨rfl, rfl⟩
  · -- every other wait is over with the cancellation
    obtain rfl := cancelled_of_offers hc (not_exists.1 hp) he
    obtain ⟨-, rfl⟩ := stop_of_move hm
    exact ⟨rfl, rfl⟩

/-- What has been called grows by the calls that are made with an event. -/
theorem requests_record (t : Nat) (e : Event) (p : Pump) (outputs : List (Output α))
    (c : Course Pump (Output α)) :
    (c.record (activity sel delay) t e p outputs).requests (activity sel delay)
      = c.requests (activity sel delay) ++ outputs.filterMap Output.request? := by
  rw [Course.requests, Course.outputs_record, List.filterMap_append, ← Course.requests]
  rfl

/-- **A step of a cancelled course** neither calls nor delivers. -/
theorem quiet_step {c d : Course Pump (Output α)} (hc : c.cancelled = true)
    (h : Course.Step (activity sel delay) c d) :
    d.requests (activity sel delay) = c.requests (activity sel delay) ∧ delivered d = delivered c := by
  rcases step_cases h with ⟨t, e, p, outputs, -, he, hm, rfl⟩ | ⟨-, -, -, hp, -⟩
  · obtain ⟨hr, hd⟩ := silent_of_move hc he hm
    rw [requests_record, delivered_record, hr, hd, List.append_nil, List.append_nil]
    exact ⟨rfl, rfl⟩
  · rw [Course.requests, delivered, Course.outputs, hp]
    exact ⟨rfl, rfl⟩

/-- A cancelled course neither calls nor delivers any more. -/
theorem quiet_of_reachable {c d : Course Pump (Output α)} (hc : c.cancelled = true)
    (h : Course.Reachable (activity sel delay) c d) :
    d.requests (activity sel delay) = c.requests (activity sel delay) ∧ delivered d = delivered c := by
  refine (h.invariant (P := fun d => d.cancelled = true ∧
    d.requests (activity sel delay) = c.requests (activity sel delay) ∧ delivered d = delivered c)
    ⟨hc, rfl, rfl⟩ ?_).2
  rintro d e ⟨hd, hr, hv⟩ hs
  obtain ⟨hr', hv'⟩ := quiet_step hd hs
  exact ⟨hs.cancelled_eq hd, hr'.trans hr, hv'.trans hv⟩

/-! ## When a cancelled pump ends -/

/-- A move leads to a phase in which something is waited for, unless the pump has stopped. -/
theorem waits_of_move {listened : Bool} {now : Nat} {p q : Pump} {e : Event} {outputs : List (Output α)}
    (h : Move sel delay listened now p e q outputs) : q.wait ≠ .ended ∨ q.phase = .stopped := by
  cases h with
  | desert hl hr => exact Or.inr rfl
  | stop => exact Or.inr rfl
  | _ => exact Or.inl nofun

/-- A pump waits for something until it has stopped. -/
theorem waits_of_reachable {p : Pump} {script : Script} {c : Course Pump (Output α)} (hp : p.wait ≠ .ended)
    (h : Course.Reachable (activity sel delay) (Course.start p script) c) :
    c.state.wait ≠ .ended ∨ c.state.phase = .stopped := by
  refine h.invariant (P := fun c => c.state.wait ≠ .ended ∨ c.state.phase = .stopped) (Or.inl hp) ?_
  intro c d hc hs
  rcases step_cases hs with ⟨t, e, p, outputs, -, -, hm, rfl⟩ | ⟨-, hd, -⟩
  · exact waits_of_move hm
  · rw [hd]
    exact hc

/-- A cancelled pump that is not putting its topic on a handle closes its queue at once. -/
theorem closesAtOnce_of_watching {c : Course Pump (Output α)} (hc : c.cancelled = true)
    (hw : c.state.wait ≠ .ended ∨ c.state.phase = .stopped) (hp : ∀ id, c.state.phase ≠ .subscribing id) :
    ClosesAtOnce sel delay c := by
  rcases hw with hw | hs
  · refine Or.inr ⟨⟨.cancelled, ?_⟩, ?_⟩
    · exact .cancelled (Bool.and_eq_true_iff.2 ⟨hc, (watchesCancellation_iff c.state).2 hp⟩) hw
    · intro t e he
      obtain rfl := cancelled_of_offers hc hp he
      exact (closed_queue_iff _).2 (stop_of_move (move_of_offers he)).1
  · exact Or.inl ((closed_queue_iff c).2 hs)

/-- A pump that is putting its topic on a handle does not close its queue with the next thing that it does. -/
theorem not_closesAtOnce_of_subscribing {c : Course Pump (Output α)} {id : UInt64}
    (hp : c.state.phase = .subscribing id) : ¬ ClosesAtOnce sel delay c := by
  rintro (hclosed | ⟨⟨e, he⟩, hnext⟩)
  · cases hp.symm.trans ((closed_queue_iff c).1 hclosed)
  · obtain ⟨a, rfl, -⟩ := answer_of_offers hp he
    have hopening := (subscribed_of_move hp (move_of_offers he)).1
    cases hopening.symm.trans ((closed_queue_iff _).1 (hnext c.now _ he))

/-- Once the topic of a cancelled pump has been put on a handle, or refused, the pump closes its queue at once. -/
theorem closesAtOnce_of_answer {c : Course Pump (Output α)} {id : UInt64} (hc : c.cancelled = true)
    (hp : c.state.phase = .subscribing id) {t : Nat} {e : Event} (he : c.Offers (activity sel delay) t e) :
    ClosesAtOnce sel delay (c.take (activity sel delay) t e) := by
  obtain ⟨a, rfl, -⟩ := answer_of_offers hp he
  have hopening : (c.take (activity sel delay) t (.answered a)).state.phase = .opening id .poised :=
    (subscribed_of_move hp (move_of_offers he)).1
  refine closesAtOnce_of_watching hc (Or.inl ?_) fun i hi => ?_
  · rw [wait, hopening]
    exact nofun
  · cases hopening.symm.trans hi

/-- **What cancelling a session does to a pump.** Whether the pump is to obtain its first handle or has one,
whatever the services answer or leave unanswered, and whatever the pump is doing when the session is cancelled:
from then on it makes no call and delivers nothing; and it closes its queue at once, waiting for nothing, if and
only if it is not putting its topic on a handle. -/
theorem closes_at_once_iff {p : Pump} {script : Script} {c : Course Pump (Output α)}
    (hp : p = .new ∨ ∃ id, p = .ofHandle id)
    (h : Course.Reachable (activity sel delay) (Course.start p script) c) (hc : c.cancelled = true) :
    (∀ d, Course.Reachable (activity sel delay) c d →
        d.requests (activity sel delay) = c.requests (activity sel delay) ∧ delivered d = delivered c)
      ∧ (ClosesAtOnce sel delay c ↔ ∀ id, c.state.phase ≠ .subscribing id) := by
  refine ⟨fun d hd => quiet_of_reachable hc hd, ?_, ?_⟩
  · intro hcloses id hid
    exact not_closesAtOnce_of_subscribing hid hcloses
  · have hstart : p.wait ≠ .ended := by
      rcases hp with rfl | ⟨id, rfl⟩ <;> exact nofun
    exact closesAtOnce_of_watching hc (waits_of_reachable hstart h)

/-- A script by which the daemon never answers when a handle is asked for. -/
def deaf : Script := [(.notificationRegister, [{ answer := none }])]

/-- A pump that is cancelled while it waits for an answer that never comes closes its queue all the same. -/
theorem closesAtOnce_deaf :
    ∃ c : Course Pump (Output ConfigNotification),
      Course.Reachable (activity .config 5) (Course.start .new deaf) c ∧ c.cancelled = true ∧
        c.state.wait = .answer ∧ c.services.answer? = none ∧ ClosesAtOnce .config 5 c := by
  have hs : (Course.start .new deaf).Suits (activity Selector.config 5) [(0, .turn)] :=
    ⟨Nat.le_refl _, .turn rfl rfl, trivial⟩
  have hr := (Course.reachable_follow hs).tail (.cancel (Nat.zero_le 3))
  exact ⟨_, hr, rfl, rfl, rfl, (closes_at_once_iff (Or.inl rfl) hr rfl).2.2 fun _ => nofun⟩

/-! ## A subscription that is never answered -/

/-- A pump that is putting its topic on a handle stays there for as long as the call is not answered. -/
theorem subscribing_of_silent {c d : Course Pump (Output α)} {id : UInt64}
    (hp : c.state.phase = .subscribing id) (hs : c.services.answer? = none)
    (h : Course.Reachable (activity sel delay) c d) : d.state.phase = .subscribing id := by
  refine (h.invariant (P := fun d => d.state.phase = .subscribing id ∧ d.services.answer? = none)
    ⟨hp, hs⟩ ?_).1
  rintro d e ⟨hd, hn⟩ hstep
  rcases step_cases hstep with ⟨t, ev, p, outputs, -, he, -, rfl⟩ | ⟨-, hstate, hservices, -⟩
  · obtain ⟨a, -, ha⟩ := answer_of_offers hd he
    cases hn.symm.trans ha
  · rw [hstate, hservices]
    exact ⟨hd, hn⟩

/-- A script by which the daemon does not know a handle, grants another, and never answers when the topic is put
on that. -/
def mute : Script :=
  [(.notificationStream, [{ answer := some (.failed ⟨.notFound, "gone"⟩) }]),
   (.notificationRegister,
    [{ answer := some (.response (.stream { streamId := 8 })) }, { answer := none }])]

/-- The events of a pump to which `mute` happens, up to the call that is not answered. -/
def muteSchedule : List (Nat × Event) :=
  [(0, .turn), (0, .answered (.failed ⟨.notFound, "gone"⟩)), (5, .elapsed), (5, .turn),
   (5, .answered (.response (.stream { streamId := 8 })))]

/-- The queue of a pump may stay open for good: one that waits for an answer that never comes is not told that its
session was cancelled. -/
theorem open_of_mute :
    ∃ c : Course Pump (Output ConfigNotification),
      Course.Reachable (activity .config 5) (Course.start (.ofHandle 7) mute) c ∧ c.cancelled = true ∧
        ∀ d, Course.Reachable (activity .config 5) c d → (queue d).closed = false := by
  have hs : (Course.start (.ofHandle 7) mute).Suits (activity Selector.config 5) muteSchedule :=
    ⟨Nat.le_refl _, .turn rfl rfl, Nat.le_refl _, .answered rfl rfl rfl,
      Nat.zero_le _, .elapsed rfl rfl (Nat.le_refl _), Nat.le_refl _, .turn rfl rfl,
      Nat.le_refl _, .answered rfl rfl rfl, trivial⟩
  refine ⟨_, (Course.reachable_follow hs).tail (.cancel (Nat.le_refl 5)), rfl, ?_⟩
  intro d hd
  have hp : d.state.phase = .subscribing 8 := subscribing_of_silent rfl rfl hd
  refine Bool.eq_false_iff.2 fun hclosed => ?_
  cases hp.symm.trans ((closed_queue_iff d).1 hclosed)

end Pump

end NetworkAgent
