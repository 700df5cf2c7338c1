import NetworkAgent.Proofs.Course
import NetworkAgent.Stream.Pump

/-! # The moves of a pump

`Pump.step` is total: it says what a pump does with any event in any phase. Among its surroundings a pump takes
only what it is offered, and what it can do then is listed once and for all.

* **`Pump.activity`** — a pump as its surroundings see it.
* **`Pump.Move`** — what a pump can do, one constructor for each move; `move_of_offers` says that there is
  nothing else. A proof about the runs of a pump is by cases on it.
* **`Pump.Attends`** — the call whose answer a pump waits for is the one that is under way. It holds at every
  instant of a pump's course, by `attends_step`. -/

namespace NetworkAgent.Pump

open Message

variable {α : Type}

/-- The call that an output makes, if it makes one. -/
def Output.request? : Output α → Option Request
  | .call r => some r
  | .started _ | .deliver _ => none

/-- The notification that an output delivers, if it delivers one. -/
def Output.delivered? : Output α → Option α
  | .deliver a => some a
  | .call _ | .started _ => none

/-- **A pump as its surroundings see it.** -/
def activity (sel : Selector α) (delay : Nat) : Activity Pump (Output α) where
  wait := wait
  watchesCancellation := watchesCancellation
  step := step sel delay
  request? := Output.request?

/-- **The moves of a pump** at the instant `now`: from a state, by an event, to a state, with what it does. -/
inductive Move (sel : Selector α) (delay : Nat) (listened : Bool) (now : Nat) :
    Pump → Event → Pump → List (Output α) → Prop where
  /-- It asks for a handle. -/
  | ask {b : Bool} : Move sel delay listened now ⟨.obtaining .poised, b⟩ .turn
      ⟨.obtaining .attempting, b⟩ [.call Registry.createCall]
  /-- It is granted a handle, and puts its topic on it. -/
  | granted {b : Bool} {a : Answer} {id : UInt64} (h : Registry.granted? a = some id) :
      Move sel delay listened now ⟨.obtaining .attempting, b⟩ (.answered a)
        ⟨.subscribing id, b⟩ [.call (Registry.subscribeCall id sel.topic)]
  /-- It is not granted a handle, and pauses. -/
  | refused {b : Bool} {a : Answer} (h : Registry.granted? a = none) :
      Move sel delay listened now ⟨.obtaining .attempting, b⟩ (.answered a)
        ⟨.obtaining (.pausing (now + delay)), b⟩ []
  /-- The pause is over after which it asks for a handle again. -/
  | askAgain {b : Bool} {due : Nat} (h : due ≤ now) :
      Move sel delay listened now ⟨.obtaining (.pausing due), b⟩ .elapsed ⟨.obtaining .poised, b⟩ []
  /-- Its topic has been put on the handle, or refused. -/
  | subscribed {b : Bool} {id : UInt64} {a : Answer} :
      Move sel delay listened now ⟨.subscribing id, b⟩ (.answered a) ⟨.opening id .poised, true⟩
        (if b then [] else [.started id])
  /-- It asks for the stream of its handle. -/
  | connect {b : Bool} {id : UInt64} :
      Move sel delay listened now ⟨.opening id .poised, b⟩ .turn
        ⟨.opening id .attempting, b⟩ [.call (.notificationStream id)]
  /-- The stream is open. -/
  | opened {b : Bool} {id : UInt64} {r : Response} :
      Move sel delay listened now ⟨.opening id .attempting, b⟩ (.answered (.response r))
        ⟨.receiving id, b⟩ []
  /-- The handle is not known any more, and it pauses. -/
  | rejected {b : Bool} {id : UInt64} {s : Status} (h : Opening.ofAnswer? (.failed s) = some .stale) :
      Move sel delay listened now ⟨.opening id .attempting, b⟩ (.answered (.failed s))
        ⟨.stale (now + delay), b⟩ []
  /-- The stream was not opened, and it pauses. -/
  | failed {b : Bool} {id : UInt64} {s : Status} (h : Opening.ofAnswer? (.failed s) = none) :
      Move sel delay listened now ⟨.opening id .attempting, b⟩ (.answered (.failed s))
        ⟨.opening id (.pausing (now + delay)), b⟩ []
  /-- The pause is over after which it asks for the stream again. -/
  | connectAgain {b : Bool} {id : UInt64} {due : Nat} (h : due ≤ now) :
      Move sel delay listened now ⟨.opening id (.pausing due), b⟩ .elapsed ⟨.opening id .poised, b⟩ []
  /-- The pause is over after which it obtains a new handle. -/
  | obtainAgain {b : Bool} {due : Nat} (h : due ≤ now) :
      Move sel delay listened now ⟨.stale due, b⟩ .elapsed ⟨.obtaining .poised, b⟩ []
  /-- It delivers what a response carries of its topic. -/
  | deliver {b : Bool} {id : UInt64} {r : StreamResponse} (hl : listened = true) :
      Move sel delay listened now ⟨.receiving id, b⟩ (.yielded (.response r)) ⟨.receiving id, b⟩
        ((sel.extractAll r).map .deliver)
  /-- Its consumer has left, and it has nothing to deliver. -/
  | skip {b : Bool} {id : UInt64} {r : StreamResponse} (hl : listened = false)
      (hr : sel.extractAll r = []) :
      Move sel delay listened now ⟨.receiving id, b⟩ (.yielded (.response r)) ⟨.receiving id, b⟩ []
  /-- Its consumer has left, and it notices that. -/
  | desert {b : Bool} {id : UInt64} {r : StreamResponse} (hl : listened = false)
      (hr : sel.extractAll r ≠ []) :
      Move sel delay listened now ⟨.receiving id, b⟩ (.yielded (.response r)) ⟨.stopped, b⟩ []
  /-- The stream fails or ends, and it pauses. -/
  | broken {b : Bool} {id : UInt64} {i : StreamItem} (h : i.response? = none) :
      Move sel delay listened now ⟨.receiving id, b⟩ (.yielded i)
        ⟨.backingOff id (now + delay), b⟩ []
  /-- The pause is over after which it opens the stream of its handle anew. -/
  | reopen {b : Bool} {id : UInt64} {due : Nat} (h : due ≤ now) :
      Move sel delay listened now ⟨.backingOff id due, b⟩ .elapsed ⟨.opening id .poised, b⟩ []
  /-- It is told that the session is cancelled. -/
  | stop {p : Pump} : Move sel delay listened now p .cancelled { p with phase := .stopped } []

variable {sel : Selector α} {delay : Nat}

/-- What a pump does with a response that it has received. -/
theorem move_deliver {listened : Bool} {now : Nat} {b : Bool} {id : UInt64} (r : StreamResponse) :
    Move sel delay listened now ⟨.receiving id, b⟩ (.yielded (.response r))
      (deliver ⟨.receiving id, b⟩ sel listened r).1 (deliver ⟨.receiving id, b⟩ sel listened r).2 := by
  unfold deliver
  cases hl : listened with
  | true => exact .deliver rfl
  | false =>
      rw [if_neg Bool.false_ne_true]
      by_cases hr : sel.extractAll r = []
      · rw [if_pos (List.isEmpty_iff.2 hr)]
        exact .skip rfl hr
      · rw [if_neg (fun he => hr (List.isEmpty_iff.1 he))]
        exact .desert rfl hr

/-- What a pump does when its turn has come. -/
theorem move_turn {listened : Bool} {now : Nat} {p : Pump} (hw : p.wait = .turn) :
    Move sel delay listened now p .turn (step sel delay listened now p .turn).1
      (step sel delay listened now p .turn).2 := by
  obtain ⟨phase, b⟩ := p
  cases phase with
  | obtaining r =>
      cases r with
      | poised => exact .ask
      | _ => cases hw
  | opening id r =>
      cases r with
      | poised => exact .connect
      | _ => cases hw
  | _ => cases hw

/-- A failed call never opens a stream. -/
theorem eq_stale_of_failed {s : Status} {o : Opening} (h : Opening.ofAnswer? (.failed s) = some o) :
    o = .stale := by
  simp only [Opening.ofAnswer?] at h
  split at h <;> cases h <;> rfl

/-- A pump takes no input. -/
theorem wait_ne_input (p : Pump) : p.wait ≠ .input := by
  intro hw
  obtain ⟨phase, b⟩ := p
  cases phase with
  | obtaining r => cases r <;> cases hw
  | opening id r => cases r <;> cases hw
  | _ => cases hw

/-- What a pump does with the answer to its call. -/
theorem move_answered {listened : Bool} {now : Nat} {p : Pump} (hw : p.wait = .answer) (a : Answer) :
    Move sel delay listened now p (.answered a) (step sel delay listened now p (.answered a)).1
      (step sel delay listened now p (.answered a)).2 := by
  obtain ⟨phase, b⟩ := p
  -- in three phases a pump waits for an answer; what it reads from the answer decides between the moves
  cases phase with
  | obtaining r =>
      cases r with
      | attempting =>
          cases h : Registry.granted? a with
          | none =>
              have hs : step sel delay listened now ⟨.obtaining .attempting, b⟩ (.answered a)
                  = (⟨.obtaining (.pausing (now + delay)), b⟩, []) := by
                show Pump.obtain _ sel
                  (Retry.step delay now .attempting (.finished (Registry.granted? a))) = _
                rw [h]
                rfl
              rw [hs]
              exact .refused h
          | some id =>
              have hs : step sel delay listened now ⟨.obtaining .attempting, b⟩ (.answered a)
                  = (⟨.subscribing id, b⟩, [.call (Registry.subscribeCall id sel.topic)]) := by
                show Pump.obtain _ sel
                  (Retry.step delay now .attempting (.finished (Registry.granted? a))) = _
                rw [h]
                rfl
              rw [hs]
              exact .granted h
      | _ => cases hw
  | subscribing id => exact .subscribed
  | opening id r =>
      cases r with
      | attempting =>
          cases a with
          | response r => exact .opened
          | failed s =>
              cases h : Opening.ofAnswer? (.failed s) with
              | none =>
                  have hs : step sel delay listened now ⟨.opening id .attempting, b⟩ (.answered (.failed s))
                      = (⟨.opening id (.pausing (now + delay)), b⟩, []) := by
                    show Pump.openStream _ delay now id
                      (Retry.step delay now .attempting (.finished (Opening.ofAnswer? (.failed s)))) = _
                    rw [h]
                    rfl
                  rw [hs]
                  exact .failed h
              | some o =>
                  obtain rfl := eq_stale_of_failed h
                  have hs : step sel delay listened now ⟨.opening id .attempting, b⟩ (.answered (.failed s))
                      = (⟨.stale (now + delay), b⟩, []) := by
                    show Pump.openStream _ delay now id
                      (Retry.step delay now .attempting (.finished (Opening.ofAnswer? (.failed s)))) = _
                    rw [h]
                    rfl
                  rw [hs]
                  exact .rejected h
      | _ => cases hw
  | _ => cases hw

/-- What a pump does when its pause is over. -/
theorem move_elapsed {listened : Bool} {now due : Nat} {p : Pump} (hw : p.wait = .until due)
    (hd : due ≤ now) :
    Move sel delay listened now p .elapsed (step sel delay listened now p .elapsed).1
      (step sel delay listened now p .elapsed).2 := by
  obtain ⟨phase, b⟩ := p
  cases phase with
  | obtaining r =>
      cases r with
      | pausing resume =>
          cases hw
          exact .askAgain hd
      | _ => cases hw
  | opening id r =>
      cases r with
      | pausing resume =>
          cases hw
          exact .connectAgain hd
      | _ => cases hw
  | stale resume =>
      cases hw
      exact .obtainAgain hd
  | backingOff id resume =>
      cases hw
      exact .reopen hd
  | _ => cases hw

/-- What a pump does with an item of its stream. -/
theorem move_yielded {listened : Bool} {now : Nat} {p : Pump} (hw : p.wait = .item) (i : StreamItem) :
    Move sel delay listened now p (.yielded i) (step sel delay listened now p (.yielded i)).1
      (step sel delay listened now p (.yielded i)).2 := by
  obtain ⟨phase, b⟩ := p
  cases phase with
  | receiving id =>
      cases i with
      | response r => exact move_deliver r
      | failed s => exact .broken rfl
      | ended => exact .broken rfl
  | obtaining r => cases r <;> cases hw
  | opening id r => cases r <;> cases hw
  | _ => cases hw

/-- What a pump does when it is told that the session is cancelled. -/
theorem move_cancelled {listened : Bool} {now : Nat} {p : Pump} (hc : p.watchesCancellation = true)
    (hw : p.wait ≠ .ended) :
    Move sel delay listened now p .cancelled (step sel delay listened now p .cancelled).1
      (step sel delay listened now p .cancelled).2 := by
  obtain ⟨phase, b⟩ := p
  -- left out are the phase that is not told and those in which nothing is waited for
  cases phase with
  | obtaining r =>
      cases r with
      | done id => exact absurd rfl hw
      | cancelled => exact absurd rfl hw
      | _ => exact .stop
  | subscribing id => cases hc
  | opening id r =>
      cases r with
      | done o => exact absurd rfl hw
      | cancelled => exact absurd rfl hw
      | _ => exact .stop
  | stopped => exact absurd rfl hw
  | _ => exact .stop

/-- **A pump does nothing but its moves.** -/
theorem move_of_offers {c : Course Pump (Output α)} {t : Nat} {e : Event}
    (h : c.Offers (activity sel delay) t e) :
    Move sel delay c.listened t c.state e (step sel delay c.listened t c.state e).1
      (step sel delay c.listened t c.state e).2 := by
  cases h with
  | cancelled hc hw =>
      have hwatches : c.state.watchesCancellation = true := (Bool.and_eq_true_iff.1 hc).2
      exact move_cancelled hwatches hw
  | turn hc hw => exact move_turn hw
  | answered hc hw ha => exact move_answered hw _
  | elapsed hc hw hd => exact move_elapsed hw hd
  | yielded hc hw hi => exact move_yielded hw _
  | received hc hw hn => exact absurd hw (wait_ne_input c.state)
  | closed hc hw hn hq => exact absurd hw (wait_ne_input c.state)

/-- **A step of a pump's course** is a move of the pump, or leaves the pump, its services and its past alone. -/
theorem step_cases {c d : Course Pump (Output α)} (h : Course.Step (activity sel delay) c d) :
    (∃ t e p outputs, c.now ≤ t ∧ c.Offers (activity sel delay) t e ∧
        Move sel delay c.listened t c.state e p outputs ∧
        d = c.record (activity sel delay) t e p outputs)
      ∨ (c.now ≤ d.now ∧ d.state = c.state ∧ d.services = c.services ∧ d.past = c.past ∧
        (d.listened = true → c.listened = true)) := by
  cases h with
  | event ht he => exact Or.inl ⟨_, _, _, _, ht, he, move_of_offers he, rfl⟩
  | leave ht => exact Or.inr ⟨ht, rfl, rfl, rfl, fun hl => absurd hl Bool.false_ne_true⟩
  | cancel ht => exact Or.inr ⟨ht, rfl, rfl, rfl, id⟩
  | send ht n => exact Or.inr ⟨ht, rfl, rfl, rfl, id⟩
  | close ht => exact Or.inr ⟨ht, rfl, rfl, rfl, id⟩

/-! ## The call that is under way -/

/-- The call whose answer a pump waits for, if it waits for one. -/
def Phase.request? (topic : Topic) : Phase → Option Request
  | .obtaining .attempting => some Registry.createCall
  | .subscribing id => some (Registry.subscribeCall id topic)
  | .opening id .attempting => some (.notificationStream id)
  | _ => none

/-- **A pump attends to its services** if the call whose answer it waits for is the one under way. -/
def Attends (sel : Selector α) (c : Course Pump (Output α)) : Prop :=
  ∀ r, c.state.phase.request? sel.topic = some r → ∃ reply, c.services.pending = some (r, reply)

/-- A step keeps a pump attending to its services. -/
theorem attends_step {c d : Course Pump (Output α)} (hc : Attends sel c)
    (h : Course.Step (activity sel delay) c d) : Attends sel d := by
  rcases step_cases h with ⟨t, e, p, outputs, -, -, hm, rfl⟩ | ⟨-, hs, hv, -⟩
  · generalize c.state = s at hm
    -- a move that ends in a wait for an answer has just made the call
    cases hm <;> intro r hr <;> cases hr <;> exact ⟨_, rfl⟩
  · rw [Attends, hs, hv]
    exact hc

end NetworkAgent.Pump
