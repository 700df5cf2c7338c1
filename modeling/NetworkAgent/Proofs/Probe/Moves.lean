import NetworkAgent.Probe
import NetworkAgent.Proofs.Log

/-! # The moves of a probe

`Probe.step` is total: it says what a probe does with any event in any phase. Among its surroundings a probe takes
only what it is offered, and what it can do then is listed once and for all.

* **`Probe.activity`** — a probe as its surroundings see it.
* **`Probe.Move`** — what a probe can do, one constructor for each move; `move_of_offers` says that there is
  nothing else, and `step_cases` says so of the steps of a probe's course. -/

namespace NetworkAgent.Probe

open Message

/-- **A probe as its surroundings see it.** Nobody has to be there to listen to it. -/
def activity (k : KeepAlive) (delay : Nat) : Activity Probe Request where
  wait := wait
  watchesCancellation := watchesCancellation
  step _ now p e := step k delay now p e
  request? := some

/-- **The moves of a probe** at the instant `now`: from a state, by an event, to a state, with the calls that it
makes. -/
inductive Move (k : KeepAlive) (delay now : Nat) : Probe → Event → Probe → List Request → Prop where
  /-- It takes the first tick, and begins to wait for the next one. -/
  | begin {tick : Nat} {f : UInt32} :
      Move k delay now ⟨.beginning, tick, f⟩ .turn ⟨.resting, now + k.interval, f⟩ []
  /-- A tick has come. -/
  | tick {due : Nat} {f : UInt32} (h : due ≤ now) :
      Move k delay now ⟨.resting, due, f⟩ .elapsed ⟨.probing .poised, nextTick k.interval due now, f⟩ []
  /-- It probes the daemon. -/
  | ask {tick : Nat} {f : UInt32} :
      Move k delay now ⟨.probing .poised, tick, f⟩ .turn ⟨.probing .attempting, tick, f⟩ [.keepAlive]
  /-- The call failed in transport, and it pauses. -/
  | failed {tick : Nat} {f : UInt32} {a : Answer} (h : outcome? a = none) :
      Move k delay now ⟨.probing .attempting, tick, f⟩ (.answered a) ⟨.probing (.pausing (now + delay)), tick, f⟩ []
  /-- The pause is over after which it probes again. -/
  | askAgain {tick due : Nat} {f : UInt32} (h : due ≤ now) :
      Move k delay now ⟨.probing (.pausing due), tick, f⟩ .elapsed ⟨.probing .poised, tick, f⟩ []
  /-- The call was answered, and it counts the outcome. -/
  | counted {tick : Nat} {f : UInt32} {a : Answer} {o : Outcome} (h : outcome? a = some o) :
      Move k delay now ⟨.probing .attempting, tick, f⟩ (.answered a)
        (count k ⟨.probing .attempting, tick, f⟩ o) []
  /-- It is told that the session is cancelled. -/
  | stop {p : Probe} (hw : p.wait ≠ .ended) :
      Move k delay now p .cancelled { p with phase := .finished .cancelled } []

variable {k : KeepAlive} {delay : Nat}

/-- What a probe does with an answer. -/
theorem move_answered {now tick : Nat} {f : UInt32} (a : Answer) :
    Move k delay now ⟨.probing .attempting, tick, f⟩ (.answered a)
      (step k delay now ⟨.probing .attempting, tick, f⟩ (.answered a)).1
      (step k delay now ⟨.probing .attempting, tick, f⟩ (.answered a)).2 := by
  have hs : step k delay now ⟨.probing .attempting, tick, f⟩ (.answered a)
      = proceed k ⟨.probing .attempting, tick, f⟩ (Retry.step delay now .attempting (.finished (outcome? a))) := rfl
  rw [hs]
  cases h : outcome? a with
  | none => exact .failed h
  | some o => exact .counted h

/-- A probe takes nothing from a stream or from a queue. -/
theorem wait_ne_item_input (p : Probe) : p.wait ≠ .item ∧ p.wait ≠ .input := by
  obtain ⟨phase, tick, f⟩ := p
  cases phase with
  | probing r => cases r <;> exact ⟨nofun, nofun⟩
  | _ => exact ⟨nofun, nofun⟩

/-- **A probe does nothing but its moves.** -/
theorem move_of_offers {c : Course Probe Request} {t : Nat} {e : Event} (h : c.Offers (activity k delay) t e) :
    Move k delay t c.state e (step k delay t c.state e).1 (step k delay t c.state e).2 := by
  obtain ⟨⟨phase, tick, f⟩, services, inbox, now, cancelled, listened, past⟩ := c
  cases h with
  | cancelled hc hw =>
      have hwatches : watchesCancellation ⟨phase, tick, f⟩ = true := (Bool.and_eq_true_iff.1 hc).2
      cases phase with
      | beginning => cases hwatches
      | resting => exact .stop hw
      | probing r =>
          cases r with
          | done o => exact absurd rfl hw
          | cancelled => exact absurd rfl hw
          | _ => exact .stop hw
      | finished exit => exact absurd rfl hw
  | turn hc hw =>
      cases phase with
      | beginning => exact .begin
      | probing r =>
          cases r with
          | poised => exact .ask
          | _ => cases hw
      | _ => cases hw
  | answered hc hw ha =>
      cases phase with
      | probing r =>
          cases r with
          | attempting => exact move_answered _
          | _ => cases hw
      | _ => cases hw
  | elapsed hc hw hd =>
      cases phase with
      | resting =>
          cases hw
          exact .tick hd
      | probing r =>
          cases r with
          | pausing resume =>
              cases hw
              exact .askAgain hd
          | _ => cases hw
      | _ => cases hw
  | yielded hc hw hi => exact absurd hw (wait_ne_item_input _).1
  | received hc hw hn => exact absurd hw (wait_ne_item_input _).2
  | closed hc hw hn hq => exact absurd hw (wait_ne_item_input _).2

/-- **A step of a probe's course** is a move of the probe, or leaves the probe and its past alone. -/
theorem step_cases {c d : Course Probe Request} (h : Course.Step (activity k delay) c d) :
    (∃ t e p calls, c.Offers (activity k delay) t e ∧ Move k delay t c.state e p calls ∧
        d = c.record (activity k delay) t e p calls)
      ∨ (d.state = c.state ∧ d.past = c.past ∧ (d.cancelled = false → c.cancelled = false)) := by
  cases h with
  | event ht he => exact Or.inl ⟨_, _, _, _, he, move_of_offers he, rfl⟩
  | cancel ht => exact Or.inr ⟨rfl, rfl, nofun⟩
  | leave ht => exact Or.inr ⟨rfl, rfl, id⟩
  | send ht n => exact Or.inr ⟨rfl, rfl, id⟩
  | close ht => exact Or.inr ⟨rfl, rfl, id⟩

end NetworkAgent.Probe
