import NetworkAgent.Proofs.Commit.Tracking
import NetworkAgent.Proofs.Course

/-! # The moves of a tracker

`Tracker.step` is total: it says what a tracker does with any event in any phase. Among its surroundings a tracker
takes only what it is offered, and what it can do then is listed once and for all.

* **`Tracker.activity`** — a tracker as its surroundings see it.
* **`Tracker.Move`** — what a tracker can do, one constructor for each move; `move_of_offers` says that there is
  nothing else, and `step_cases` says so of the steps of a tracker's course. -/

namespace NetworkAgent.Tracker

open Message

/-- **A tracker as its surroundings see it.** It looks neither at the clock nor for its consumer. -/
def activity : Activity Tracker Output where
  wait := wait
  watchesCancellation := watchesCancellation
  step _ _ := step
  request? := Output.request?

/-- **The moves of a tracker**: from a state, by an event, to a state, with what it does. -/
inductive Move : Tracker → Event → Tracker → List Output → Prop where
  /-- It hands over a change. -/
  | forward {appRoot : String} {n : ConfigNotification} :
      Move ⟨.streaming, appRoot, .waiting⟩ (.received (some n)) ⟨.streaming, appRoot, .waiting⟩
        [.delta (.ofNotification n)]
  /-- It reads the configuration after a commit. -/
  | fetch {appRoot : String} {n : ConfigNotification} (h : IsCommit n) :
      Move ⟨.aggregate, appRoot, .waiting⟩ (.received (some n))
        ⟨.aggregate, appRoot, .fetching (carried? n)⟩ [.call (.getConfig appRoot)]
  /-- It does nothing with what is no commit. -/
  | ignore {appRoot : String} {n : ConfigNotification} (h : ¬ IsCommit n) :
      Move ⟨.aggregate, appRoot, .waiting⟩ (.received (some n)) ⟨.aggregate, appRoot, .waiting⟩ []
  /-- It hands over the configuration that it has read. -/
  | report {mode : CommitMode} {appRoot : String} {sequence : Option UInt64} {a : Answer}
      {json : Option String} (h : config? a = some json) :
      Move ⟨mode, appRoot, .fetching sequence⟩ (.answered a) ⟨mode, appRoot, .waiting⟩
        (handOver ⟨sequence, json⟩)
  /-- It passes over a configuration that could not be read. -/
  | giveUp {mode : CommitMode} {appRoot : String} {sequence : Option UInt64} {a : Answer}
      (h : config? a = none) :
      Move ⟨mode, appRoot, .fetching sequence⟩ (.answered a) ⟨mode, appRoot, .waiting⟩ []
  /-- Its input queue is closed and empty. -/
  | finish {mode : CommitMode} {appRoot : String} :
      Move ⟨mode, appRoot, .waiting⟩ (.received none) ⟨mode, appRoot, .stopped⟩ []
  /-- It is told that the session is cancelled. -/
  | stop {mode : CommitMode} {appRoot : String} :
      Move ⟨mode, appRoot, .waiting⟩ .cancelled ⟨mode, appRoot, .stopped⟩ []

/-- What a tracker does with a notification. -/
theorem move_take (mode : CommitMode) (appRoot : String) (n : ConfigNotification) :
    Move ⟨mode, appRoot, .waiting⟩ (.received (some n)) (take ⟨mode, appRoot, .waiting⟩ n).1
      (take ⟨mode, appRoot, .waiting⟩ n).2 := by
  cases mode with
  | streaming => exact .forward
  | aggregate =>
      rw [take, ← carried?_eq]
      by_cases hn : IsCommit n
      · rw [if_pos ((isCommit_iff n).1 hn)]
        exact .fetch hn
      · rw [if_neg fun h => hn ((isCommit_iff n).2 h)]
        exact .ignore hn

/-- What a tracker does with the answer that it waits for. -/
theorem move_finish (mode : CommitMode) (appRoot : String) (sequence : Option UInt64) (a : Answer) :
    Move ⟨mode, appRoot, .fetching sequence⟩ (.answered a)
      (finish ⟨mode, appRoot, .fetching sequence⟩ sequence a).1
      (finish ⟨mode, appRoot, .fetching sequence⟩ sequence a).2 := by
  rw [finish]
  cases h : config? a with
  | none => exact .giveUp h
  | some json => exact .report h

/-- **A tracker does nothing but its moves.** -/
theorem move_of_offers {c : Course Tracker Output} {t : Nat} {e : Event} (h : c.Offers activity t e) :
    Move c.state e (c.state.step e).1 (c.state.step e).2 := by
  obtain ⟨⟨mode, appRoot, phase⟩, services, inbox, now, cancelled, listened, past⟩ := c
  cases h with
  | cancelled hc hw =>
      have hwatches : watchesCancellation ⟨mode, appRoot, phase⟩ = true := (Bool.and_eq_true_iff.1 hc).2
      cases phase with
      | waiting => exact .stop
      | fetching sequence => cases hwatches
      | stopped => exact absurd rfl hw
  | answered hc hw ha =>
      cases phase with
      | fetching sequence => exact move_finish mode appRoot sequence _
      | _ => cases hw
  | received hc hw hn =>
      cases phase with
      | waiting => exact move_take mode appRoot _
      | _ => cases hw
  | closed hc hw hn hq =>
      cases phase with
      | waiting => exact .finish
      | _ => cases hw
  | _ => cases phase <;> contradiction

/-- **A step of a tracker's course** is a move of the tracker, or leaves the tracker, its services and its past
alone. -/
theorem step_cases {c d : Course Tracker Output} (h : Course.Step activity c d) :
    (∃ t e u outputs, c.Offers activity t e ∧ Move c.state e u outputs ∧ d = c.record activity t e u outputs)
      ∨ (d.state = c.state ∧ d.services = c.services ∧ d.past = c.past) := by
  cases h with
  | event ht he => exact Or.inl ⟨_, _, _, _, he, move_of_offers he, rfl⟩
  | cancel | leave | send | close => exact Or.inr ⟨rfl, rfl, rfl⟩

/-- A tracker that takes a notification reads the configuration, or is ready for the next one and calls for nothing. -/
theorem calls_of_received {t u : Tracker} {n : ConfigNotification} {outputs : List Output}
    (h : Move t (.received (some n)) u outputs) :
    (u.wait = .answer ∧ ∃ appRoot, outputs.filterMap Output.request? = [.getConfig appRoot])
      ∨ (u.wait ≠ .answer ∧ outputs.filterMap Output.request? = []) := by
  cases h with
  | forward => exact Or.inr ⟨nofun, rfl⟩
  | fetch h => exact Or.inl ⟨rfl, _, rfl⟩
  | ignore h => exact Or.inr ⟨nofun, rfl⟩

/-- A tracker that has its answer is ready for the next notification, and calls for nothing. -/
theorem calls_of_answered {t u : Tracker} {a : Answer} {outputs : List Output}
    (h : Move t (.answered a) u outputs) : u.wait ≠ .answer ∧ outputs.filterMap Output.request? = [] := by
  cases h with
  | report h => exact ⟨nofun, rfl⟩
  | giveUp h => exact ⟨nofun, rfl⟩

/-- A tracker is offered the next notification or its answer, and nothing else, while its session is not cancelled and
its queue is not closed. -/
theorem event_of_offers {c : Course Tracker Output} {t : Nat} {e : Event} (hc : c.cancelled = false)
    (hq : c.inbox.closed = false) (h : c.Offers activity t e) :
    (∃ n ns, c.inbox.items = n :: ns ∧ e = .received (some n)) ∨ ∃ a, e = .answered a := by
  have hm := move_of_offers h
  generalize c.state = s at hm
  -- what is offered to a pump alone is none of a tracker's moves
  cases h with
  | cancelled htold hw => cases hc.symm.trans (Bool.and_eq_true_iff.1 htold).1
  | received htold hw hn => exact Or.inl ⟨_, _, hn, rfl⟩
  | closed htold hw hn hclosed => cases hq.symm.trans hclosed
  | answered htold hw ha => exact Or.inr ⟨_, rfl⟩
  | _ => cases hm

end NetworkAgent.Tracker
