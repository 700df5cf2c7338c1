import NetworkAgent.Proofs.Commit.Moves
import NetworkAgent.Proofs.Log

/-! # What a tracker does once its session is cancelled

Cancelling a session puts an end to its tracker, which takes no notification any more and makes no call. It ends at
once unless it is reading the configuration. It goes on to read that to the end, however long the answer takes, and
hands it over as if the session were not cancelled.

* **`Tracker.Feed.close`** — a feed whose tracker has stopped: both of its queues are closed. `World.feed_release`
  says that a world closes them then.
* **`Tracker.ClosesAtOnce`** — a tracker closes its feed as the next thing that it does, and has nothing to wait for.
* **`Tracker.Late`** — what a cancelled tracker may still come to; `late_step` is the step of this invariant.
* **`Tracker.ends_at_once_iff`** — a cancelled tracker makes no call, hands over at most what it is reading, and closes
  its feed at once unless it is reading. `Tracker.open_of_silent` — without an answer it never does. -/

namespace NetworkAgent

open Message

namespace Tracker

/-! ## The feed of a tracker that may stop -/

/-- A feed that no tracker fills any more. -/
def Feed.close (f : Feed) : Feed := { f with full := f.full.close, deltas := f.deltas.close }

/-- Both queues of a feed are closed. -/
def Feed.IsClosed (f : Feed) : Prop := f.full.closed = true ∧ f.deltas.closed = true

end Tracker

/-- **A world closes the feed of a tracker that has stopped.** -/
theorem World.feed_release (t : Tracker) (w : World) : (w.release (.track t)).feed = w.feed.close := rfl

namespace Tracker

/-- The feed of a tracker. The tracker is the only one that fills it, and leaves it when it stops. -/
def feed (c : Course Tracker Output) : Feed :=
  if c.state.phase = .stopped then (c.outputs.foldl Feed.apply { snapshot := none }).close
  else c.outputs.foldl Feed.apply { snapshot := none }

/-- Neither queue of a tracker that has not stopped is closed. -/
theorem open_feed {c : Course Tracker Output} (hp : c.state.phase ≠ .stopped) :
    (feed c).full.closed = false ∧ (feed c).deltas.closed = false := by
  have hnew : Feed.Shows none [] { snapshot := none } := ⟨rfl, Queue.holds_new, Queue.holds_new⟩
  have hshows := hnew.applies c.outputs
  rw [feed, if_neg hp]
  exact ⟨hshows.full.closed_eq, hshows.deltas.closed_eq⟩

/-- The feed of a tracker is closed once the tracker has stopped, and not before. -/
theorem isClosed_feed_iff (c : Course Tracker Output) : (feed c).IsClosed ↔ c.state.phase = .stopped := by
  constructor
  · intro h
    by_contra hp
    exact Bool.false_ne_true ((open_feed hp).1.symm.trans h.1)
  · intro hp
    rw [feed, if_pos hp]
    exact ⟨rfl, rfl⟩

/-- **A tracker closes its feed at once** if it has closed it, or has something to do at this instant and whatever it
does next closes the feed. -/
def ClosesAtOnce (c : Course Tracker Output) : Prop :=
  (feed c).IsClosed ∨
    (∃ e, c.Offers activity c.now e) ∧ ∀ t e, c.Offers activity t e → (feed (c.take activity t e)).IsClosed

/-! ## What a cancelled tracker does -/

/-- A tracker is told of the cancellation unless it is reading the configuration. -/
theorem isTold_of_not_fetching {c : Course Tracker Output} (hc : c.cancelled = true)
    (hp : ∀ sequence, c.state.phase ≠ .fetching sequence) : c.isTold activity = true := by
  refine Bool.and_eq_true_iff.2 ⟨hc, ?_⟩
  obtain ⟨⟨mode, appRoot, phase⟩, services, inbox, now, cancelled, listened, past⟩ := c
  cases phase with
  | fetching sequence => exact absurd rfl (hp sequence)
  | _ => rfl

/-- A tracker that is told of the cancellation stops, and does nothing else. -/
theorem stop_of_move {t u : Tracker} {outputs : List Output} (h : Move t .cancelled u outputs) :
    u.phase = .stopped ∧ outputs = [] := by
  cases h with
  | stop => exact ⟨rfl, rfl⟩

/-- A tracker that is reading the configuration waits for the answer, and is not told of the cancellation. -/
theorem wait_of_fetching {c : Course Tracker Output} {sequence : Option UInt64}
    (hp : c.state.phase = .fetching sequence) : activity.wait c.state = .answer ∧ c.isTold activity = false := by
  obtain ⟨⟨mode, appRoot, phase⟩, services, inbox, now, cancelled, listened, past⟩ := c
  cases hp
  exact ⟨rfl, Bool.and_false cancelled⟩

/-- A tracker that is reading the configuration is offered the answer, and nothing else. -/
theorem answer_of_fetching {c : Course Tracker Output} {sequence : Option UInt64}
    (hp : c.state.phase = .fetching sequence) {t : Nat} {e : Event} (h : c.Offers activity t e) :
    ∃ a, e = .answered a ∧ c.services.answer? = some a :=
  Course.answer_of_offers (wait_of_fetching hp).2 (wait_of_fetching hp).1 h

/-- What a tracker does when it has read the configuration: it hands over what it could read. -/
theorem report_of_move {t u : Tracker} {sequence : Option UInt64} {a : Answer} {outputs : List Output}
    (hp : t.phase = .fetching sequence) (h : Move t (.answered a) u outputs) :
    u.phase = .waiting ∧ outputs = ((config? a).map (⟨sequence, ·⟩)).toList.flatMap handOver := by
  cases h with
  | @report mode appRoot sequence' a json h =>
      cases hp
      refine ⟨rfl, ?_⟩
      rw [h]
      exact (List.append_nil _).symm
  | giveUp h =>
      rw [h]
      exact ⟨rfl, rfl⟩

/-- What a tracker hands over of a configuration is no call. -/
theorem requests_handOver (cs : List FullConfig) : (cs.flatMap handOver).filterMap Output.request? = [] := by
  induction cs with
  | nil => rfl
  | cons c cs ih => rwa [List.flatMap_cons, List.filterMap_append]

/-! ## What comes after the cancellation -/

/-- What a tracker hands over if it reads the configuration to the end, and can read it. -/
def pending (c : Course Tracker Output) : List Output :=
  match c.state.phase, c.services.answer? with
  | .fetching sequence, some a => ((config? a).map (⟨sequence, ·⟩)).toList.flatMap handOver
  | _, _ => []

/-- What a tracker hands over that is reading the configuration, and has an answer. -/
theorem pending_eq {c : Course Tracker Output} {sequence : Option UInt64} {a : Answer}
    (hp : c.state.phase = .fetching sequence) (ha : c.services.answer? = some a) :
    pending c = ((config? a).map (⟨sequence, ·⟩)).toList.flatMap handOver := by
  rw [pending, hp, ha]

/-- **What a tracker may still come to** that was at a point of its course when its session was cancelled. -/
inductive Late (c d : Course Tracker Output) : Prop where
  /-- It has done nothing since. -/
  | same (hstate : d.state = c.state) (hservices : d.services = c.services) (houtputs : d.outputs = c.outputs)
  /-- It is not reading any more, and has done no more than hand over what it was reading. -/
  | after (hp : ∀ sequence, d.state.phase ≠ .fetching sequence)
      (houtputs : d.outputs = c.outputs ∨ d.outputs = c.outputs ++ pending c)

/-- A tracker that has come to something late has done nothing, or handed over what it was reading. -/
theorem Late.outputs_eq {c d : Course Tracker Output} (h : Late c d) :
    d.outputs = c.outputs ∨ d.outputs = c.outputs ++ pending c := by
  cases h with
  | same hstate hservices houtputs => exact Or.inl houtputs
  | after hp houtputs => exact houtputs

/-- **A step of a cancelled course** leads to nothing else, and makes no call. -/
theorem late_step {c d e : Course Tracker Output} (hc : d.cancelled = true) (h : Late c d)
    (hs : Course.Step activity d e) : Late c e ∧ e.calls activity = d.calls activity := by
  rcases step_cases hs with ⟨t, ev, u, outputs, he, hm, rfl⟩ | ⟨hstate, hservices, hpast⟩
  · rw [Course.calls_record]
    by_cases hp : ∃ sequence, d.state.phase = .fetching sequence
    · -- it reads on, as it did when the session was cancelled
      obtain ⟨sequence, hp⟩ := hp
      obtain ⟨a, rfl, ha⟩ := answer_of_fetching hp he
      obtain ⟨hwaiting, rfl⟩ := report_of_move hp hm
      have hcalls := requests_handOver ((config? a).map (⟨sequence, ·⟩)).toList
      refine ⟨?_, by rw [show activity.request? = Output.request? from rfl, hcalls]; exact List.append_nil _⟩
      cases h with
      | after hnot => exact absurd hp (hnot sequence)
      | same hsame hservices houtputs =>
          refine .after (fun sequence' h => ?_) (Or.inr ?_)
          · cases hwaiting.symm.trans h
          · rw [Course.outputs_record, houtputs, pending_eq (hsame ▸ hp) (hservices ▸ ha)]
    · obtain rfl := Course.cancelled_of_offers (isTold_of_not_fetching hc (not_exists.1 hp)) he
      obtain ⟨hstopped, rfl⟩ := stop_of_move hm
      refine ⟨.after (fun sequence h => ?_) ?_, List.append_nil _⟩
      · cases hstopped.symm.trans h
      · rw [Course.outputs_record, List.append_nil]
        exact h.outputs_eq
  · refine ⟨?_, by rw [Course.calls, Course.log, hpast, ← Course.log, ← Course.calls]⟩
    have hout : e.outputs = d.outputs := by rw [Course.outputs, Course.outputs, hpast]
    cases h with
    | same hstate' hservices' houtputs =>
        exact .same (hstate.trans hstate') (hservices.trans hservices') (hout.trans houtputs)
    | after hp houtputs =>
        refine .after (hstate ▸ hp) ?_
        rwa [hout]

/-- **What a cancelled course comes to**: no call is made, and no more than what was being read is handed over. -/
theorem late_of_reachable {c d : Course Tracker Output} (hc : c.cancelled = true)
    (h : Course.Reachable activity c d) : Late c d ∧ d.calls activity = c.calls activity := by
  refine (h.invariant (P := fun d => d.cancelled = true ∧ Late c d ∧ d.calls activity = c.calls activity)
    ⟨hc, .same rfl rfl rfl, rfl⟩ ?_).2
  rintro d e ⟨hd, hlate, hcalls⟩ hs
  obtain ⟨hlate', hcalls'⟩ := late_step hd hlate hs
  exact ⟨hs.cancelled_eq hd, hlate', hcalls'.trans hcalls⟩

/-- What was being read is handed over when it has been answered. -/
theorem exists_pending {c : Course Tracker Output} {sequence : Option UInt64} {a : Answer}
    (hp : c.state.phase = .fetching sequence) (ha : c.services.answer? = some a) :
    ∃ d, Course.Reachable activity c d ∧ d.outputs = c.outputs ++ pending c := by
  obtain ⟨hwait, htold⟩ := wait_of_fetching hp
  have he : c.Offers activity c.now (.answered a) := .answered htold hwait ha
  have hout := (report_of_move hp (move_of_offers he)).2
  refine ⟨_, .tail .refl (.event (Nat.le_refl c.now) he), ?_⟩
  rw [Course.take, Course.outputs_record, pending_eq hp ha, ← hout]
  rfl

/-! ## When a cancelled tracker ends -/

/-- A cancelled tracker that is not reading the configuration closes its feed at once. -/
theorem closesAtOnce_of_not_fetching {c : Course Tracker Output} (hc : c.cancelled = true)
    (hp : ∀ sequence, c.state.phase ≠ .fetching sequence) : ClosesAtOnce c := by
  have htold : c.isTold activity = true := isTold_of_not_fetching hc hp
  by_cases hs : c.state.phase = .stopped
  · exact Or.inl ((isClosed_feed_iff c).2 hs)
  · have hw : activity.wait c.state ≠ .ended := by
      intro hw
      change c.state.wait = .ended at hw
      cases hphase : c.state.phase with
      | stopped => exact hs hphase
      | waiting | fetching => simp [wait, hphase] at hw
    refine Or.inr ⟨⟨.cancelled, .cancelled htold hw⟩, fun t e he => ?_⟩
    obtain rfl := Course.cancelled_of_offers htold he
    exact (isClosed_feed_iff _).2 (stop_of_move (move_of_offers he)).1

/-- A tracker that is reading the configuration does not close its feed with the next thing that it does. -/
theorem not_closesAtOnce_of_fetching {c : Course Tracker Output} {sequence : Option UInt64}
    (hp : c.state.phase = .fetching sequence) : ¬ ClosesAtOnce c := by
  rintro (hclosed | ⟨⟨e, he⟩, hnext⟩)
  · cases hp.symm.trans ((isClosed_feed_iff c).1 hclosed)
  · obtain ⟨a, rfl, -⟩ := answer_of_fetching hp he
    have hwaiting := (report_of_move hp (move_of_offers he)).1
    cases hwaiting.symm.trans ((isClosed_feed_iff _).1 (hnext c.now _ he))

/-- **What cancelling a session does to a tracker.** Whatever the queue holds, whatever is answered when the tracker
reads the configuration, and whenever, and whatever it is doing when the session is cancelled:

* from then on it makes no call, and it does nothing, or just what it does with the configuration that it was reading;
* which it does when it is answered;
* and it closes both queues of its feed at once, waiting for nothing, if and only if it is not reading the
  configuration. -/
theorem ends_at_once_iff {c : Course Tracker Output} (hc : c.cancelled = true) :
    (∀ d, Course.Reachable activity c d →
        d.calls activity = c.calls activity ∧ (d.outputs = c.outputs ∨ d.outputs = c.outputs ++ pending c))
      ∧ (∀ sequence a, c.state.phase = .fetching sequence → c.services.answer? = some a →
          ∃ d, Course.Reachable activity c d ∧ d.outputs = c.outputs ++ pending c)
      ∧ (ClosesAtOnce c ↔ ∀ sequence, c.state.phase ≠ .fetching sequence) := by
  refine ⟨fun d hd => ?_, fun sequence a hp ha => exists_pending hp ha, ?_, closesAtOnce_of_not_fetching hc⟩
  · obtain ⟨hlate, hcalls⟩ := late_of_reachable hc hd
    exact ⟨hcalls, hlate.outputs_eq⟩
  · intro hcloses sequence hp
    exact not_closesAtOnce_of_fetching hp hcloses

/-- A tracker whose session is cancelled while a notification waits in its queue closes its feed at once, and leaves
the notification. -/
theorem ends_at_once_unread :
    ∃ c : Course Tracker Output,
      Course.Reachable activity (Course.start (.new .streaming "/greeter") []) c ∧ c.cancelled = true ∧
        c.inbox.items = [{}] ∧ ClosesAtOnce c ∧
        ∀ d, Course.Reachable activity c d → d.outputs = [] := by
  let c : Course Tracker Output :=
    { Course.start (.new .streaming "/greeter") [] with inbox := { items := [{}] }, cancelled := true }
  have hc : Course.Reachable activity (Course.start (.new .streaming "/greeter") []) c :=
    .tail (.tail .refl (.send (Nat.le_refl 0) {})) (.cancel (Nat.le_refl 0))
  obtain ⟨hlate, -, hcloses⟩ := ends_at_once_iff (c := c) rfl
  refine ⟨c, hc, rfl, rfl, hcloses.2 fun _ => nofun, fun d hd => ?_⟩
  rcases (hlate d hd).2 with h | h <;> exact h

/-! ## A configuration that never comes -/

/-- A tracker that is reading the configuration goes on to do so for as long as it is not answered. -/
theorem fetching_of_silent {c d : Course Tracker Output} {sequence : Option UInt64}
    (hp : c.state.phase = .fetching sequence) (ha : c.services.answer? = none)
    (h : Course.Reachable activity c d) : d.state.phase = .fetching sequence := by
  refine (h.invariant (P := fun d => d.state.phase = .fetching sequence ∧ d.services.answer? = none) ⟨hp, ha⟩ ?_).1
  rintro d e ⟨hd, hn⟩ hstep
  rcases step_cases hstep with ⟨t, ev, u, outputs, he, -, rfl⟩ | ⟨hstate, hservices, -⟩
  · obtain ⟨a, -, ha⟩ := answer_of_fetching hd he
    cases hn.symm.trans ha
  · rw [hstate, hservices]
    exact ⟨hd, hn⟩

/-- The marker of the eighth commit. -/
def eighth : ConfigNotification where
  key := some { jsPath := commitEnd, jsPathWithKeys := commitEnd }
  data := some { json := "\x7b\"commit_seq\":8\x7d" }

/-- A script by which the configuration is asked for, and never comes. -/
def silent : Script := [(.getConfig, [{ answer := none }])]

/-- A feed may stay open for good: a tracker that is reading a configuration which never comes is not told that its
session was cancelled. -/
theorem open_of_silent :
    ∃ c : Course Tracker Output,
      Course.Reachable activity (Course.start (.new .aggregate "/greeter") silent) c ∧ c.cancelled = true ∧
        ∀ d, Course.Reachable activity c d → (feed d).full.closed = false ∧ (feed d).deltas.closed = false := by
  let sent : Course Tracker Output :=
    { Course.start (.new .aggregate "/greeter") silent with inbox := { items := [eighth] } }
  have hsent : Course.Reachable activity (Course.start (.new .aggregate "/greeter") silent) sent :=
    .tail .refl (.send (Nat.le_refl 0) eighth)
  have hs : sent.Suits activity [(0, .received (some eighth))] := ⟨Nat.le_refl 0, .received rfl rfl rfl, trivial⟩
  -- all that matters of the course from here on is what it is doing, and that it gets no answer
  obtain ⟨c, hc, hphase, hanswer⟩ :
      ∃ c, Course.Reachable activity (Course.start (.new .aggregate "/greeter") silent) c ∧
        c.state.phase = .fetching (some 8) ∧ c.services.answer? = none :=
    ⟨_, hsent.trans (Course.reachable_follow hs), by decide +kernel, by decide +kernel⟩
  refine ⟨{ c with cancelled := true }, hc.tail (.cancel (Nat.le_refl c.now)), rfl, fun d hd => ?_⟩
  have hp : d.state.phase = .fetching (some 8) :=
    fetching_of_silent (c := { c with cancelled := true }) hphase hanswer hd
  refine open_feed ?_
  rw [hp]
  exact nofun

end Tracker

end NetworkAgent
