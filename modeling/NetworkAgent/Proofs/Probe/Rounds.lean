import NetworkAgent.Proofs.Probe.Exit

/-! # Rounds of probing

Probing that nobody cancels, and that never has to wait for its turn, is determined by the replies that it gets. It
comes in rounds, each of them one probe with its repetitions. However long a round lasts, and however many ticks it
lets pass, the rounds after it do not make up for them.

* **`Probe.due?`**, **`Probe.course`** — the event that is due, and what a probe has come to after some events, each
  taken as soon as it is due. `advance_cases` says that these are moves of the probe.
* **`Probe.Round`**, **`Probe.rounds`** — the rounds in a course, read off the calls and their answers alone;
  `rounds_record` is the step, and `calls_extend` says that every call belongs to a round.
* **`Probe.scheduled`**, **`Probe.OnTime`** — the tick for which a round is scheduled, and the law of the rounds: each
  begins when the one before it is over and its tick has come. `start_add_le` draws from the law how far apart two
  rounds are.
* **`Probe.Stage`** — where a probe stands in its rounds, by its phase and its next tick; `stage_move` is its step.
* **`Probe.Paced`** — the invariant of a course; `paced_advance` is its step and `paced_course` its run.
* **`Probe.rounds_of_course`** — the rounds of every course. -/

namespace NetworkAgent.Probe

open Message

/-! ## (1) Events as soon as they are due -/

/-- **The event that is due** for a probe that nobody cancels, with its instant. A reply comes with its delay after the
call, which is the last thing that the probe has done; a call that is never answered leaves nothing due. -/
def due? (c : Course Probe Request) : Option (Nat × Event) :=
  match c.state.wait with
  | .turn => some (c.now, .turn)
  | .answer => c.services.pending.bind fun p => p.2.answer.map fun a => (c.now + p.2.delay, .answered a)
  | .until t => some (max c.now t, .elapsed)
  | _ => none

/-- The course after the event that is due, if there is one. -/
def advance (k : KeepAlive) (delay : Nat) (c : Course Probe Request) : Course Probe Request :=
  match due? c with
  | some (t, e) => c.take (activity k delay) t e
  | none => c

/-- **What a probe has come to** after some events. -/
def course (k : KeepAlive) (delay : Nat) (script : Script) : Nat → Course Probe Request
  | 0 => .start .new script
  | n + 1 => advance k delay (course k delay script n)

variable {k : KeepAlive} {delay : Nat}

/-- An instant at which an event is due: at once if a probe waits for its turn, and when it has come if it waits for an
instant. -/
def Prompt (now t : Nat) : Wait → Prop
  | .turn => t = now
  | .until due => t = max now due
  | _ => now ≤ t

/-- What is due can be taken, and is no cancellation. -/
theorem offers_of_due (k : KeepAlive) (delay : Nat) {c : Course Probe Request} (hc : c.cancelled = false) {t : Nat}
    {e : Event} (h : due? c = some (t, e)) :
    c.Offers (activity k delay) t e ∧ e ≠ .cancelled ∧ Prompt c.now t c.state.wait := by
  have hlive : c.isTold (activity k delay) = false := by rw [Course.isTold, hc, Bool.false_and]
  cases hw : c.state.wait with
  | turn =>
      simp only [due?, hw] at h
      cases h
      exact ⟨.turn hlive hw, by simp, rfl⟩
  | answer =>
      simp only [due?, hw] at h
      obtain ⟨p, hp, h⟩ := Option.bind_eq_some_iff.1 h
      obtain ⟨a, ha, h⟩ := Option.map_eq_some_iff.1 h
      cases h
      have hanswer : c.services.answer? = some a := Option.bind_eq_some_iff.2 ⟨p, hp, ha⟩
      exact ⟨.answered hlive hw hanswer, by simp, Nat.le_add_right _ _⟩
  | «until» due =>
      simp only [due?, hw] at h
      cases h
      exact ⟨.elapsed hlive hw (Nat.le_max_right _ _), by simp, rfl⟩
  | item | input | ended =>
      simp only [due?, hw] at h
      cases h

/-- **The next event is a move of the probe**, if there is one. -/
theorem advance_cases (k : KeepAlive) (delay : Nat) {c : Course Probe Request} (hc : c.cancelled = false) :
    advance k delay c = c ∨ ∃ t e p calls, Move k delay t c.state e p calls ∧ e ≠ .cancelled ∧
      Prompt c.now t c.state.wait ∧ advance k delay c = c.record (activity k delay) t e p calls := by
  cases h : due? c with
  | none => exact Or.inl (by rw [advance, h])
  | some d =>
      obtain ⟨t, e⟩ := d
      obtain ⟨ho, he, ht⟩ := offers_of_due k delay hc h
      refine Or.inr ⟨t, e, _, _, move_of_offers ho, he, ht, ?_⟩
      rw [advance, h]
      rfl

/-- What is due is not due before now. -/
theorem Prompt.le {now t : Nat} {w : Wait} (h : Prompt now t w) : now ≤ t := by
  cases w with
  | turn => exact Nat.le_of_eq h.symm
  | «until» due => exact h ▸ Nat.le_max_left _ _
  | _ => exact h

/-- Nobody cancels the session. -/
theorem cancelled_course (script : Script) (n : Nat) : (course k delay script n).cancelled = false := by
  induction n with
  | zero => rfl
  | succ n ih =>
      rcases advance_cases k delay ih with h | ⟨t, e, p, calls, -, -, -, h⟩
      · rw [course, h, ih]
      · rw [course, h]
        exact ih

/-- What a probe has come to is among all that it can come to if things happen at any instants. -/
theorem reachable_course (script : Script) (n : Nat) :
    Course.Reachable (activity k delay) (.start .new script) (course k delay script n) := by
  induction n with
  | zero => exact .refl
  | succ n ih =>
      cases h : due? (course k delay script n) with
      | none => rwa [course, advance, h]
      | some d =>
          obtain ⟨ho, -, ht⟩ := offers_of_due k delay (cancelled_course script n) h
          rw [course, advance, h]
          exact ih.tail (.event ht.le ho)

/-! ## (2) Rounds -/

/-- **A round of probing**: the calls up to one that is answered. -/
structure Round where
  /-- When its first call was made, in milliseconds. -/
  start : Nat
  /-- When the call was repeated. -/
  repeats : List Nat := []
  /-- When it was answered, if it has been. -/
  answered : Option Nat := none
  deriving DecidableEq, Repr

namespace Round

/-- When the calls of a round were made. -/
def calls (r : Round) : List Nat := r.start :: r.repeats

/-- A round whose call is repeated. -/
def again (t : Nat) (r : Round) : Round := { r with repeats := r.repeats ++ [t] }

/-- A round whose call is answered. -/
def close (t : Nat) (r : Round) : Round := { r with answered := some t }

end Round

/-- **When the last round was over**, if it is. Before the first round that is the beginning. -/
def over? (rounds : List Round) : Option Nat :=
  match rounds.getLast? with
  | none => some 0
  | some r => r.answered

namespace Round

/-- The rounds after an event was taken. An answer that has an outcome puts an end to the last round. -/
def settle (rounds : List Round) (t : Nat) : Event → List Round
  | .answered a => if (outcome? a).isSome then rounds.modifyLast (close t) else rounds
  | _ => rounds

/-- The rounds after a call. It begins a round if the last one is over, and is a repetition in it otherwise. -/
def call (rounds : List Round) (t : Nat) : List Round :=
  match over? rounds with
  | some _ => rounds ++ [{ start := t }]
  | none => rounds.modifyLast (again t)

/-- The rounds after an event was taken at an instant, with calls made then. -/
def extend (rounds : List Round) (t : Nat) (e : Event) (calls : List Request) : List Round :=
  calls.foldl (fun rounds _ => call rounds t) (settle rounds t e)

end Round

/-- **The rounds in a course**, in order. -/
def rounds (c : Course Probe Request) : List Round :=
  c.past.foldl (fun rounds m => Round.extend rounds m.time m.event m.outputs) []

/-- What an event adds to the rounds. -/
theorem rounds_record (t : Nat) (e : Event) (p : Probe) (calls : List Request) (c : Course Probe Request) :
    rounds (c.record (activity k delay) t e p calls) = Round.extend (rounds c) t e calls := by
  rw [rounds, Course.record, List.foldl_append, List.foldl_cons, List.foldl_nil, ← rounds]

/-- Before the first round probing has just begun. -/
@[simp] theorem over?_nil : over? [] = some 0 := rfl

/-- The last round is over when it has been answered. -/
@[simp] theorem over?_concat (rounds : List Round) (r : Round) : over? (rounds ++ [r]) = r.answered := by
  rw [over?, List.getLast?_concat]

@[simp] theorem Round.start_again (t : Nat) (r : Round) : (r.again t).start = r.start := rfl

@[simp] theorem Round.start_close (t : Nat) (r : Round) : (r.close t).start = r.start := rfl

/-- If the last round is not over, there is one. -/
theorem exists_of_over?_eq_none {rounds : List Round} (h : over? rounds = none) :
    ∃ before r, rounds = before ++ [r] ∧ r.answered = none := by
  rcases List.eq_nil_or_concat' rounds with rfl | ⟨before, r, rfl⟩
  · cases h
  · exact ⟨before, r, rfl, by rwa [over?_concat] at h⟩

namespace Round

/-- A call after the last round is over begins a round. -/
theorem call_of_over {rounds : List Round} {u : Nat} (h : over? rounds = some u) (t : Nat) :
    call rounds t = rounds ++ [{ start := t }] := by
  rw [call, h]

/-- A call during a round is a repetition in it. -/
theorem call_of_open {rounds : List Round} (h : over? rounds = none) (t : Nat) :
    call rounds t = rounds.modifyLast (again t) := by
  rw [call, h]

/-- An answer with an outcome puts an end to the last round. -/
theorem settle_counted {a : Answer} {o : Outcome} (h : outcome? a = some o) (rounds : List Round) (t : Nat) :
    settle rounds t (.answered a) = rounds.modifyLast (close t) := by
  rw [settle, h, if_pos Option.isSome_some]

/-- An answer without one does not. -/
theorem settle_failed {a : Answer} (h : outcome? a = none) (rounds : List Round) (t : Nat) :
    settle rounds t (.answered a) = rounds := by
  rw [settle, h]
  rfl

/-- A round whose call is repeated is not over. -/
theorem over?_again {rounds : List Round} (h : over? rounds = none) (t : Nat) :
    over? (rounds.modifyLast (again t)) = none := by
  obtain ⟨before, r, rfl, hr⟩ := exists_of_over?_eq_none h
  rw [List.modifyLast_concat, over?_concat, again, hr]

/-- A round whose call is answered is over. -/
theorem over?_close {rounds : List Round} (h : over? rounds = none) (t : Nat) :
    over? (rounds.modifyLast (close t)) = some t := by
  obtain ⟨before, r, rfl, -⟩ := exists_of_over?_eq_none h
  rw [List.modifyLast_concat, over?_concat, close]

/-- No call is made by an event. -/
theorem calls_settle (rounds : List Round) (t : Nat) (e : Event) :
    (settle rounds t e).flatMap calls = rounds.flatMap calls := by
  cases e with
  | answered a =>
      cases h : outcome? a with
      | none => rw [settle_failed h]
      | some o =>
          rw [settle_counted h]
          rcases List.eq_nil_or_concat' rounds with rfl | ⟨before, r, rfl⟩
          · rfl
          · rw [List.modifyLast_concat, List.flatMap_append, List.flatMap_append]
            rfl
  | _ => rfl

/-- A call belongs to the last round. -/
theorem calls_call (rounds : List Round) (t : Nat) :
    (call rounds t).flatMap calls = rounds.flatMap calls ++ [t] := by
  cases h : over? rounds with
  | some u =>
      rw [call_of_over h, List.flatMap_append]
      rfl
  | none =>
      rw [call_of_open h]
      obtain ⟨before, r, rfl, -⟩ := exists_of_over?_eq_none h
      rw [List.modifyLast_concat, List.flatMap_append, List.flatMap_append, List.append_assoc,
        List.flatMap_singleton, List.flatMap_singleton]
      rfl

/-- **Every call belongs to a round**, and the rounds follow one another as their calls do. -/
theorem calls_extend (rounds : List Round) (t : Nat) (e : Event) (requests : List Request) :
    (extend rounds t e requests).flatMap calls = rounds.flatMap calls ++ requests.map fun _ => t := by
  -- the answer has no part in it, and each call adds its instant
  rw [extend, ← calls_settle rounds t e]
  generalize settle rounds t e = rounds
  induction requests generalizing rounds with
  | nil => rw [List.foldl_nil, List.map_nil, List.append_nil]
  | cons r requests ih =>
      rw [List.foldl_cons, ih, calls_call, List.map_cons, List.append_assoc, List.singleton_append]

end Round

/-! ## (3) The law of the rounds -/

/-- **The tick for which the next round is scheduled.** The first one is one interval after the beginning, and every
round sets the tick for the next when it begins. -/
def scheduled (interval : Nat) (rounds : List Round) : Nat :=
  rounds.foldl (fun tick r => nextTick interval tick r.start) interval

/-- **A round is on time** if it begins as soon as the one before it is over and its tick has come. -/
def OnTime (interval : Nat) (before : List Round) (r : Round) : Prop :=
  ∃ t, over? before = some t ∧ r.start = max t (scheduled interval before)

/-- A round sets the tick for the next one. -/
@[simp] theorem scheduled_concat (interval : Nat) (rounds : List Round) (r : Round) :
    scheduled interval (rounds ++ [r]) = nextTick interval (scheduled interval rounds) r.start := by
  rw [scheduled, List.foldl_append, List.foldl_cons, List.foldl_nil, ← scheduled]

/-- A tick is at least one interval after the beginning. -/
theorem le_nextTick (interval tick now : Nat) : interval ≤ nextTick interval tick now := Nat.le_add_left _ _

/-- **The next tick is one interval away**, but for the tolerance, however late the last one was taken. -/
theorem add_le_nextTick (interval tick now : Nat) : now + interval ≤ nextTick interval tick now + tolerance := by
  rw [nextTick]
  split <;> omega

/-- No round is scheduled within the first interval. -/
theorem le_scheduled (interval : Nat) (rounds : List Round) : interval ≤ scheduled interval rounds := by
  rcases List.eq_nil_or_concat' rounds with rfl | ⟨before, r, rfl⟩
  · exact Nat.le_refl _
  · rw [scheduled_concat]
    exact le_nextTick _ _ _

/-- **Two rounds on time are an interval apart**, but for the tolerance, however long the first one lasts and however
many ticks pass meanwhile. -/
theorem start_add_le {interval : Nat} {rounds : List Round} (h : Lawful (OnTime interval) rounds)
    {before : List Round} {r s : Round} {after : List Round} (hrounds : rounds = before ++ r :: s :: after) :
    r.start + interval ≤ s.start + tolerance := by
  -- the second is no sooner than its tick, which the beginning of the first has set
  obtain ⟨t, -, hs⟩ := h (before ++ [r]) s after (by rw [hrounds, List.append_cons])
  have hnext := add_le_nextTick interval (scheduled interval before) r.start
  have htick : nextTick interval (scheduled interval before) r.start ≤ s.start := by
    rw [hs, scheduled_concat]
    exact Nat.le_max_right _ _
  omega

section ModifyLast

variable {f : Round → Round} (hf : ∀ r, (f r).start = r.start)
include hf

/-- How a round goes on makes no difference to the next tick. -/
theorem scheduled_modifyLast (interval : Nat) (rounds : List Round) :
    scheduled interval (rounds.modifyLast f) = scheduled interval rounds := by
  rcases List.eq_nil_or_concat' rounds with rfl | ⟨before, r, rfl⟩
  · rfl
  · rw [List.modifyLast_concat, scheduled_concat, scheduled_concat, hf]

/-- Nor does it to whether the rounds are on time. -/
theorem lawful_modifyLast {interval : Nat} {rounds : List Round} (h : Lawful (OnTime interval) rounds) :
    Lawful (OnTime interval) (rounds.modifyLast f) := by
  rcases List.eq_nil_or_concat' rounds with rfl | ⟨before, r, rfl⟩
  · exact h
  · obtain ⟨hbefore, t, ht, hr⟩ := lawful_concat.1 h
    rw [List.modifyLast_concat]
    exact lawful_concat.2 ⟨hbefore, t, ht, (hf r).trans hr⟩

end ModifyLast

/-! ## (4) Where a probe stands -/

/-- **Where a probe stands in its rounds** at the instant `now`, by its phase and its next tick. -/
inductive Stage (interval : Nat) : Phase → (tick now : Nat) → List Round → Prop where
  /-- It has not begun. -/
  | beginning {tick : Nat} : Stage interval .beginning tick 0 []
  /-- The last round has just come to its end, or probing has just begun. -/
  | resting {tick now : Nat} {rounds : List Round} (ho : over? rounds = some now)
      (htick : tick = scheduled interval rounds) : Stage interval .resting tick now rounds
  /-- The tick of the next round has been taken, as soon as it had come and the last round was over. -/
  | poised {t tick now : Nat} {rounds : List Round} (ho : over? rounds = some t)
      (hnow : now = max t (scheduled interval rounds))
      (htick : tick = nextTick interval (scheduled interval rounds) now) :
      Stage interval (.probing .poised) tick now rounds
  /-- A round is under way. -/
  | underWay {attempt : Retry Outcome} {tick now : Nat} {rounds : List Round} (ho : over? rounds = none)
      (hnow : interval ≤ now) (htick : tick = scheduled interval rounds) :
      Stage interval (.probing attempt) tick now rounds
  /-- Probing has ended. -/
  | finished {exit : ProbeExit} {tick now : Nat} {rounds : List Round} : Stage interval (.finished exit) tick now rounds

/-- Counting an outcome leaves the next tick alone. -/
theorem tick_count (k : KeepAlive) (p : Probe) (o : Outcome) : (p.count k o).tick = p.tick := by
  simp only [count]
  split
  · rfl
  · split <;> rfl

/-- Once the last round is over a probe rests, or probing has ended. -/
theorem stage_count {p : Probe} {o : Outcome} {now : Nat} {rounds : List Round} (ho : over? rounds = some now)
    (htick : p.tick = scheduled k.interval rounds) :
    Stage k.interval (p.count k o).phase (p.count k o).tick now rounds := by
  rw [tick_count]
  rcases phase_count k p o with hp | hp
  · rw [hp]
    exact .resting ho htick
  · rw [hp]
    exact .finished

/-- No call is made within the first interval. -/
theorem Stage.le_of_poised {interval tick now : Nat} {rounds : List Round}
    (h : Stage interval (.probing .poised) tick now rounds) : interval ≤ now := by
  cases h with
  | poised ho hnow htick =>
      rw [hnow]
      exact Nat.le_trans (le_scheduled _ _) (Nat.le_max_right _ _)
  | underWay ho hnow htick => exact hnow

/-- **A move leads from a stage to a stage** if it is made as soon as it is due and is not that of a cancellation. The
rounds stay on time. -/
theorem stage_move {t now : Nat} {p q : Probe} {e : Event} {rounds : List Round} {calls : List Request}
    (h : Stage k.interval p.phase p.tick now rounds) (hl : Lawful (OnTime k.interval) rounds)
    (hm : Move k delay t p e q calls) (he : e ≠ .cancelled) (ht : Prompt now t p.wait) :
    Stage k.interval q.phase q.tick t (Round.extend rounds t e calls) ∧
      Lawful (OnTime k.interval) (Round.extend rounds t e calls) := by
  cases hm with
  | begin =>
      cases h
      cases ht
      exact ⟨.resting over?_nil (Nat.zero_add _), hl⟩
  | tick hd =>
      cases h with
      | resting ho htick =>
          subst htick
          exact ⟨.poised ho ht rfl, hl⟩
  | ask =>
      cases ht
      have hinterval := h.le_of_poised
      cases h with
      | @poised u _ _ _ ho hnow htick =>
          -- a round begins, and its tick was taken at this instant
          have hcall : Round.extend rounds t .turn [.keepAlive] = rounds ++ [{ start := t }] := Round.call_of_over ho t
          rw [hcall]
          refine ⟨.underWay (over?_concat _ _) hinterval ?_, lawful_concat.2 ⟨hl, u, ho, hnow⟩⟩
          rw [scheduled_concat]
          exact htick
      | underWay ho hnow htick =>
          -- the call of the last round is repeated, which was on time when it began
          have hcall : Round.extend rounds t .turn [.keepAlive] = rounds.modifyLast (Round.again t) :=
            Round.call_of_open ho t
          rw [hcall]
          refine ⟨.underWay (Round.over?_again ho t) hinterval ?_, lawful_modifyLast (Round.start_again t) hl⟩
          rw [scheduled_modifyLast (Round.start_again t)]
          exact htick
  | failed ha =>
      have hsame : Round.extend rounds t (.answered _) [] = rounds := Round.settle_failed ha rounds t
      rw [hsame]
      cases h with
      | underWay ho hnow htick => exact ⟨.underWay ho (Nat.le_trans hnow ht.le) htick, hl⟩
  | askAgain hd =>
      cases h with
      | underWay ho hnow htick => exact ⟨.underWay ho (Nat.le_trans hnow ht.le) htick, hl⟩
  | counted ha =>
      have hcounted : Round.extend rounds t (.answered _) [] = rounds.modifyLast (Round.close t) :=
        Round.settle_counted ha rounds t
      rw [hcounted]
      cases h with
      | underWay ho hnow htick =>
          refine ⟨stage_count (Round.over?_close ho t) ?_, lawful_modifyLast (Round.start_close t) hl⟩
          rw [scheduled_modifyLast (Round.start_close t)]
          exact htick
  | stop hw => exact absurd rfl he

/-- A probe makes calls of one kind only, and does so at its turn. -/
theorem eq_of_call {t : Nat} {p q : Probe} {e : Event} {calls : List Request} (hm : Move k delay t p e q calls)
    {r : Request} (hr : r ∈ calls) : r = .keepAlive ∧ p.phase = .probing .poised := by
  cases hm with
  | ask => exact ⟨List.mem_singleton.1 hr, rfl⟩
  | _ => exact absurd hr List.not_mem_nil

/-! ## (5) The rounds of a course -/

/-- **The pace of a probe's course**: it stands in its rounds, they are on time, and they contain all of its calls, none
of which is made within the first interval. -/
structure Paced (k : KeepAlive) (delay : Nat) (c : Course Probe Request) : Prop where
  /-- The probe stands in its rounds. -/
  stage : Stage k.interval c.state.phase c.state.tick c.now (rounds c)
  /-- Each of them is on time. -/
  onTime : Lawful (OnTime k.interval) (rounds c)
  /-- Its calls are those in its rounds. -/
  calls : c.calls (activity k delay) = ((rounds c).flatMap Round.calls).map (·, .keepAlive)
  /-- None is made within the first interval. -/
  first : ∀ t ∈ (rounds c).flatMap Round.calls, k.interval ≤ t

/-- **The event that is due keeps the pace.** -/
theorem paced_advance {c : Course Probe Request} (hc : c.cancelled = false) (h : Paced k delay c) :
    Paced k delay (advance k delay c) := by
  rcases advance_cases k delay hc with hsame | ⟨t, e, p, calls, hm, he, ht, hnext⟩
  · rwa [hsame]
  have hrounds : rounds (advance k delay c) = Round.extend (rounds c) t e calls := by rw [hnext, rounds_record]
  obtain ⟨hstage, honTime⟩ := stage_move h.stage h.onTime hm he ht
  refine ⟨?_, ?_, ?_, ?_⟩
  · rw [hrounds, hnext]
    exact hstage
  · rwa [hrounds]
  · have hcalls : calls.filterMap (activity k delay).request? = calls := List.filterMap_some
    have hkind : calls.map (t, ·) = calls.map fun _ => (t, .keepAlive) :=
      List.map_congr_left fun r hr => by rw [(eq_of_call hm hr).1]
    rw [hrounds, hnext, Course.calls_record, hcalls, h.calls, Round.calls_extend, List.map_append, List.map_map, hkind]
    rfl
  · intro u hu
    rw [hrounds, Round.calls_extend, List.mem_append] at hu
    rcases hu with hu | hu
    · exact h.first u hu
    · -- a call is made now, and at the probe's turn
      obtain ⟨r, hr, rfl⟩ := List.mem_map.1 hu
      have hp := (eq_of_call hm hr).2
      have htu : t = c.now := by
        rw [wait, hp] at ht
        exact ht
      rw [htu]
      exact (hp ▸ h.stage).le_of_poised

/-- **Every course keeps the pace.** -/
theorem paced_course (k : KeepAlive) (delay : Nat) (script : Script) (n : Nat) :
    Paced k delay (course k delay script n) := by
  induction n with
  | zero => exact ⟨.beginning, lawful_nil, rfl, List.forall_mem_nil _⟩
  | succ n ih => exact paced_advance (cancelled_course script n) ih

/-- After the first tick a probe rests. -/
theorem advance_beginning (k : KeepAlive) (delay : Nat) {c : Course Probe Request} (hp : c.state.phase = .beginning) :
    (advance k delay c).state.phase = .resting ∧ rounds (advance k delay c) = rounds c := by
  obtain ⟨⟨phase, tick, f⟩, services, inbox, now, cancelled, listened, past⟩ := c
  cases hp
  exact ⟨rfl, rounds_record now .turn ⟨.resting, now + k.interval, f⟩ [] _⟩

/-- After any other tick it is about to probe. -/
theorem advance_resting (k : KeepAlive) (delay : Nat) {c : Course Probe Request} (hp : c.state.phase = .resting) :
    (advance k delay c).state.phase = .probing .poised ∧ rounds (advance k delay c) = rounds c := by
  obtain ⟨⟨phase, tick, f⟩, services, inbox, now, cancelled, listened, past⟩ := c
  cases hp
  exact ⟨rfl, rounds_record (max now tick) .elapsed
    ⟨.probing .poised, nextTick k.interval tick (max now tick), f⟩ [] _⟩

/-- Then it begins a round, if the last one is over. -/
theorem advance_poised {c : Course Probe Request} (hp : c.state.phase = .probing .poised) {u : Nat}
    (ho : over? (rounds c) = some u) : rounds (advance k delay c) = rounds c ++ [{ start := c.now }] := by
  obtain ⟨⟨phase, tick, f⟩, services, inbox, now, cancelled, listened, past⟩ := c
  cases hp
  refine (rounds_record now .turn ⟨.probing .attempting, tick, f⟩ [.keepAlive] _).trans ?_
  exact Round.call_of_over ho now

/-- **A round that begins is on time.** -/
theorem rounds_succ_of_poised {script : Script} {n u : Nat}
    (hp : (course k delay script n).state.phase = .probing .poised)
    (ho : over? (rounds (course k delay script n)) = some u) :
    rounds (course k delay script (n + 1)) = rounds (course k delay script n)
      ++ [{ start := max u (scheduled k.interval (rounds (course k delay script n))) }] := by
  have hstage := (paced_course k delay script n).stage
  rw [hp] at hstage
  cases hstage with
  | poised ho' hnow htick =>
      cases ho.symm.trans ho'
      rw [course, advance_poised hp ho, hnow]
  | underWay ho' => cases ho.symm.trans ho'

/-- A probe that rests begins another round on time. -/
theorem rounds_add_two_of_resting {script : Script} {n u : Nat}
    (hp : (course k delay script n).state.phase = .resting)
    (ho : over? (rounds (course k delay script n)) = some u) :
    rounds (course k delay script (n + 2)) = rounds (course k delay script n)
      ++ [{ start := max u (scheduled k.interval (rounds (course k delay script n))) }] := by
  obtain ⟨hpoised, hsame⟩ := advance_resting k delay hp
  change rounds (course k delay script (n + 1)) = _ at hsame
  rw [← hsame]
  exact rounds_succ_of_poised hpoised (hsame ▸ ho)

/-- **Another round follows** once the last one is over, unless probing has ended. -/
theorem exists_rounds_concat {script : Script} {n u : Nat}
    (hr : (course k delay script n).state.result? = none)
    (ho : over? (rounds (course k delay script n)) = some u) :
    ∃ m, rounds (course k delay script (n + m)) = rounds (course k delay script n)
      ++ [{ start := max u (scheduled k.interval (rounds (course k delay script n))) }] := by
  -- up to the call there are three events to go, or two, or one
  have hstage := (paced_course k delay script n).stage
  cases hp : (course k delay script n).state.phase with
  | beginning =>
      obtain ⟨hresting, hsame⟩ := advance_beginning k delay hp
      change rounds (course k delay script (n + 1)) = _ at hsame
      refine ⟨3, ?_⟩
      rw [← hsame]
      exact rounds_add_two_of_resting hresting (hsame ▸ ho)
  | resting => exact ⟨2, rounds_add_two_of_resting hp ho⟩
  | probing attempt =>
      rw [hp] at hstage
      cases hstage with
      | poised => exact ⟨1, rounds_succ_of_poised hp ho⟩
      | underWay ho' => cases ho.symm.trans ho'
  | finished exit => cases hr.symm.trans (result?_eq_some.2 hp)

/-- **Rounds never burst.** Let probing begin at an instant `0`, with any interval, threshold and retry delay, and let
the daemon reply as it may, after any delays and with calls that fail in transport among the replies. Whatever the
probe has come to:

* its calls are those in its rounds, and none is made within the first interval;
* each round begins when the one before it is over or its tick has come, whichever is later; and the tick is one
  interval after that of the round before, or one interval after the beginning of that round if it began more than the
  tolerance after its tick;
* two rounds that follow one another begin an interval apart, but for the tolerance;
* once the last round is over another one begins, unless probing has ended. -/
theorem rounds_of_course (k : KeepAlive) (delay : Nat) (script : Script) (n : Nat) :
    (course k delay script n).calls (activity k delay)
        = ((rounds (course k delay script n)).flatMap Round.calls).map (·, .keepAlive) ∧
      (∀ call ∈ (course k delay script n).calls (activity k delay), k.interval ≤ call.1) ∧
      Lawful (OnTime k.interval) (rounds (course k delay script n)) ∧
      (∀ before r s after, rounds (course k delay script n) = before ++ r :: s :: after →
        r.start + k.interval ≤ s.start + tolerance) ∧
      ((course k delay script n).state.result? = none → ∀ u, over? (rounds (course k delay script n)) = some u →
        ∃ m, rounds (course k delay script (n + m)) = rounds (course k delay script n)
          ++ [{ start := max u (scheduled k.interval (rounds (course k delay script n))) }]) := by
  have h := paced_course k delay script n
  refine ⟨h.calls, ?_, h.onTime, ?_, ?_⟩
  · intro call hcall
    rw [h.calls] at hcall
    obtain ⟨t, ht, rfl⟩ := List.mem_map.1 hcall
    exact h.first t ht
  · intro before r s after hrounds
    exact start_add_le h.onTime hrounds
  · intro hr u ho
    exact exists_rounds_concat hr ho

/-- A script by which the first call is lost, its repetition is answered late, and so is the next call. -/
def slow : Script :=
  [(.keepAlive, [{ delay := 12, answer := some (.failed ⟨.unavailable, "lost"⟩) },
    { delay := 33, answer := some (.response (.outcome crowded)) },
    { delay := 15, answer := some (.response (.outcome crowded)) }])]

/-- The first round lasts until several ticks have passed. The second begins when it is over, and lasts until just within
the tolerance after the next tick: the third begins late, and the fourth as if it had not. -/
theorem rounds_of_course_slow :
    rounds (course ⟨10, 9⟩ 5 slow 13) = [⟨10, [27], some 60⟩, ⟨60, [], some 75⟩, ⟨75, [], some 75⟩] ∧
      ∃ m, rounds (course ⟨10, 9⟩ 5 slow (13 + m))
        = [⟨10, [27], some 60⟩, ⟨60, [], some 75⟩, ⟨75, [], some 75⟩, ⟨80, [], none⟩] := by
  have hrounds : rounds (course ⟨10, 9⟩ 5 slow 13)
      = [⟨10, [27], some 60⟩, ⟨60, [], some 75⟩, ⟨75, [], some 75⟩] := by decide +kernel
  have hr : (course ⟨10, 9⟩ 5 slow 13).state.result? = none := by decide +kernel
  obtain ⟨-, -, -, -, hnext⟩ := rounds_of_course ⟨10, 9⟩ 5 slow 13
  obtain ⟨m, hm⟩ := hnext hr 75 (by rw [hrounds]; rfl)
  refine ⟨hrounds, m, ?_⟩
  rw [hm, hrounds]
  rfl

end NetworkAgent.Probe
