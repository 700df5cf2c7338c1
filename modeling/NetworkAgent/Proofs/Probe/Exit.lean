import Mathlib.Data.List.Infix
import NetworkAgent.Proofs.Probe.Moves

/-! # When probing ends

Probing ends with the answer that makes the failures in a row as many as the threshold says, and with no other.
Calls that fail in transport have no part in this: they are neither failures of the daemon nor do they interrupt a
row of such failures.

* **`Probe.outcomes`** — the outcomes of the answered probes in a log.
* **`Probe.FailsLast`** — the last so many outcomes all report a failure; **`Probe.streak`** says how many do in a row,
  and `le_streak_iff` relates the two.
* **`Probe.Counts`** — the invariant of a probe's course: its counter is the length of the streak, which has not
  reached the limit unless probing has ended. `counts_move` is its step.
* **`Probe.exits_of_reachable`** — what a probe has come to in any reachable course. -/

namespace NetworkAgent.Probe

open Message

/-! ## Outcomes -/

/-- The outcomes of the answered probes, in order. A call that failed in transport has none. -/
def outcomes (log : List Dealing) : List Outcome := log.filterMap fun d => d.answer.bind outcome?

/-- **The last `n` outcomes all report a failure**, and there are that many. -/
def FailsLast (n : Nat) (os : List Outcome) : Prop :=
  ∃ last, last <:+ os ∧ last.length = n ∧ ∀ o ∈ last, o.isSuccess = false

/-- How many outcomes report a failure after the last success. -/
def streak (os : List Outcome) : Nat := (os.reverse.takeWhile fun o => !o.isSuccess).length

/-- How many failures in a row put an end to probing: as many as the threshold says, and at least one. -/
def limit (k : KeepAlive) : Nat := max k.threshold.toNat 1

/-- A call that is not answered adds no outcome. -/
theorem outcomes_concat_none (log : List Dealing) (t : Nat) (r : Request) :
    outcomes (log ++ [⟨t, r, none⟩]) = outcomes log := by
  rw [outcomes, List.filterMap_append, ← outcomes]
  exact List.append_nil _

/-- Events that bring no answer, and the calls made then, add no outcome. -/
theorem outcomes_extend {e : Event} (he : ∀ a, e ≠ .answered a) (log : List Dealing) (t : Nat) (calls : List Request) :
    outcomes (Dealing.extend log t e calls) = outcomes log := by
  have hlog : Dealing.settle log e = log := by
    cases e with
    | answered a => exact absurd rfl (he a)
    | _ => rfl
  have hcalls : (calls.map (⟨t, ·, none⟩)).filterMap (fun d : Dealing => d.answer.bind outcome?) = [] := by
    rw [List.filterMap_map]
    exact List.filterMap_eq_nil_iff.2 fun r hr => rfl
  rw [Dealing.extend, hlog, outcomes, List.filterMap_append, hcalls, List.append_nil, ← outcomes]

/-- An answered call adds the outcome in its answer. -/
theorem outcomes_concat_some (log : List Dealing) (t : Nat) (r : Request) (a : Answer) :
    outcomes (log ++ [⟨t, r, some a⟩]) = outcomes log ++ (outcome? a).toList := by
  rw [outcomes, List.filterMap_append, ← outcomes]
  cases h : outcome? a <;> simp [h]

/-- There is no streak without outcomes. -/
@[simp] theorem streak_nil : streak [] = 0 := rfl

/-- A success ends a streak. -/
theorem streak_concat_success {o : Outcome} (ho : o.isSuccess = true) (os : List Outcome) :
    streak (os ++ [o]) = 0 := by
  simp [streak, ho]

/-- A failure makes a streak longer. -/
theorem streak_concat_failure {o : Outcome} (ho : o.isSuccess = false) (os : List Outcome) :
    streak (os ++ [o]) = streak os + 1 := by
  simp [streak, ho]

/-- **The last outcomes all report a failure** just if they are no more than the streak. -/
theorem le_streak_iff {n : Nat} {os : List Outcome} : n ≤ streak os ↔ FailsLast n os := by
  induction os using List.reverseRecOn generalizing n with
  | nil =>
      rw [streak_nil, Nat.le_zero]
      constructor
      · rintro rfl
        exact ⟨[], List.suffix_rfl, rfl, nofun⟩
      · rintro ⟨last, hlast, rfl, -⟩
        rw [List.suffix_nil.1 hlast, List.length_nil]
  | append_singleton os o ih =>
      cases ho : o.isSuccess with
      | true =>
          rw [streak_concat_success ho, Nat.le_zero]
          constructor
          · rintro rfl
            exact ⟨[], List.nil_suffix, rfl, nofun⟩
          · rintro ⟨last, hlast, rfl, hfail⟩
            rcases List.suffix_concat_iff.1 hlast with rfl | ⟨rest, rfl, -⟩
            · rfl
            · -- the last outcome would be a failure and a success
              have ho' := hfail o (List.mem_append_right rest (List.mem_singleton_self o))
              cases ho.symm.trans ho'
      | false =>
          rw [streak_concat_failure ho]
          cases n with
          | zero => exact iff_of_true (Nat.zero_le _) ⟨[], List.nil_suffix, rfl, nofun⟩
          | succ n =>
              rw [Nat.succ_le_succ_iff, ih]
              constructor
              · rintro ⟨last, hlast, rfl, hfail⟩
                refine ⟨last ++ [o], List.suffix_concat_iff.2 (Or.inr ⟨last, rfl, hlast⟩), by simp, ?_⟩
                intro p hp
                rcases List.mem_append.1 hp with hp | hp
                · exact hfail p hp
                · rwa [List.mem_singleton.1 hp]
              · rintro ⟨last, hlast, hlen, hfail⟩
                rcases List.suffix_concat_iff.1 hlast with rfl | ⟨rest, rfl, hrest⟩
                · cases hlen
                · refine ⟨rest, hrest, by simpa using hlen, ?_⟩
                  exact fun p hp => hfail p (List.mem_append_left [o] hp)

/-! ## Counting -/

variable {k : KeepAlive} {delay : Nat}

/-- **A probe counts** if its counter is the length of the streak, no part of the outcomes had a streak as long as the
limit, and the streak is that long just if probing has ended for it. -/
structure Counts (k : KeepAlive) (os : List Outcome) (p : Probe) : Prop where
  /-- The counter is the length of the streak. -/
  failures_eq : p.failures.toNat = streak os
  /-- Probing does not end before the streak is as long as the limit. -/
  reached : p.phase = .finished .thresholdReached → limit k ≤ streak os
  /-- Probing ends when the streak is as long as the limit. -/
  below : p.phase ≠ .finished .thresholdReached → streak os < limit k
  /-- The streak was not as long before. -/
  first : ∀ before, before <+: os → before ≠ os → streak before < limit k

/-- A counter below the limit can go on counting. -/
theorem toNat_add_one {f : UInt32} (hf : f.toNat < limit k) : (f + 1).toNat = f.toNat + 1 := by
  have hk : k.threshold.toNat < 2 ^ 32 := k.threshold.toNat_lt
  have hlt : f.toNat + 1 < 2 ^ 32 := by
    rw [limit] at hf
    omega
  rw [UInt32.toNat_add]
  exact Nat.mod_eq_of_lt hlt

/-- A probe counts as long as it has not ended and its counter is left alone. -/
theorem Counts.of_failures_eq {os : List Outcome} {p q : Probe} (h : Counts k os p)
    (hp : p.phase ≠ .finished .thresholdReached) (hq : q.phase ≠ .finished .thresholdReached)
    (hf : q.failures = p.failures) : Counts k os q where
  failures_eq := hf ▸ h.failures_eq
  reached hr := absurd hr hq
  below _ := h.below hp
  first := h.first

/-- **A probe counts an outcome.** -/
theorem Counts.count {os : List Outcome} {p : Probe} (h : Counts k os p)
    (hp : p.phase ≠ .finished .thresholdReached) (o : Outcome) : Counts k (os ++ [o]) (p.count k o) := by
  have hbelow : streak os < limit k := h.below hp
  have hfirst : ∀ before, before <+: os ++ [o] → before ≠ os ++ [o] → streak before < limit k := by
    intro before hbefore hne
    -- a proper part of the outcomes is a part of the earlier ones
    have hos : before <+: os := (List.prefix_concat_iff.1 hbefore).resolve_left hne
    by_cases heq : before = os
    · rwa [heq]
    · exact h.first before hos heq
  rw [Probe.count]
  cases ho : o.isSuccess with
  | true =>
      have hzero : streak (os ++ [o]) = 0 := streak_concat_success ho os
      rw [if_pos rfl]
      refine ⟨hzero.symm, nofun, fun _ => ?_, hfirst⟩
      rw [hzero]
      exact Nat.zero_lt_of_lt hbelow
  | false =>
      have hsucc : streak (os ++ [o]) = streak os + 1 := streak_concat_failure ho os
      have hcount : (p.failures + 1).toNat = streak (os ++ [o]) := by
        rw [toNat_add_one (h.failures_eq ▸ hbelow), h.failures_eq, hsucc]
      -- the threshold is compared with the counter, which is the length of the streak
      have hle : k.threshold ≤ p.failures + 1 ↔ limit k ≤ streak (os ++ [o]) := by
        rw [UInt32.le_iff_toNat_le, hcount, limit, hsucc]
        omega
      rw [if_neg Bool.false_ne_true]
      by_cases hk : k.threshold ≤ p.failures + 1
      · simp only [if_pos hk]
        exact ⟨hcount, fun _ => hle.1 hk, fun hne => absurd rfl hne, hfirst⟩
      · simp only [if_neg hk]
        exact ⟨hcount, nofun, fun _ => Nat.lt_of_not_le fun hl => hk (hle.2 hl), hfirst⟩

/-- Once a probe has counted an outcome, it rests, or probing has ended. -/
theorem phase_count (k : KeepAlive) (p : Probe) (o : Outcome) :
    (p.count k o).phase = .resting ∨ (p.count k o).phase = .finished .thresholdReached := by
  by_cases ho : o.isSuccess
  · exact Or.inl (by simp [Probe.count, ho])
  · by_cases hk : k.threshold ≤ p.failures + 1
    · exact Or.inr (by simp [Probe.count, ho, hk])
    · exact Or.inl (by simp [Probe.count, ho, hk])

/-! ## The invariant -/

/-- The call whose answer is waited for is the last one. -/
def Stands (log : List Dealing) (phase : Phase) : Prop :=
  phase = .probing .attempting → ∃ before t, log = before ++ [⟨t, .keepAlive, none⟩]

/-- **A move keeps a probe counting**, and standing at the end of its log. -/
theorem counts_move {t : Nat} {log : List Dealing} {p q : Probe} {e : Event} {calls : List Request}
    (hc : Counts k (outcomes log) p) (hs : Stands log p.phase) (hm : Move k delay t p e q calls) :
    Counts k (outcomes (Dealing.extend log t e calls)) q ∧ Stands (Dealing.extend log t e calls) q.phase := by
  cases hm with
  | begin | tick | askAgain =>
      rw [Dealing.extend_nil]
      exact ⟨hc.of_failures_eq nofun nofun rfl, nofun⟩
  | ask =>
      have hsame := outcomes_extend (e := .turn) nofun log t [.keepAlive]
      rw [hsame]
      exact ⟨hc.of_failures_eq nofun nofun rfl, fun _ => ⟨log, t, rfl⟩⟩
  | @failed tick f a ha =>
      obtain ⟨before, t₀, rfl⟩ := hs rfl
      rw [Dealing.extend_nil, Dealing.settle_answered, outcomes_concat_some, ha, Option.toList_none, List.append_nil]
      rw [outcomes_concat_none] at hc
      exact ⟨hc.of_failures_eq nofun nofun rfl, nofun⟩
  | @counted tick f a o ha =>
      obtain ⟨before, t₀, rfl⟩ := hs rfl
      rw [Dealing.extend_nil, Dealing.settle_answered, outcomes_concat_some, ha, Option.toList_some]
      rw [outcomes_concat_none] at hc
      refine ⟨hc.count nofun o, ?_⟩
      -- what has been counted is not waited for any more
      intro hq
      rcases phase_count k ⟨.probing .attempting, tick, f⟩ o with h | h <;> cases hq.symm.trans h
  | stop hw =>
      have hne : p.phase ≠ .finished .thresholdReached := fun h => hw (by rw [wait, h])
      rw [Dealing.extend_nil]
      exact ⟨hc.of_failures_eq hne nofun rfl, nofun⟩

/-- A probe that has not begun counts. -/
theorem counts_new (k : KeepAlive) : Counts k [] .new where
  failures_eq := rfl
  reached := nofun
  below _ := Nat.lt_of_lt_of_le Nat.zero_lt_one (Nat.le_max_right _ _)
  first _ hbefore hne := absurd (List.prefix_nil.1 hbefore) hne

/-- A probe counts in every reachable course. -/
theorem counts_of_reachable {script : Script} {c : Course Probe Request}
    (h : Course.Reachable (activity k delay) (Course.start .new script) c) :
    Counts k (outcomes (c.log (activity k delay))) c.state ∧ Stands (c.log (activity k delay)) c.state.phase := by
  refine h.invariant (P := fun c => Counts k (outcomes (c.log (activity k delay))) c.state ∧
    Stands (c.log (activity k delay)) c.state.phase) ⟨counts_new k, nofun⟩ ?_
  rintro c d ⟨hc, hs⟩ hstep
  rcases step_cases hstep with ⟨t, e, p, calls, -, hm, rfl⟩ | ⟨hstate, hpast, -⟩
  · have hcalls : calls.filterMap (activity k delay).request? = calls := List.filterMap_some
    rw [Course.log_record, hcalls]
    exact counts_move hc hs hm
  · rw [Course.log, hpast, hstate]
    exact ⟨hc, hs⟩

/-! ## Going on -/

/-- **A probe goes on** unless it has come to the threshold. -/
def GoesOn (p : Probe) : Prop := p.wait = .ended → p.phase = .finished .thresholdReached

/-- A move that is not the cancellation's leads to a probe that goes on. -/
theorem goesOn_move {t : Nat} {p q : Probe} {e : Event} {calls : List Request} (hm : Move k delay t p e q calls)
    (he : e ≠ .cancelled) : GoesOn q := by
  intro hw
  cases hm with
  | stop => exact absurd rfl he
  | @counted tick f a o ha =>
      refine (phase_count k _ o).resolve_left fun h => ?_
      rw [wait, h] at hw
      cases hw
  | _ => cases hw

/-- A probe goes on in every reachable course that is not cancelled. -/
theorem goesOn_of_reachable {script : Script} {c : Course Probe Request}
    (h : Course.Reachable (activity k delay) (Course.start .new script) c) (hlive : c.cancelled = false) :
    GoesOn c.state := by
  refine h.invariant (P := fun c => c.cancelled = false → GoesOn c.state) (fun _ => nofun) ?_ hlive
  intro c d hc hstep hd
  rcases step_cases hstep with ⟨t, e, p, calls, he, hm, rfl⟩ | ⟨hstate, -, hcancelled⟩
  · refine goesOn_move hm ?_
    rintro rfl
    -- nobody is told of a cancellation that has not happened
    cases he with
    | cancelled hc hw => cases hd.symm.trans (Bool.and_eq_true_iff.1 hc).1
  · exact hstate ▸ hc (hcancelled hd)

/-- **A probe asks again**: without another answer it can come to wait for one. -/
def AsksAgain (k : KeepAlive) (delay : Nat) (c : Course Probe Request) : Prop :=
  ∃ d, Course.Reachable (activity k delay) c d ∧ d.cancelled = false ∧ d.state.wait = .answer ∧
    outcomes (d.log (activity k delay)) = outcomes (c.log (activity k delay))

/-- A probe asks again if it does so after an event that brings no answer. -/
theorem AsksAgain.of_take {c : Course Probe Request} {t : Nat} {e : Event} (ht : c.now ≤ t)
    (ho : c.Offers (activity k delay) t e) (he : ∀ a, e ≠ .answered a)
    (h : AsksAgain k delay (c.take (activity k delay) t e)) : AsksAgain k delay c := by
  obtain ⟨d, hreach, hlive, hwait, hlog⟩ := h
  refine ⟨d, .head (.event ht ho) hreach, hlive, hwait, ?_⟩
  rw [hlog, Course.take, Course.log_record, outcomes_extend he]

/-- **A probe that has not ended asks again** unless the session is cancelled. -/
theorem asksAgain_of_wait {c : Course Probe Request} (hlive : c.cancelled = false) (hw : c.state.wait ≠ .ended) :
    AsksAgain k delay c := by
  have told (d : Course Probe Request) (hd : d.cancelled = false) : d.isTold (activity k delay) = false := by
    rw [Course.isTold, hd, Bool.false_and]
  -- a probe asks at its turn
  have poised (d : Course Probe Request) (hd : d.cancelled = false) (hp : d.state.phase = .probing .poised) :
      AsksAgain k delay d := by
    obtain ⟨⟨phase, tick, f⟩, services, inbox, now, cancelled, listened, past⟩ := d
    cases hp
    refine .of_take (Nat.le_refl _) (.turn (told _ hd) rfl) nofun ?_
    exact ⟨_, .refl, hd, rfl, rfl⟩
  -- its turn comes when it has rested
  have resting (d : Course Probe Request) (hd : d.cancelled = false) (hp : d.state.phase = .resting) :
      AsksAgain k delay d := by
    obtain ⟨⟨phase, tick, f⟩, services, inbox, now, cancelled, listened, past⟩ := d
    cases hp
    refine .of_take (Nat.le_max_left now tick) (.elapsed (told _ hd) rfl (Nat.le_max_right now tick)) nofun ?_
    exact poised _ hd rfl
  obtain ⟨⟨phase, tick, f⟩, services, inbox, now, cancelled, listened, past⟩ := c
  cases phase with
  | beginning =>
      refine .of_take (Nat.le_refl _) (.turn (told _ hlive) rfl) nofun ?_
      exact resting _ hlive rfl
  | resting => exact resting _ hlive rfl
  | probing r =>
      cases r with
      | poised => exact poised _ hlive rfl
      | attempting => exact ⟨_, .refl, hlive, rfl, rfl⟩
      | pausing resume =>
          refine .of_take (Nat.le_max_left now resume) (.elapsed (told _ hlive) rfl (Nat.le_max_right now resume))
            nofun ?_
          exact poised _ hlive rfl
      | done o => exact absurd rfl hw
      | cancelled => exact absurd rfl hw
  | finished exit => exact absurd rfl hw

/-! ## The exit -/

/-- How probing has ended, as its phase says. -/
theorem result?_eq_some {p : Probe} {exit : ProbeExit} : p.result? = some exit ↔ p.phase = .finished exit := by
  obtain ⟨phase, tick, f⟩ := p
  cases phase with
  | finished exit' => simp [result?]
  | _ => exact ⟨nofun, nofun⟩

/-- **When probing ends.** Let the daemon answer the probes as it may, with calls that fail in transport among them,
and let time pass as it may. In every reachable course:

* probing has come to the threshold just if the last answers report failures, as many as the threshold says and at
  least one; and this was so of the answers before for no part of them, so that it is the first such answer that
  ends it;
* the counter is the number of failures in a row;
* without a cancellation probing does not end in any other way, and while it has not ended it goes on to ask again;
* once it has ended no call is made. -/
theorem exits_of_reachable {script : Script} {c : Course Probe Request}
    (h : Course.Reachable (activity k delay) (Course.start .new script) c) :
    (c.state.result? = some .thresholdReached ↔
        FailsLast (max k.threshold.toNat 1) (outcomes (c.log (activity k delay)))) ∧
      (∀ before, before <+: outcomes (c.log (activity k delay)) → before ≠ outcomes (c.log (activity k delay)) →
        ¬ FailsLast (max k.threshold.toNat 1) before) ∧
      c.state.failures.toNat = streak (outcomes (c.log (activity k delay))) ∧
      (c.cancelled = false → c.state.result? ≠ some .cancelled) ∧
      (c.cancelled = false → c.state.result? = none → AsksAgain k delay c) ∧
      (c.state.result?.isSome → ∀ d, Course.Reachable (activity k delay) c d →
        d.calls (activity k delay) = c.calls (activity k delay)) := by
  have hc := (counts_of_reachable h).1
  refine ⟨?_, ?_, hc.failures_eq, ?_, ?_, ?_⟩
  · rw [result?_eq_some, ← le_streak_iff]
    refine ⟨hc.reached, fun hl => ?_⟩
    by_contra hne
    exact Nat.not_lt.2 hl (hc.below hne)
  · intro before hbefore hne hfails
    exact Nat.not_lt.2 (le_streak_iff.2 hfails) (hc.first before hbefore hne)
  · intro hlive hr
    have hp := result?_eq_some.1 hr
    have hw : c.state.wait = .ended := by rw [wait, hp]
    cases hp.symm.trans (goesOn_of_reachable h hlive hw)
  · intro hlive hr
    refine asksAgain_of_wait hlive fun hw => ?_
    cases hr.symm.trans (result?_eq_some.2 (goesOn_of_reachable h hlive hw))
  · intro hr d hd
    obtain ⟨exit, hexit⟩ := Option.isSome_iff_exists.1 hr
    have hw : (activity k delay).wait c.state = .ended := by
      change c.state.wait = .ended
      rw [wait, result?_eq_some.1 hexit]
    rw [Course.calls, Course.calls, Course.log, Course.log, (hd.of_ended hw).2]

/-- The outcome of a daemon that has no room. -/
def crowded : Outcome := ⟨1, "no room"⟩

/-- A script by which the daemon has no room, the call after that is lost, and the daemon still has no room. -/
def flaky : Script :=
  [(.keepAlive, [{ answer := some (.response (.outcome crowded)) }, { answer := some (.failed ⟨.unavailable, "lost"⟩) },
    { answer := some (.response (.outcome crowded)) }])]

/-- The events of a probe to which `flaky` happens. -/
def flakySchedule : List (Nat × Event) :=
  [(0, .turn), (10, .elapsed), (10, .turn), (10, .answered (.response (.outcome crowded))),
   (20, .elapsed), (20, .turn), (20, .answered (.failed ⟨.unavailable, "lost"⟩)),
   (25, .elapsed), (25, .turn), (25, .answered (.response (.outcome crowded)))]

/-- A lost call between two failures does not keep them from being two in a row. -/
theorem exits_flaky :
    ∃ c : Course Probe Request,
      Course.Reachable (activity ⟨10, 2⟩ 5) (Course.start .new flaky) c ∧
        outcomes (c.log (activity ⟨10, 2⟩ 5)) = [crowded, crowded] ∧ c.calls (activity ⟨10, 2⟩ 5)
          = [(10, .keepAlive), (20, .keepAlive), (25, .keepAlive)] ∧
        c.state.result? = some .thresholdReached := by
  have hs : (Course.start .new flaky).Suits (activity ⟨10, 2⟩ 5) flakySchedule :=
    ⟨Nat.le_refl _, .turn rfl rfl, Nat.zero_le _, .elapsed rfl rfl (Nat.le_refl _),
      Nat.le_refl _, .turn rfl rfl, Nat.le_refl _, .answered rfl rfl rfl,
      by decide, .elapsed rfl rfl (Nat.le_refl _), Nat.le_refl _, .turn rfl rfl, Nat.le_refl _, .answered rfl rfl rfl,
      by decide, .elapsed rfl rfl (Nat.le_refl _), Nat.le_refl _, .turn rfl rfl,
      Nat.le_refl _, .answered rfl rfl rfl, trivial⟩
  have hr := Course.reachable_follow hs
  let c := (Course.start .new flaky).follow (activity ⟨10, 2⟩ 5) flakySchedule
  have hos : outcomes (c.log (activity ⟨10, 2⟩ 5)) = [crowded, crowded] := by decide +kernel
  have hfails : FailsLast 2 [crowded, crowded] := ⟨[crowded, crowded], List.suffix_rfl, rfl, by decide⟩
  refine ⟨c, hr, hos, by decide +kernel, (exits_of_reachable hr).1.2 ?_⟩
  rwa [show outcomes _ = _ from hos]

end NetworkAgent.Probe
