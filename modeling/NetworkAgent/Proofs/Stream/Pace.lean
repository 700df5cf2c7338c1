import NetworkAgent.Proofs.Stream.Handles

/-! # The pace of a pump

Whatever the daemon does, it is not asked for the same thing at short intervals: every way by which a pump comes
back to a call, for a handle or for a stream, leads through a pause.

* **`Pump.Demand`** — what a pump asks for again and again.
* **`Pump.Phase.earliest?`** — the earliest instant at which a demand can be made again, by what the pump is doing:
  at once, when its pause is over, or a whole pause from now if one has to come first.
* `Pump.earliest_of_move`, `Pump.earliest_of_call` — a move never brings that instant nearer, and a call puts it off
  by a pause.
* **`Pump.pairwise_log_of_reachable`** — any two calls for a stream, and any two calls for a handle, are a retry
  delay apart. -/

namespace NetworkAgent.Pump

open Message

variable {α : Type} {sel : Selector α} {delay : Nat}

/-! ## Demands -/

/-- **What a pump asks for** again and again. -/
inductive Demand where
  /-- a handle -/
  | handle
  /-- the stream of a handle, whichever it is -/
  | stream
  deriving DecidableEq, Repr

/-- The calls that make a demand. -/
def Demand.Of : Demand → Request → Prop
  | .handle, r => r = Registry.createCall
  | .stream, r => ∃ id, r = .notificationStream id

/-- **The earliest instant at which a pump can make a demand**, by what it is doing at the instant `now`. A pump that
has made it and waits for the answer, or goes on with what it was given, has a whole pause before it. A pump that
has ended makes no demand. -/
def Phase.earliest? (delay now : Nat) : Demand → Phase → Option Nat
  | .handle, phase =>
    match phase with
    | .obtaining .poised => some now
    | .obtaining (.pausing resume) | .stale resume => some resume
    | .stopped => none
    | _ => some (now + delay)
  | .stream, phase =>
    match phase with
    | .opening _ .attempting | .receiving _ => some (now + delay)
    | .obtaining (.pausing resume) | .opening _ (.pausing resume) => some resume
    | .stale resume | .backingOff _ resume => some resume
    | .stopped => none
    | _ => some now

/-- The earliest instant of a demand does not come nearer as time passes. -/
theorem earliest_of_le {now t : Nat} (ht : now ≤ t) {phase : Phase} {d : Demand} {b : Nat}
    (hb : phase.earliest? delay t d = some b) : ∃ a, phase.earliest? delay now d = some a ∧ a ≤ b := by
  cases d with
  | handle =>
      cases phase with
      | obtaining r => cases r <;> cases hb <;> exact ⟨_, rfl, by omega⟩
      | _ => cases hb <;> exact ⟨_, rfl, by omega⟩
  | stream =>
      cases phase with
      | obtaining r => cases r <;> cases hb <;> exact ⟨_, rfl, by omega⟩
      | opening id r => cases r <;> cases hb <;> exact ⟨_, rfl, by omega⟩
      | _ => cases hb <;> exact ⟨_, rfl, by omega⟩

/-- **A move brings no demand nearer.** What a pump can demand after it, it could not have demanded later before. -/
theorem earliest_of_move {listened : Bool} {now t : Nat} (ht : now ≤ t) {p q : Pump} {e : Event}
    {outputs : List (Output α)} (hm : Move sel delay listened t p e q outputs) {d : Demand} {b : Nat}
    (hb : q.phase.earliest? delay t d = some b) :
    ∃ a, p.phase.earliest? delay now d = some a ∧ a ≤ b := by
  cases hm with
  | deliver | skip => exact earliest_of_le ht hb
  | stop => cases d <;> cases hb
  | desert => cases d <;> cases hb
  | _ => cases d <;> cases hb <;> exact ⟨_, rfl, by omega⟩

/-- **A call puts its demand off by a pause.** It could be made at its instant, and not again before a pause is over. -/
theorem earliest_of_call {listened : Bool} {now t : Nat} (ht : now ≤ t) {p q : Pump} {e : Event}
    {outputs : List (Output α)} (hm : Move sel delay listened t p e q outputs) {d : Demand} {r : Request}
    (hr : r ∈ outputs.filterMap Output.request?) (hd : d.Of r) :
    (∃ a, p.phase.earliest? delay now d = some a ∧ a ≤ t) ∧
      q.phase.earliest? delay t d = some (t + delay) := by
  cases hm with
  | ask =>
      obtain rfl := List.mem_singleton.1 hr
      cases d with
      | handle => exact ⟨⟨now, rfl, ht⟩, rfl⟩
      | stream =>
          obtain ⟨id, hid⟩ := hd
          cases hid
  | granted h =>
      -- the call that puts the topic on the handle makes neither demand
      obtain rfl := List.mem_singleton.1 hr
      cases d with
      | handle => exact absurd hd (Request.addition_ne_creation _ sel.topic.subscription)
      | stream =>
          obtain ⟨id, hid⟩ := hd
          cases hid
  | connect =>
      obtain rfl := List.mem_singleton.1 hr
      cases d with
      | handle => cases hd
      | stream => exact ⟨⟨now, rfl, ht⟩, rfl⟩
  | @subscribed b =>
      cases b <;> cases hr
  | @deliver b id response hl =>
      obtain ⟨o, ho, hcall⟩ := List.mem_filterMap.1 hr
      obtain ⟨n, -, rfl⟩ := List.mem_map.1 ho
      cases hcall
  | _ => cases hr

/-! ## The invariant -/

/-- **Two calls are apart** if they do not make the same demand, or the later one comes a pause after the earlier. -/
def Apart (delay : Nat) (m n : Nat × Request) : Prop := ∀ d : Demand, d.Of m.2 → d.Of n.2 → m.1 + delay ≤ n.1

/-- **A pump is paced** if its calls are apart, and it can make no demand again before a pause is over. -/
structure Paced (sel : Selector α) (delay : Nat) (c : Course Pump (Output α)) : Prop where
  /-- Its calls are apart. -/
  apart : (c.calls (activity sel delay)).Pairwise (Apart delay)
  /-- What it has demanded it can demand again after a pause. -/
  spared : ∀ m ∈ c.calls (activity sel delay), ∀ d : Demand, d.Of m.2 →
    ∀ b, c.state.phase.earliest? delay c.now d = some b → m.1 + delay ≤ b

/-- A call that a paced pump makes with a move is apart from all before it. -/
theorem Paced.apart_of_call {c : Course Pump (Output α)} (h : Paced sel delay c) {t : Nat} (ht : c.now ≤ t)
    {e : Event} {p : Pump} {outputs : List (Output α)} (hm : Move sel delay c.listened t c.state e p outputs)
    {r : Request} (hr : r ∈ outputs.filterMap Output.request?) {m : Nat × Request}
    (hmem : m ∈ c.calls (activity sel delay)) : Apart delay m (t, r) := by
  intro d hd hrd
  obtain ⟨⟨a, ha, hat⟩, -⟩ := earliest_of_call ht hm hr hrd
  exact Nat.le_trans (h.spared m hmem d hd a ha) hat

/-- A move makes at most one call. -/
theorem length_requests_le_one {listened : Bool} {t : Nat} {p q : Pump} {e : Event} {outputs : List (Output α)}
    (hm : Move sel delay listened t p e q outputs) : (outputs.filterMap Output.request?).length ≤ 1 := by
  cases hm with
  | @subscribed b => cases b <;> exact Nat.zero_le 1
  | @deliver b id response hl =>
      have hnone : ((sel.extractAll response).map Output.deliver).filterMap Output.request? = [] := by
        rw [List.filterMap_map]
        exact List.filterMap_eq_nil_iff.2 fun _ _ => rfl
      rw [hnone]
      exact Nat.zero_le 1
  | _ => simp [Output.request?]

/-- **A move keeps a pump paced.** -/
theorem Paced.move {c : Course Pump (Output α)} (h : Paced sel delay c) {t : Nat} (ht : c.now ≤ t) {e : Event}
    {p : Pump} {outputs : List (Output α)} (hm : Move sel delay c.listened t c.state e p outputs) :
    Paced sel delay (c.record (activity sel delay) t e p outputs) := by
  have hcalls : (c.record (activity sel delay) t e p outputs).calls (activity sel delay)
      = c.calls (activity sel delay) ++ (outputs.filterMap Output.request?).map (t, ·) :=
    Course.calls_record (activity sel delay) t e p outputs c
  refine ⟨?_, ?_⟩
  · rw [hcalls, List.pairwise_append]
    refine ⟨h.apart, ?_, ?_⟩
    · have hone := length_requests_le_one hm
      match outputs.filterMap Output.request?, hone with
      | [], _ => exact List.Pairwise.nil
      | [r], _ => exact List.pairwise_singleton _ _
    · intro m hmem n hn
      obtain ⟨r, hr, rfl⟩ := List.mem_map.1 hn
      exact h.apart_of_call ht hm hr hmem
  · intro m hmem d hd b hb
    rw [hcalls, List.mem_append] at hmem
    rcases hmem with hmem | hmem
    · -- what was demanded before has not come nearer
      obtain ⟨a, ha, hab⟩ := earliest_of_move ht hm hb
      exact Nat.le_trans (h.spared m hmem d hd a ha) hab
    · -- what is demanded now has been put off
      obtain ⟨r, hr, rfl⟩ := List.mem_map.1 hmem
      have hnext := (earliest_of_call ht hm hr hd).2
      cases hnext.symm.trans hb
      exact Nat.le_refl _

/-- A pump is paced in every reachable course. -/
theorem paced_of_reachable {p : Pump} {script : Script} {c : Course Pump (Output α)}
    (h : Course.Reachable (activity sel delay) (Course.start p script) c) : Paced sel delay c := by
  refine h.invariant (P := Paced sel delay) ⟨List.Pairwise.nil, nofun⟩ ?_
  intro c d hc hs
  rcases step_cases hs with ⟨t, e, p, outputs, ht, -, hm, rfl⟩ | ⟨ht, hstate, -, hpast, -⟩
  · exact hc.move ht hm
  · -- nothing but time has passed for the pump
    have hcalls : d.calls (activity sel delay) = c.calls (activity sel delay) := by
      rw [Course.calls, Course.log, hpast, ← Course.log, ← Course.calls]
    refine ⟨hcalls ▸ hc.apart, ?_⟩
    intro m hmem demand hd b hb
    rw [hcalls] at hmem
    rw [hstate] at hb
    obtain ⟨a, ha, hab⟩ := earliest_of_le ht hb
    exact Nat.le_trans (hc.spared m hmem demand hd a ha) hab

/-! ## Calls in time -/

/-- **A pump does not hammer the daemon.** Whether the pump is to obtain its first handle or has one, whatever the
services answer or leave unanswered, whenever, and whether its streams yield anything or end at once: in the log of a
reachable course, any two calls for a stream, of whatever handles, are at least the retry delay apart, and so are
any two calls for a handle. -/
theorem pairwise_log_of_reachable {first : Option UInt64} {script : Script} {c : Course Pump (Output α)}
    (h : Course.Reachable (activity sel delay) (Course.start (begin first) script) c) :
    (c.log (activity sel delay)).Pairwise fun d e =>
      ((∃ id, d.request = .notificationStream id) → (∃ id, e.request = .notificationStream id) →
          d.time + delay ≤ e.time)
        ∧ (d.request = Registry.createCall → e.request = Registry.createCall → d.time + delay ≤ e.time) := by
  have happart : (c.log (activity sel delay)).Pairwise fun d e =>
      Apart delay (d.time, d.request) (e.time, e.request) := List.pairwise_map.1 (paced_of_reachable h).apart
  refine happart.imp ?_
  intro d e hde
  exact ⟨hde .stream, hde .handle⟩

/-- A script by which the daemon grants every handle, and at first does not know the handles that it has granted. -/
def forgetful : Script :=
  [(.notificationStream,
    [{ answer := some (.failed ⟨.notFound, "gone"⟩) }, { answer := some (.failed ⟨.notFound, "gone"⟩) }])]

/-- The events of a pump to which `forgetful` happens. -/
def forgetfulSchedule : List (Nat × Event) :=
  [(0, .turn), (0, .answered (.response (.stream {}))), (0, .answered (.response (.stream {}))),
   (0, .turn), (0, .answered (.failed ⟨.notFound, "gone"⟩)), (5, .elapsed),
   (5, .turn), (5, .answered (.response (.stream {}))), (5, .answered (.response (.stream {}))), (5, .turn)]

/-- The pump of a forgetful daemon asks for another handle, and for the stream of that, when its pause is over. -/
theorem pairwise_log_forgetful :
    ∃ (c : Course Pump (Output ConfigNotification)) (create subscribe stream create' subscribe' stream' : Dealing),
      Course.Reachable (activity .config 5) (Course.start (begin none) forgetful) c ∧
        c.log (activity .config 5) = [create, subscribe, stream, create', subscribe', stream'] ∧
        create.time + 5 ≤ create'.time ∧ stream.time + 5 ≤ stream'.time := by
  have hs : (Course.start (begin none) forgetful).Suits (activity Selector.config 5) forgetfulSchedule :=
    ⟨Nat.le_refl _, .turn rfl rfl, Nat.le_refl _, .answered rfl rfl rfl, Nat.le_refl _, .answered rfl rfl rfl,
      Nat.le_refl _, .turn rfl rfl, Nat.le_refl _, .answered rfl rfl rfl,
      Nat.zero_le _, .elapsed rfl rfl (Nat.le_refl _), Nat.le_refl _, .turn rfl rfl,
      Nat.le_refl _, .answered rfl rfl rfl, Nat.le_refl _, .answered rfl rfl rfl,
      Nat.le_refl _, .turn rfl rfl, trivial⟩
  have hr := Course.reachable_follow hs
  let c := (Course.start (begin none) forgetful).follow (activity Selector.config 5) forgetfulSchedule
  let granted : Option Answer := some (.response (.stream {}))
  let gone : Option Answer := some (.failed ⟨.notFound, "gone"⟩)
  let create (t : Nat) : Dealing := ⟨t, Registry.createCall, granted⟩
  let subscribe (t : Nat) : Dealing := ⟨t, Registry.subscribeCall 0 .config, granted⟩
  let stream (t : Nat) (a : Option Answer) : Dealing := ⟨t, .notificationStream 0, a⟩
  have hlog : c.log (activity .config 5)
      = [create 0, subscribe 0, stream 0 gone, create 5, subscribe 5, stream 5 none] := rfl
  have hp := pairwise_log_of_reachable hr
  rw [show _ = _ from hlog] at hp
  refine ⟨c, create 0, subscribe 0, stream 0 gone, create 5, subscribe 5, stream 5 none, hr, hlog, ?_, ?_⟩
  · exact (List.rel_of_pairwise_cons hp (by simp)).2 rfl rfl
  · exact (List.rel_of_pairwise_cons hp.tail.tail (by simp)).1 ⟨0, rfl⟩ ⟨0, rfl⟩

end NetworkAgent.Pump
