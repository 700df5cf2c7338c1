import Mathlib.Data.List.Range
import Mathlib.Data.Nat.Find
import Mathlib.Logic.Relation
import Mathlib.Order.Monotone.Basic
import Mathlib.Tactic.IntervalCases
import NetworkAgent.Retry

/-! # Trying again in time

`Retry.step` says what an event does, and leaves it open when events happen. Here an attempt is repeated under given
conditions: how long each attempt takes and how it ends, if it does, and when the session is cancelled, if it is.
Events are taken as soon as they are due, so that the conditions determine everything that happens.

* **`Conditions`**, **`Trial`** — what is given, and how far it has come; **`Due`** and **`Step`** say what happens
  next. What is due when the session is cancelled makes way for the cancellation.
* **`beginning`**, **`finish`** — when an attempt would begin and end if the session were never cancelled.
* **`Position`** — the positions of a trial, and with them the invariant; `position_step` is its step.
* **`reachable_attempting`** — a trial gets as far as it can.
* **`begun_and_final_iff`** — when which attempts begin, and what the trial comes to, put together from
  `exists_begun_iff`, `final_iff_of_succeeds` and `final_iff_of_hopeless`. -/

namespace NetworkAgent.Retry

/-! ## Trials -/

/-- An attempt. -/
structure Attempt (α : Type) where
  /-- How long it takes, in milliseconds. -/
  duration : Nat
  /-- How it ends: with a value, with a failure, or not at all. -/
  outcome : Option (Option α)

/-- **What a repeated attempt depends on.** -/
structure Conditions (α : Type) where
  /-- When it starts, in milliseconds. -/
  start : Nat
  /-- The delay after a failed attempt, in milliseconds. -/
  delay : Nat
  /-- The attempts, in order. -/
  attempts : Nat → Attempt α
  /-- When the session is cancelled, if it is. -/
  cancelAt : Option Nat

/-- **How far a repeated attempt has come.** -/
structure Trial (α : Type) where
  /-- What it is doing. -/
  state : Retry α
  /-- When it began to do so, in milliseconds. -/
  now : Nat
  /-- The instants at which attempts have begun, in order. -/
  begun : List Nat
  deriving DecidableEq

variable {α : Type}

/-- The beginning of a trial. -/
def Conditions.first (C : Conditions α) : Trial α := ⟨.poised, C.start, []⟩

/-- The trial after an event at an instant. -/
def Trial.take (C : Conditions α) (t : Nat) (e : Retry.Event α) (x : Trial α) : Trial α where
  state := x.state.step C.delay t e
  now := t
  begun := if x.state.wait = .turn ∧ (x.state.step C.delay t e).wait = .answer then x.begun ++ [t] else x.begun

/-- **The event that is due**, with its instant, as long as the session is not cancelled. An attempt that never ends
leaves nothing due. -/
inductive Due (C : Conditions α) (x : Trial α) : Nat → Retry.Event α → Prop where
  | turn (hw : x.state.wait = .turn) : Due C x x.now .turn
  | finished {o : Option α} (hw : x.state.wait = .answer)
      (ho : (C.attempts (x.begun.length - 1)).outcome = some o) :
      Due C x (x.now + (C.attempts (x.begun.length - 1)).duration) (.finished o)
  | elapsed {t : Nat} (hw : x.state.wait = .until t) : Due C x t .elapsed

/-- An instant is **in time** if the session is not cancelled by then. -/
def InTime (C : Conditions α) (t : Nat) : Prop := ∀ c ∈ C.cancelAt, t < c

/-- **What happens next**: the event that is due, if it is in time, and the cancellation otherwise. -/
inductive Step (C : Conditions α) (x : Trial α) : Trial α → Prop where
  | event {t : Nat} {e : Retry.Event α} (hd : Due C x t e) (ht : InTime C t) : Step C x (x.take C t e)
  | cancel {c : Nat} (hw : x.state.wait ≠ .ended) (hc : c ∈ C.cancelAt) (hd : ∀ t e, Due C x t e → c ≤ t) :
      Step C x (x.take C (max x.now c) .cancelled)

/-- **What the trial comes by.** -/
def Reachable (C : Conditions α) : Trial α → Prop := Relation.ReflTransGen (Step C) C.first

/-- **What the trial comes to.** -/
def Final (C : Conditions α) (x : Trial α) : Prop := Reachable C x ∧ x.state.wait = .ended

/-! ## Without a cancellation -/

/-- When an attempt begins, if it comes to it: the first at once, and the others when the delay after the one before
is over. -/
def beginning (C : Conditions α) : Nat → Nat
  | 0 => C.start
  | n + 1 => beginning C n + (C.attempts n).duration + C.delay

/-- When an attempt ends, if it comes to it and the attempt ends. -/
def finish (C : Conditions α) (n : Nat) : Nat := beginning C n + (C.attempts n).duration

/-- The attempt ends in a failure. -/
def Fails (C : Conditions α) (n : Nat) : Prop := (C.attempts n).outcome = some none

/-- The attempt ends with a value. -/
def Succeeds (C : Conditions α) (n : Nat) (a : α) : Prop := (C.attempts n).outcome = some (some a)

/-- **It comes to an attempt** if all attempts before it fail. -/
def Made (C : Conditions α) (n : Nat) : Prop := ∀ m < n, Fails C m

/-- The beginnings of the first attempts. -/
def firsts (C : Conditions α) (n : Nat) : List Nat := (List.range n).map (beginning C)

variable {C : Conditions α}

/-- It comes to the first attempt. -/
theorem made_zero : Made C 0 := fun _ h => absurd h (Nat.not_lt_zero _)

/-- It comes to the next attempt if this one fails. -/
theorem made_succ {n : Nat} : Made C (n + 1) ↔ Made C n ∧ Fails C n := by
  constructor
  · intro h
    exact ⟨fun m hm => h m (Nat.lt_succ_of_lt hm), h n (Nat.lt_succ_self n)⟩
  · rintro ⟨h, hn⟩ m hm
    rcases Nat.lt_succ_iff_lt_or_eq.1 hm with hm | rfl
    · exact h m hm
    · exact hn

/-- An attempt that fails does not succeed. -/
theorem Fails.not_succeeds {n : Nat} {a : α} (h : Fails C n) : ¬ Succeeds C n a := by
  intro hs
  cases h.symm.trans hs

/-- It comes to no attempt after one that succeeds. -/
theorem Succeeds.le_of_made {k n : Nat} {a : α} (hs : Succeeds C k a) (hm : Made C n) : n ≤ k := by
  by_contra hlt
  exact (hm k (Nat.lt_of_not_le hlt)).not_succeeds hs

/-- An attempt ends no sooner than it begins. -/
theorem beginning_le_finish (n : Nat) : beginning C n ≤ finish C n := Nat.le_add_right _ _

/-- An attempt begins no sooner than the one before it ends. -/
theorem finish_le_beginning_succ (n : Nat) : finish C n ≤ beginning C (n + 1) := Nat.le_add_right _ _

/-- Attempts begin one after another. -/
theorem monotone_beginning (C : Conditions α) : Monotone (beginning C) := by
  refine monotone_nat_of_le_succ fun n => ?_
  exact Nat.le_trans (beginning_le_finish n) (finish_le_beginning_succ n)

/-- With a delay between them, attempts begin later and later. -/
theorem le_beginning (hd : 0 < C.delay) (n : Nat) : n ≤ beginning C n := by
  induction n with
  | zero => exact Nat.zero_le _
  | succ n ih =>
      rw [beginning]
      omega

/-- What is before something in time is in time. -/
theorem InTime.of_le {s t : Nat} (h : InTime C t) (hs : s ≤ t) : InTime C s :=
  fun c hc => Nat.lt_of_le_of_lt hs (h c hc)

/-- What is not in time comes when the session has been cancelled. -/
theorem not_inTime {t c : Nat} (hc : c ∈ C.cancelAt) : ¬ InTime C t ↔ c ≤ t := by
  constructor
  · intro h
    by_contra hlt
    refine h fun c' hc' => ?_
    cases hc.symm.trans hc'
    exact Nat.lt_of_not_le hlt
  · intro h ht
    exact Nat.not_lt.2 h (ht c hc)

/-- The beginnings of the first attempts are one more with the next. -/
theorem firsts_succ (n : Nat) : firsts C (n + 1) = firsts C n ++ [beginning C n] := by
  rw [firsts, List.range_succ, List.map_append, List.map_singleton, ← firsts]

/-- They are as many as the attempts. -/
@[simp] theorem length_firsts (n : Nat) : (firsts C n).length = n := by
  rw [firsts, List.length_map, List.length_range]

/-! ## What is due -/

/-- Before an attempt its turn is due. -/
theorem due_poised_iff {now t : Nat} {begun : List Nat} {e : Retry.Event α} :
    Due C ⟨.poised, now, begun⟩ t e ↔ t = now ∧ e = .turn := by
  constructor
  · intro h
    cases h with
    | turn => exact ⟨rfl, rfl⟩
    | finished hw => cases hw
    | elapsed hw => cases hw
  · rintro ⟨rfl, rfl⟩
    exact .turn rfl

/-- During an attempt its end is due, if it ends. -/
theorem due_attempting_iff {n t : Nat} {e : Retry.Event α} :
    Due C ⟨.attempting, beginning C n, firsts C (n + 1)⟩ t e
      ↔ t = finish C n ∧ ∃ o, (C.attempts n).outcome = some o ∧ e = .finished o := by
  have hlast : (firsts C (n + 1)).length - 1 = n := by rw [length_firsts, Nat.add_sub_cancel]
  constructor
  · intro h
    cases h with
    | turn hw => cases hw
    | elapsed hw => cases hw
    | @finished o hw ho =>
        dsimp only at ho ⊢
        rw [hlast] at ho ⊢
        exact ⟨rfl, o, ho, rfl⟩
  · rintro ⟨rfl, o, ho, rfl⟩
    have h := Due.finished (C := C) (x := ⟨.attempting, beginning C n, firsts C (n + 1)⟩) rfl (hlast.symm ▸ ho)
    dsimp only at h
    rwa [hlast] at h

/-- After a failed attempt the end of the delay is due. -/
theorem due_pausing_iff {resume now t : Nat} {begun : List Nat} {e : Retry.Event α} :
    Due C ⟨.pausing resume, now, begun⟩ t e ↔ t = resume ∧ e = .elapsed := by
  constructor
  · intro h
    cases h with
    | turn hw => cases hw
    | finished hw => cases hw
    | elapsed hw =>
        cases hw
        exact ⟨rfl, rfl⟩
  · rintro ⟨rfl, rfl⟩
    exact .elapsed rfl

/-- At its end nothing is due for a trial. -/
theorem not_due_of_ended {x : Trial α} (hw : x.state.wait = .ended) (t : Nat) (e : Retry.Event α) : ¬ Due C x t e := by
  intro h
  cases h with
  | turn h => cases hw.symm.trans h
  | finished h => cases hw.symm.trans h
  | elapsed h => cases hw.symm.trans h

/-- An attempt begins. -/
theorem take_turn (n : Nat) :
    Trial.take C (beginning C n) .turn ⟨.poised, beginning C n, firsts C n⟩
      = ⟨.attempting, beginning C n, firsts C (n + 1)⟩ := by
  rw [firsts_succ]
  rfl

/-! ## Positions -/

/-- **The attempts that are made** before the session is cancelled: just the first `m` of those that would be made
without a cancellation. -/
def Stops (C : Conditions α) (m : Nat) : Prop := ∀ n, n < m ↔ Made C n ∧ InTime C (beginning C n)

/-- **No attempt succeeds in time.** -/
def Hopeless (C : Conditions α) : Prop := ∀ n a, Made C n → Succeeds C n a → ¬ InTime C (finish C n)

/-- **The positions of a trial.** -/
inductive Position (C : Conditions α) : Trial α → Prop where
  /-- The next attempt is about to begin. Only the first one may come too late. -/
  | poised {n : Nat} (hm : Made C n) (ht : 0 < n → InTime C (beginning C n)) :
      Position C ⟨.poised, beginning C n, firsts C n⟩
  /-- An attempt is under way. -/
  | attempting {n : Nat} (hm : Made C n) (ht : InTime C (beginning C n)) :
      Position C ⟨.attempting, beginning C n, firsts C (n + 1)⟩
  /-- The attempt has failed. -/
  | pausing {n : Nat} (hm : Made C (n + 1)) (ht : InTime C (finish C n)) :
      Position C ⟨.pausing (beginning C (n + 1)), finish C n, firsts C (n + 1)⟩
  /-- The attempt has succeeded. -/
  | done {n : Nat} {a : α} (hm : Made C n) (hs : Succeeds C n a) (ht : InTime C (finish C n)) :
      Position C ⟨.done a, finish C n, firsts C (n + 1)⟩
  /-- The session was cancelled before. -/
  | cancelled {c m : Nat} (hc : c ∈ C.cancelAt) (hm : Stops C m) (hh : Hopeless C) :
      Position C ⟨.cancelled, max C.start c, firsts C m⟩

/-- **Where the attempts stop**: after some that are in time, when no other would be. -/
theorem stops_of_not_inTime {m : Nat} (hm : ∀ n < m, Made C n ∧ InTime C (beginning C n))
    (hlate : Made C m → ¬ InTime C (beginning C m)) : Stops C m := by
  intro n
  refine ⟨hm n, ?_⟩
  rintro ⟨hmade, ht⟩
  by_contra hn
  have hle : m ≤ n := Nat.le_of_not_lt hn
  -- it would have come to the attempt after those, and that would have been in time
  have hmade' : Made C m := fun k hk => hmade k (Nat.lt_of_lt_of_le hk hle)
  exact hlate hmade' (ht.of_le (monotone_beginning C hle))

/-- An attempt that is begun in time has been made, and those before it too. -/
theorem made_inTime_of_lt {n : Nat} (hm : Made C n) (ht : InTime C (beginning C n)) :
    ∀ k < n + 1, Made C k ∧ InTime C (beginning C k) := by
  intro k hk
  have hle : k ≤ n := Nat.le_of_lt_succ hk
  exact ⟨fun j hj => hm j (Nat.lt_of_lt_of_le hj hle), ht.of_le (monotone_beginning C hle)⟩

/-- No attempt succeeds in time if the one under way does not, nor fails in time for another. -/
theorem hopeless_of_attempting {n : Nat} (hm : Made C n)
    (hs : ∀ a, Succeeds C n a → ¬ InTime C (finish C n))
    (hf : Fails C n → ¬ InTime C (beginning C (n + 1))) : Hopeless C := by
  intro k a hk hks ht
  have hle : n ≤ k := hks.le_of_made hm
  rcases Nat.eq_or_lt_of_le hle with rfl | hlt
  · exact hs a hks ht
  · -- the attempt under way fails, and the next one would have been in time
    refine hf (hk n hlt) (ht.of_le ?_)
    exact Nat.le_trans (monotone_beginning C hlt) (beginning_le_finish k)

/-- The trial is cancelled while an attempt is under way, or after it has failed. -/
theorem position_cancelled {c n now : Nat} (hc : c ∈ C.cancelAt) (hm : Made C n) (ht : InTime C now)
    (hnow : beginning C n ≤ now) (hs : ∀ a, Succeeds C n a → ¬ InTime C (finish C n))
    (hf : Fails C n → ¬ InTime C (beginning C (n + 1))) :
    Position C ⟨.cancelled, max now c, firsts C (n + 1)⟩ := by
  have hstart : C.start ≤ now := Nat.le_trans (monotone_beginning C (Nat.zero_le n)) hnow
  have hlt : now < c := ht c hc
  have hmax : max now c = max C.start c := by omega
  rw [hmax]
  refine .cancelled hc ?_ (hopeless_of_attempting hm hs hf)
  refine stops_of_not_inTime (made_inTime_of_lt hm (ht.of_le hnow)) fun hmade => ?_
  exact hf (made_succ.1 hmade).2

/-- **A step leads from a position to a position.** -/
theorem position_step {x y : Trial α} (h : Position C x) (hs : Step C x y) : Position C y := by
  cases h with
  | @poised n hm ht =>
      cases hs with
      | event hd ht' =>
          obtain ⟨rfl, rfl⟩ := due_poised_iff.1 hd
          rw [take_turn]
          exact .attempting hm ht'
      | @cancel c hw hc hd =>
          have hle : c ≤ beginning C n := hd _ _ (due_poised_iff.2 ⟨rfl, rfl⟩)
          cases n with
          | succ n => exact absurd (ht (Nat.succ_pos n)) ((not_inTime hc).2 hle)
          | zero =>
              refine .cancelled hc (m := 0) ?_ ?_
              · exact stops_of_not_inTime nofun fun _ => (not_inTime hc).2 hle
              · intro k a _ _ ht'
                refine (not_inTime hc).2 hle (ht'.of_le ?_)
                exact Nat.le_trans (monotone_beginning C (Nat.zero_le k)) (beginning_le_finish k)
  | @attempting n hm ht =>
      cases hs with
      | event hd ht' =>
          obtain ⟨rfl, o, ho, rfl⟩ := due_attempting_iff.1 hd
          cases o with
          | none => exact .pausing (made_succ.2 ⟨hm, ho⟩) ht'
          | some a => exact .done hm ho ht'
      | @cancel c hw hc hd =>
          have hlate (o : Option α) (ho : (C.attempts n).outcome = some o) : ¬ InTime C (finish C n) :=
            (not_inTime hc).2 (hd _ _ (due_attempting_iff.2 ⟨rfl, o, ho, rfl⟩))
          refine position_cancelled hc hm ht (Nat.le_refl _) (fun a => hlate (some a)) fun hf ht' => ?_
          exact hlate none hf (ht'.of_le (finish_le_beginning_succ n))
  | @pausing n hm ht =>
      obtain ⟨hm', hfail⟩ := made_succ.1 hm
      cases hs with
      | event hd ht' =>
          obtain ⟨rfl, rfl⟩ := due_pausing_iff.1 hd
          exact .poised hm fun _ => ht'
      | @cancel c hw hc hd =>
          have hle : c ≤ beginning C (n + 1) := hd _ _ (due_pausing_iff.2 ⟨rfl, rfl⟩)
          refine position_cancelled hc hm' ht (beginning_le_finish n) ?_ fun _ => (not_inTime hc).2 hle
          exact fun a hs => absurd hs hfail.not_succeeds
  | done | cancelled =>
      cases hs with
      | event hd ht => exact absurd hd (not_due_of_ended rfl _ _)
      | cancel hw => exact absurd rfl hw

/-- **A trial comes by nothing but its positions.** -/
theorem position_of_reachable {x : Trial α} (h : Reachable C x) : Position C x := by
  induction h with
  | refl => exact .poised made_zero fun h => absurd h (Nat.lt_irrefl 0)
  | tail _ hs ih => exact position_step ih hs

/-- What a trial has begun: the first attempts, each of them made and in time. -/
theorem begun_of_reachable {x : Trial α} (h : Reachable C x) :
    ∃ m, x.begun = firsts C m ∧ ∀ n < m, Made C n ∧ InTime C (beginning C n) := by
  cases position_of_reachable h with
  | @poised n hm ht =>
      refine ⟨n, rfl, fun k hk => ?_⟩
      exact made_inTime_of_lt hm (ht (Nat.zero_lt_of_lt hk)) k (Nat.lt_succ_of_lt hk)
  | @attempting n hm ht => exact ⟨n + 1, rfl, made_inTime_of_lt hm ht⟩
  | @pausing n hm ht => exact ⟨n + 1, rfl, made_inTime_of_lt (made_succ.1 hm).1 (ht.of_le (beginning_le_finish n))⟩
  | @done n a hm hs ht => exact ⟨n + 1, rfl, made_inTime_of_lt hm (ht.of_le (beginning_le_finish n))⟩
  | @cancelled c m hc hm hh => exact ⟨m, rfl, fun n => (hm n).1⟩

/-! ## Getting on -/

/-- An attempt that is under way ends as it does, if it ends in time. -/
theorem Reachable.finished {n : Nat} {o : Option α}
    (h : Reachable C ⟨.attempting, beginning C n, firsts C (n + 1)⟩) (ho : (C.attempts n).outcome = some o)
    (ht : InTime C (finish C n)) :
    Reachable C ⟨step C.delay (finish C n) .attempting (.finished o), finish C n, firsts C (n + 1)⟩ := by
  have hs := Step.event (due_attempting_iff.2 ⟨rfl, o, ho, rfl⟩) ht
  cases o <;> exact .tail h hs

/-- **A trial gets as far as it can**: it begins every attempt that is to be made in time. -/
theorem reachable_attempting {n : Nat} (hm : Made C n) (ht : InTime C (beginning C n)) :
    Reachable C ⟨.attempting, beginning C n, firsts C (n + 1)⟩ := by
  have turn {n : Nat} (h : Reachable C ⟨.poised, beginning C n, firsts C n⟩) (ht : InTime C (beginning C n)) :
      Reachable C ⟨.attempting, beginning C n, firsts C (n + 1)⟩ := by
    rw [← take_turn]
    exact .tail h (.event (.turn rfl) ht)
  induction n with
  | zero => exact turn .refl ht
  | succ n ih =>
      obtain ⟨hm', hfail⟩ := made_succ.1 hm
      have hfinish : InTime C (finish C n) := ht.of_le (finish_le_beginning_succ n)
      -- the attempt before fails in time, and so does the delay after it
      have hpausing := (ih hm' (hfinish.of_le (beginning_le_finish n))).finished hfail hfinish
      exact turn (.tail hpausing (.event (.elapsed rfl) ht)) ht

/-- A trial comes to its end when an attempt succeeds in time. -/
theorem final_of_succeeds {n : Nat} {a : α} (hm : Made C n) (hs : Succeeds C n a) (ht : InTime C (finish C n)) :
    Final C ⟨.done a, finish C n, firsts C (n + 1)⟩ :=
  ⟨(reachable_attempting hm (ht.of_le (beginning_le_finish n))).finished hs ht, rfl⟩

/-- A trial that has not come to its end when the session is cancelled does so then. -/
theorem Reachable.cancelled {x : Trial α} {c : Nat} (h : Reachable C x) (hw : x.state.wait ≠ .ended)
    (hc : c ∈ C.cancelAt) (hd : ∀ t e, Due C x t e → c ≤ t) : ∃ y, Final C y := by
  refine ⟨_, .tail h (.cancel hw hc hd), ?_⟩
  obtain ⟨state, now, begun⟩ := x
  cases state with
  | done a => exact absurd rfl hw
  | cancelled => exact absurd rfl hw
  | _ => rfl

/-- **A trial comes to its end** if the session is cancelled, and there is a delay between the attempts. -/
theorem exists_final {c : Nat} (hdelay : 0 < C.delay) (hc : c ∈ C.cancelAt) : ∃ x, Final C x := by
  classical
  have hlate : ∃ n, ¬ (Made C n ∧ InTime C (beginning C n)) :=
    ⟨c, fun h => Nat.not_lt.2 (le_beginning hdelay c) (h.2 c hc)⟩
  -- the first attempt that is not made in time
  obtain ⟨m, hm, hbefore⟩ : ∃ m, ¬ (Made C m ∧ InTime C (beginning C m)) ∧
      ∀ n < m, Made C n ∧ InTime C (beginning C n) :=
    ⟨Nat.find hlate, Nat.find_spec hlate, fun n hn => not_not.1 (Nat.find_min hlate hn)⟩
  cases m with
  | zero =>
      have hstart : c ≤ C.start := (not_inTime hc).1 fun ht => hm ⟨made_zero, ht⟩
      refine Reachable.cancelled .refl nofun hc fun t e hd => ?_
      obtain ⟨rfl, -⟩ := due_poised_iff.1 hd
      exact hstart
  | succ n =>
      obtain ⟨hmade, ht⟩ := hbefore n (Nat.lt_succ_self n)
      have hreach := reachable_attempting hmade ht
      by_cases hend : ∃ o, (C.attempts n).outcome = some o ∧ InTime C (finish C n)
      · obtain ⟨o, ho, hfinish⟩ := hend
        cases o with
        | some a => exact ⟨_, final_of_succeeds hmade ho hfinish⟩
        | none =>
            have hnext : c ≤ beginning C (n + 1) := (not_inTime hc).1 fun ht => hm ⟨made_succ.2 ⟨hmade, ho⟩, ht⟩
            refine (hreach.finished ho hfinish).cancelled nofun hc fun t e hd => ?_
            obtain ⟨rfl, -⟩ := due_pausing_iff.1 hd
            exact hnext
      · -- it is cancelled while this attempt is under way
        refine hreach.cancelled nofun hc fun t e hd => ?_
        obtain ⟨rfl, o, ho, -⟩ := due_attempting_iff.1 hd
        exact (not_inTime hc).1 fun ht => hend ⟨o, ho, ht⟩

/-- What a trial comes to: the value of an attempt that succeeds in time, or the cancellation. -/
theorem final_cases {x : Trial α} (h : Final C x) :
    (∃ n a, Made C n ∧ Succeeds C n a ∧ InTime C (finish C n) ∧ x = ⟨.done a, finish C n, firsts C (n + 1)⟩) ∨
      ∃ c m, c ∈ C.cancelAt ∧ Stops C m ∧ Hopeless C ∧ x = ⟨.cancelled, max C.start c, firsts C m⟩ := by
  obtain ⟨hreach, hw⟩ := h
  cases position_of_reachable hreach with
  | poised => cases hw
  | attempting => cases hw
  | pausing => cases hw
  | done hm hs ht => exact Or.inl ⟨_, _, hm, hs, ht, rfl⟩
  | cancelled hc hm hh => exact Or.inr ⟨_, _, hc, hm, hh, rfl⟩

/-! ## Results -/

/-- **When an attempt begins**: if it comes to it, as soon as it can, if that is in time. -/
theorem exists_begun_iff (n t : Nat) :
    (∃ x, Reachable C x ∧ x.begun[n]? = some t) ↔ Made C n ∧ t = beginning C n ∧ InTime C t := by
  constructor
  · rintro ⟨x, hx, hn⟩
    obtain ⟨m, hbegun, hm⟩ := begun_of_reachable hx
    rw [hbegun, firsts, List.getElem?_map, Option.map_eq_some_iff] at hn
    obtain ⟨k, hk, rfl⟩ := hn
    obtain ⟨hlt, rfl⟩ := List.getElem?_eq_some_iff.1 hk
    rw [List.length_range] at hlt
    rw [List.getElem_range]
    exact ⟨(hm n hlt).1, rfl, (hm n hlt).2⟩
  · rintro ⟨hm, rfl, ht⟩
    refine ⟨_, reachable_attempting hm ht, ?_⟩
    rw [firsts_succ, List.getElem?_append_right (Nat.le_of_eq (length_firsts n)), length_firsts, Nat.sub_self]
    rfl

/-- **What comes of a success in time**: its value. -/
theorem final_iff_of_succeeds {n : Nat} {a : α} (hm : Made C n) (hs : Succeeds C n a) (ht : InTime C (finish C n))
    (x : Trial α) : Final C x ↔ x = ⟨.done a, finish C n, firsts C (n + 1)⟩ := by
  constructor
  · intro hx
    rcases final_cases hx with ⟨k, b, hk, hks, -, rfl⟩ | ⟨c, m, -, -, hh, -⟩
    · -- it comes to no attempt after the first success
      obtain rfl : k = n := Nat.le_antisymm (hs.le_of_made hk) (hks.le_of_made hm)
      cases hs.symm.trans hks
      rfl
    · exact absurd ht (hh n a hm hs)
  · rintro rfl
    exact final_of_succeeds hm hs ht

/-- The attempts stop at one place. -/
theorem Stops.le {m k : Nat} (hm : Stops C m) (hk : Stops C k) : m ≤ k := by
  by_contra hlt
  exact Nat.lt_irrefl k ((hk k).2 ((hm k).1 (Nat.lt_of_not_le hlt)))

/-- Without a success in time there is no result but the cancellation. -/
theorem final_of_hopeless (hh : Hopeless C) {x : Trial α} (hx : Final C x) :
    ∃ c m, c ∈ C.cancelAt ∧ Stops C m ∧ x = ⟨.cancelled, max C.start c, firsts C m⟩ := by
  rcases final_cases hx with ⟨n, a, hm, hs, ht, -⟩ | ⟨c, m, hc, hm, -, rfl⟩
  · exact absurd ht (hh n a hm hs)
  · exact ⟨c, m, hc, hm, rfl⟩

/-- **What comes of a cancellation** without a success in time: the cancellation, where the attempts stop. -/
theorem final_iff_of_hopeless (hdelay : 0 < C.delay) (hh : Hopeless C) {c : Nat} (hc : c ∈ C.cancelAt) :
    ∃ m, Stops C m ∧ ∀ x, Final C x ↔ x = ⟨.cancelled, max C.start c, firsts C m⟩ := by
  obtain ⟨y, hy⟩ := exists_final hdelay hc
  obtain ⟨c', m, hc', hm, rfl⟩ := final_of_hopeless hh hy
  cases hc.symm.trans hc'
  refine ⟨m, hm, fun x => ⟨fun hx => ?_, fun hx => hx ▸ hy⟩⟩
  obtain ⟨c'', k, hc'', hk, rfl⟩ := final_of_hopeless hh hx
  cases hc.symm.trans hc''
  rw [Nat.le_antisymm (hk.le hm) (hm.le hk)]

/-- **When attempts begin, and what comes of them.** Let there be a delay, and let attempts take as long as they may and
end as they may, or not at all.

* An attempt begins just if all those before it fail and the session is not cancelled by then; the first begins at
  once, and each other one a delay after the failure of the one before.
* If it comes to an attempt that succeeds before the session is cancelled, then its value is the result when it ends,
  and it was the last attempt.
* If it comes to none and the session is cancelled, then this is the result at that moment, or at once if that has
  passed, whatever was going on; and if the session is not cancelled, then there is no result. -/
theorem begun_and_final_iff (hdelay : 0 < C.delay) :
    (∀ n t, (∃ x, Reachable C x ∧ x.begun[n]? = some t) ↔ Made C n ∧ t = beginning C n ∧ InTime C t) ∧
      (∀ n a, Made C n → Succeeds C n a → InTime C (finish C n) →
        ∀ x, Final C x ↔ x = ⟨.done a, finish C n, firsts C (n + 1)⟩) ∧
      (Hopeless C →
        (∀ c ∈ C.cancelAt, ∃ m, Stops C m ∧ ∀ x, Final C x ↔ x = ⟨.cancelled, max C.start c, firsts C m⟩) ∧
        (C.cancelAt = none → ∀ x, ¬ Final C x)) := by
  refine ⟨exists_begun_iff, fun n a hm hs ht => final_iff_of_succeeds hm hs ht, fun hh => ⟨?_, ?_⟩⟩
  · exact fun c hc => final_iff_of_hopeless hdelay hh hc
  · intro hnone x hx
    obtain ⟨c, m, hc, -⟩ := final_of_hopeless hh hx
    cases hnone.symm.trans hc

/-- A first attempt that fails and others that succeed, with a session that is cancelled at an instant. -/
def secondTry (c : Nat) : Conditions String where
  start := 3
  delay := 5
  attempts
    | 0 => ⟨2, some none⟩
    | _ => ⟨4, some (some "ready")⟩
  cancelAt := some c

/-- The second attempt takes from 10 to 14, and succeeds unless the session is cancelled in between. -/
theorem begun_and_final_secondTry :
    (∀ x, Final (secondTry 20) x ↔ x = ⟨.done "ready", 14, [3, 10]⟩) ∧
      (∀ x, Final (secondTry 12) x ↔ x = ⟨.cancelled, 12, [3, 10]⟩) := by
  have hmade (c : Nat) : Made (secondTry c) 1 := made_succ.2 ⟨made_zero, rfl⟩
  have hsucceeds (c : Nat) : Succeeds (secondTry c) 1 "ready" := rfl
  constructor
  · refine (begun_and_final_iff (C := secondTry 20) (by decide)).2.1 1 "ready" (hmade 20) rfl ?_
    intro c hc
    cases hc
    decide
  · have hhopeless : Hopeless (secondTry 12) := by
      intro n a hm hs ht
      have hle : n ≤ 1 := (hsucceeds 12).le_of_made hm
      interval_cases n
      · cases hs
      · exact absurd (ht 12 rfl) (by decide)
    obtain ⟨m, hstops, hfinal⟩ := ((begun_and_final_iff (C := secondTry 12) (by decide)).2.2 hhopeless).1 12 rfl
    have htwo : 1 < m := (hstops 1).2 ⟨hmade 12, fun c hc => by cases hc; decide⟩
    have hthree : m ≤ 2 := by
      refine Nat.le_of_not_lt fun h => ?_
      -- the second attempt succeeds, so that there is no third one
      cases ((hstops 2).1 h).1 1 (by decide)
    obtain rfl : m = 2 := by omega
    exact hfinal

end NetworkAgent.Retry
