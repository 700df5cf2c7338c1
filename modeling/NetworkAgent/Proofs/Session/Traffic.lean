import Mathlib.Logic.Relation
import NetworkAgent.Proofs.Session.Turns

/-! # What passes between a session and the services

Any number of operations, of whatever kind, may be under way in one session, and so may the activities that it has set
off. Each takes its steps at any time in between those of the others, and an answer may be anything, come at any time,
or never.

* **`Traffic`** — a session with the calls that its operations wait for, the activities that were set off, and a log of
  all that has passed.
* **`Traffic.Happening`** and **`Traffic.Step`** — what can happen next; `step_cases` sorts it into four kinds.
* `Traffic.reachable_of_follow?` — runs by a list of happenings. -/

namespace NetworkAgent

/-- The activities that an operation has set off in a step. -/
def Stage.jobs : Stage → List Job
  | .waiting _ _ => []
  | .finished _ jobs => jobs

/-- Something that has passed between a session and the services. -/
inductive Traffic.Entry where
  /-- An operation made a call. -/
  | called (c : Call)
  /-- An operation went on with the answer to its call. -/
  | answered (c : Call) (a : Answer)
  /-- An activity made a call. -/
  | ran (j : Job) (r : Request)

/-- The request that was sent, if one was. -/
def Traffic.Entry.request? : Traffic.Entry → Option Request
  | .called c => some c.request
  | .answered _ _ => none
  | .ran _ r => some r

/-- **A session at work**, with what has passed between it and the services. -/
structure Traffic where
  /-- The session. -/
  session : Session
  /-- The calls that operations wait for. -/
  underWay : List Call := []
  /-- The activities that were set off. -/
  jobs : List Job := []
  /-- What has passed, in order. -/
  log : List Traffic.Entry := []

namespace Traffic

/-- A session of which nothing was asked. -/
def start (s : Session) : Traffic := { session := s }

/-- The traffic when an operation has taken a step. -/
def enter (r : Session × Stage) (t : Traffic) : Traffic :=
  { session := r.1
    underWay := t.underWay ++ r.2.call?.toList
    jobs := t.jobs ++ r.2.jobs
    log := t.log ++ r.2.call?.toList.map .called }

/-- The traffic when an operation is about to go on with the answer to its call, the one of a number. -/
def release (i : Nat) (c : Call) (a : Answer) (t : Traffic) : Traffic :=
  { t with underWay := t.underWay.eraseIdx i, log := t.log ++ [.answered c a] }

/-- Something that may happen. -/
inductive Happening where
  /-- an operation begins -/
  | begin (op : Operation)
  /-- the operation whose call is the one of a number goes on with an answer -/
  | goOn (i : Nat) (a : Answer)
  /-- the activity of a number makes a call -/
  | run (i : Nat) (r : Request)
  /-- the tracker of the configuration stores a snapshot -/
  | store (json : Option String)
  /-- the session is cancelled -/
  | cancel

/-- The traffic after something has happened, if it may happen. -/
def after? (t : Traffic) : Happening → Option Traffic
  | .begin op => some (t.enter (t.session.begin op))
  | .goOn i a => t.underWay[i]?.map fun c => (t.release i c a).enter (t.session.resume c.conversation a)
  | .run i r => t.jobs[i]?.map fun j => { t with log := t.log ++ [.ran j r] }
  | .store json =>
    if .configFeed ∈ t.jobs then some { t with session := { t.session with snapshot := json } } else none
  | .cancel => some { t with session := { t.session with cancelled := true } }

/-- **What can happen next.** -/
def Step (t u : Traffic) : Prop := ∃ h, t.after? h = some u

/-- **What can have happened** after any number of steps. -/
def Reachable : Traffic → Traffic → Prop := Relation.ReflTransGen Step

/-- The traffic after things have happened one after another, if they may happen. -/
def follow? (t : Traffic) : List Happening → Option Traffic
  | [] => some t
  | h :: rest => (t.after? h).bind fun u => u.follow? rest

/-- What happenings lead to is reachable. -/
theorem reachable_of_follow? {t u : Traffic} {hs : List Happening} (h : t.follow? hs = some u) :
    Reachable t u := by
  induction hs generalizing t with
  | nil =>
      cases h
      exact .refl
  | cons a rest ih =>
      obtain ⟨v, hv, hrest⟩ := Option.bind_eq_some_iff.1 h
      exact .head ⟨a, hv⟩ (ih hrest)

/-- **A step** is one of four: an operation begins; an operation goes on with an answer to its call; an activity that
was set off makes a call; or no more changes than the session's snapshot and whether it is cancelled. -/
theorem step_cases {t u : Traffic} (h : Step t u) :
    (∃ op, u = t.enter (t.session.begin op))
      ∨ (∃ i c a, c ∈ t.underWay ∧ u = (t.release i c a).enter (t.session.resume c.conversation a))
      ∨ (∃ j r, j ∈ t.jobs ∧ u = { t with log := t.log ++ [.ran j r] })
      ∨ ∃ json cancelled, u = { t with session := { t.session with snapshot := json, cancelled := cancelled } } := by
  obtain ⟨h, hu⟩ := h
  cases h with
  | begin op =>
      cases hu
      exact Or.inl ⟨op, rfl⟩
  | goOn i a =>
      obtain ⟨c, hc, rfl⟩ := Option.map_eq_some_iff.1 hu
      exact Or.inr (Or.inl ⟨i, c, a, List.mem_of_getElem? hc, rfl⟩)
  | run i r =>
      obtain ⟨j, hj, rfl⟩ := Option.map_eq_some_iff.1 hu
      exact Or.inr (Or.inr (Or.inl ⟨j, r, List.mem_of_getElem? hj, rfl⟩))
  | store json =>
      rw [after?] at hu
      split at hu
      · cases hu
        exact Or.inr (Or.inr (Or.inr ⟨json, t.session.cancelled, rfl⟩))
      · cases hu
  | cancel =>
      cases hu
      exact Or.inr (Or.inr (Or.inr ⟨t.session.snapshot, true, rfl⟩))

end Traffic

end NetworkAgent
