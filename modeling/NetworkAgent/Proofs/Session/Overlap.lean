import Mathlib.Data.List.Perm.Basic
import Mathlib.Logic.Relation
import NetworkAgent.Proofs.Session.Turns

/-! # Operations on state that overlap

Any number of operations on state may be under way in one session. In between the steps of one, others take theirs.
The daemon applies the requests in the order in which they are sent, and answers them in that order; an operation
goes on with its answer at any time after that.

* **`Overlap`** — a session with the calls of its operations, wherever they are, and with what has happened.
* **`Overlap.Step`** — what can happen next, one of three things by `Overlap.step_cases`.
* **`Overlap.Accounted`** — the invariant of a path: unless an operation went on disturbed with its last update, the
  path is tracked; if one did, the path is not tracked, or something under way still threatens it.
* **`Overlap.mem_ledger_iff`** — when no call is under way, a path whose state the daemon has is tracked if and
  only if its last update was not disturbed. `Overlap.forgotten` is a run by which one is not tracked. -/

namespace NetworkAgent

/-! ## Overlapping operations -/

/-- An operation has gone on with the success of its call. -/
structure TakeUp where
  /-- The call. -/
  call : Call
  /-- The calls of the other operations that were under way then. -/
  others : List Call

/-- **A call was gone on with undisturbed** as far as a path is concerned if nothing else that was under way threatened
the path. -/
def TakeUp.IsUndisturbed (root path : String) (m : TakeUp) : Prop :=
  ∀ c ∈ m.others, c.threatens root path = false

/-- A call that was not gone on with undisturbed was disturbed by another. -/
theorem TakeUp.exists_threatens {root path : String} {m : TakeUp} (h : ¬ m.IsUndisturbed root path) :
    ∃ c ∈ m.others, c.threatens root path = true := by
  obtain ⟨c, hc⟩ := not_forall.1 h
  obtain ⟨hmem, hthreat⟩ := Classical.not_imp.1 hc
  exact ⟨c, hmem, (Bool.eq_false_or_eq_true _).resolve_right hthreat⟩

/-- **Operations on the state of one session**, with the calls that they wait for. -/
structure Overlap where
  /-- The session. -/
  session : Session
  /-- The calls that the daemon has not applied, in the order in which they were sent. -/
  sent : List Call := []
  /-- The calls that the daemon has applied and not answered, in that order. -/
  applied : List Call := []
  /-- The calls that the daemon has answered, and whose operations have not gone on. -/
  answered : List Call := []
  /-- All calls that the daemon has applied, in order. -/
  log : List Call := []
  /-- All that operations have gone on with, in order. -/
  past : List TakeUp := []

namespace Overlap

/-- A session none of whose operations has begun. -/
def start (s : Session) : Overlap := { session := s }

/-- The calls whose operations have not gone on. -/
def underWay (s : Overlap) : List Call := s.answered ++ s.applied ++ s.sent

/-- All calls that were made, in order. -/
def made (s : Overlap) : List Call := s.log ++ s.sent

/-- What operations come to when one of them has taken a step. -/
def enter (r : Session × Stage) (s : Overlap) : Overlap :=
  { s with session := r.1, sent := s.sent ++ r.2.call?.toList }

/-- What operations come to when one of them goes on, whose call is the answered one of a number. -/
def release (i : Nat) (c : Call) (s : Overlap) : Overlap :=
  { s with
    answered := s.answered.eraseIdx i
    past := s.past ++ [⟨c, underWay { s with answered := s.answered.eraseIdx i }⟩] }

/-- Something that may happen. -/
inductive Happening where
  /-- an operation begins -/
  | begin (op : Operation)
  /-- the daemon applies the call that was sent first -/
  | apply
  /-- the daemon answers the call that it applied first -/
  | answer
  /-- the operation whose call is the answered one of a number goes on with the answer -/
  | goOn (i : Nat) (a : Answer)

/-- What operations come to by a happening, if it may happen: the operations are on state, and the answers are
successes. -/
def after? (s : Overlap) : Happening → Option Overlap
  | .begin op => if op.isOnState then some (s.enter (s.session.begin op)) else none
  | .apply =>
    s.sent.head?.map fun c => { s with sent := s.sent.tail, applied := s.applied ++ [c], log := s.log ++ [c] }
  | .answer =>
    s.applied.head?.map fun c => { s with applied := s.applied.tail, answered := s.answered ++ [c] }
  | .goOn i a =>
    if a.succeeded then
      s.answered[i]?.map fun c => (s.release i c).enter (s.session.resume c.conversation a)
    else none

/-- **What can happen next.** -/
def Step (s t : Overlap) : Prop := ∃ h, s.after? h = some t

/-- **What can have happened** after any number of steps. -/
def Reachable : Overlap → Overlap → Prop := Relation.ReflTransGen Step

/-- What operations come to by happenings one after another, if they may happen. -/
def follow? (s : Overlap) : List Happening → Option Overlap
  | [] => some s
  | h :: rest => (s.after? h).bind fun t => t.follow? rest

/-- What operations come to by happenings is reachable. -/
theorem reachable_of_follow? {s t : Overlap} {hs : List Happening} (h : s.follow? hs = some t) :
    Reachable s t := by
  induction hs generalizing s with
  | nil =>
      cases h
      exact .refl
  | cons a rest ih =>
      obtain ⟨u, hu, hrest⟩ := Option.bind_eq_some_iff.1 h
      exact .head ⟨a, hu⟩ (ih hrest)

/-! ## What a step does -/

/-- The call that an operation makes is under way, after those that were. -/
theorem underWay_enter (r : Session × Stage) (s : Overlap) :
    (s.enter r).underWay = s.underWay ++ r.2.call?.toList := (List.append_assoc ..).symm

/-- The call that an operation makes comes after those that were made. -/
theorem made_enter (r : Session × Stage) (s : Overlap) :
    (s.enter r).made = s.made ++ r.2.call?.toList := (List.append_assoc ..).symm

/-- What was under way is the call of the operation that goes on, and what is still under way. -/
theorem mem_underWay_release {s : Overlap} {i : Nat} {c d : Call} (h : s.answered[i]? = some c) :
    d ∈ s.underWay ↔ d = c ∨ d ∈ (s.release i c).underWay := by
  obtain ⟨hi, rfl⟩ := List.getElem?_eq_some_iff.1 h
  have hanswered : d ∈ s.answered ↔ d = s.answered[i] ∨ d ∈ s.answered.eraseIdx i := by
    rw [← (List.getElem_cons_eraseIdx_perm hi).mem_iff, List.mem_cons]
  simp only [underWay, release, List.mem_append, hanswered, or_assoc]

/-- **Operations are proper** if the calls that they made are such as operations on state make. -/
structure Proper (s : Overlap) : Prop where
  /-- Only a connected session has made calls, and they ask for what their operations are about. -/
  onState : ∀ c ∈ s.made, s.session.connected = true ∧ c.OnState
  /-- A call that is under way was made. -/
  mem_made : ∀ c ∈ s.underWay, c ∈ s.made

/-- **A step** is one of three: none of the session, of the calls under way, of those made and of the past changes;
an operation begins with a call; or an operation goes on with the success of its call. -/
theorem step_cases {s t : Overlap} (hs : Proper s) (h : Step s t) :
    (t.session = s.session ∧ t.underWay = s.underWay ∧ t.made = s.made ∧ t.past = s.past)
      ∨ (∃ c, s.session.connected = true ∧ s.session.Opens c ∧ t.session = s.session ∧
          t.underWay = s.underWay ++ [c] ∧ t.made = s.made ++ [c] ∧ t.past = s.past)
      ∨ ∃ c others next, (∀ d, d ∈ s.underWay ↔ d = c ∨ d ∈ others) ∧
          s.session.GoesOn c t.session next ∧ t.underWay = others ++ next.toList ∧
          t.made = s.made ++ next.toList ∧ t.past = s.past ++ [⟨c, others⟩] := by
  obtain ⟨h, ht⟩ := h
  cases h with
  | begin op =>
      rw [after?] at ht
      split at ht
      · next hop =>
          cases ht
          obtain ⟨hsession, hcall | ⟨c, hcall, hconnected, hopens⟩⟩ := Session.begin_cases (s := s.session) hop
          · -- an operation that makes no call is over, and has changed nothing
            refine Or.inl ⟨hsession, ?_, ?_, rfl⟩
            · rw [underWay_enter, hcall, Option.toList_none, List.append_nil]
            · rw [made_enter, hcall, Option.toList_none, List.append_nil]
          · refine Or.inr (Or.inl ⟨c, hconnected, hopens, hsession, ?_, ?_, rfl⟩)
            · rw [underWay_enter, hcall, Option.toList_some]
            · rw [made_enter, hcall, Option.toList_some]
      · cases ht
  | apply =>
      obtain ⟨c, hc, rfl⟩ := Option.map_eq_some_iff.1 ht
      obtain ⟨rest, hsent⟩ := List.head?_eq_some_iff.1 hc
      exact Or.inl ⟨rfl, by simp [underWay, hsent], by simp [made, hsent], rfl⟩
  | answer =>
      obtain ⟨c, hc, rfl⟩ := Option.map_eq_some_iff.1 ht
      obtain ⟨rest, happlied⟩ := List.head?_eq_some_iff.1 hc
      exact Or.inl ⟨rfl, by simp [underWay, happlied], rfl, rfl⟩
  | goOn i a =>
      rw [after?] at ht
      split at ht
      · next ha =>
          obtain ⟨c, hc, rfl⟩ := Option.map_eq_some_iff.1 ht
          have hmem : ∀ d, d ∈ s.underWay ↔ d = c ∨ d ∈ (s.release i c).underWay :=
            fun d => mem_underWay_release hc
          obtain ⟨hconnected, hstate⟩ := hs.onState c (hs.mem_made c ((hmem c).2 (Or.inl rfl)))
          exact Or.inr (Or.inr ⟨c, (s.release i c).underWay, _, hmem,
            Session.goesOn_resume hconnected hstate ha, underWay_enter .., made_enter .., rfl⟩)
      · cases ht

/-- A step keeps operations proper. -/
theorem proper_step {s t : Overlap} (hs : Proper s) (h : Step s t) : Proper t := by
  rcases step_cases hs h with ⟨hsession, hunderWay, hmade, -⟩
    | ⟨c, hconnected, hopens, hsession, hunderWay, hmade, -⟩
    | ⟨c, others, next, hmem, hgoes, hunderWay, hmade, -⟩
  · obtain ⟨honState, hmemMade⟩ := hs
    rw [← hmade, ← hsession] at honState
    rw [← hunderWay, ← hmade] at hmemMade
    exact ⟨honState, hmemMade⟩
  · constructor
    · rw [hmade, hsession]
      exact List.forall_mem_append.2
        ⟨hs.onState, List.forall_mem_singleton.2 ⟨hconnected, hopens.onState⟩⟩
    · rw [hunderWay, hmade]
      exact List.forall_mem_append.2
        ⟨fun d hd => List.mem_append_left _ (hs.mem_made d hd), fun d hd => List.mem_append_right _ hd⟩
  · have hconnected := (hs.onState c (hs.mem_made c ((hmem c).2 (Or.inl rfl)))).1
    constructor
    · rw [hmade, hgoes.session_eq.1]
      refine List.forall_mem_append.2 ⟨hs.onState, fun d hd => ⟨hconnected, ?_⟩⟩
      obtain rfl := Option.mem_toList.1 hd
      exact hgoes.next_onState
    · rw [hunderWay, hmade]
      exact List.forall_mem_append.2
        ⟨fun d hd => List.mem_append_left _ (hs.mem_made d ((hmem d).2 (Or.inr hd))),
          fun d hd => List.mem_append_right _ hd⟩

/-- Operations are proper, whatever has happened. -/
theorem proper_of_reachable {s₀ : Session} {s : Overlap} (h : Reachable (start s₀) s) : Proper s := by
  induction h with
  | refl => exact ⟨fun _ => nofun, fun _ => nofun⟩
  | tail _ hs ih => exact proper_step ih hs

/-! ## The last call about a path -/

/-- The last of a list that satisfies a test. -/
def lastOf {α : Type} (test : α → Bool) (l : List α) : Option α := (l.filter test).getLast?

/-- The last of a longer list is what was added, if that satisfies the test. -/
theorem lastOf_concat {α : Type} (test : α → Bool) (l : List α) (a : α) :
    lastOf test (l ++ [a]) = if test a then some a else lastOf test l := by
  rw [lastOf, List.filter_append, List.filter_singleton]
  cases test a with
  | true => exact List.getLast?_concat
  | false => rw [Bool.cond_false, List.append_nil]; rfl

/-- The last of a list that satisfies a test is in the list, and satisfies it. -/
theorem mem_of_lastOf {α : Type} {test : α → Bool} {l : List α} {a : α} (h : lastOf test l = some a) :
    a ∈ l ∧ test a = true := List.mem_filter.1 (List.mem_of_getLast? h)

/-- **The daemon has the state of a path** if the last call whose request updates the path, or has the daemon drop it, is
an update. -/
def Holds (root path : String) (log : List Call) : Prop :=
  ∃ c, lastOf (fun c => c.updates path || c.drops root path) log = some c ∧ c.updates path = true

/-- A path whose state the daemon has was updated. -/
theorem exists_updates_of_holds {root path : String} {log : List Call} (h : Holds root path log) :
    ∃ c ∈ log, c.updates path = true := by
  obtain ⟨c, hc, hupdates⟩ := h
  exact ⟨c, (mem_of_lastOf hc).1, hupdates⟩

/-- If the daemon has the state of a path after a call that does not update it, it had the state before, and does
not drop it. -/
theorem holds_concat {root path : String} {log : List Call} {c : Call} (hc : c.updates path = false)
    (h : Holds root path (log ++ [c])) : Holds root path log ∧ c.drops root path = false := by
  obtain ⟨d, hd, hupdates⟩ := h
  rw [lastOf_concat, hc, Bool.false_or] at hd
  split at hd
  · cases hd
    cases hc.symm.trans hupdates
  · next hdrops => exact ⟨⟨d, hd, hupdates⟩, Bool.eq_false_iff.2 hdrops⟩

/-- The same of a call that may have been made. -/
theorem holds_append_toList {root path : String} {log : List Call} {next : Option Call}
    (hnext : ∀ c ∈ next.toList, c.updates path = false) (h : Holds root path (log ++ next.toList)) :
    Holds root path log ∧ ∀ c ∈ next.toList, c.drops root path = false := by
  cases next with
  | none => exact ⟨by rwa [Option.toList_none, List.append_nil] at h, fun _ => nofun⟩
  | some c =>
      obtain ⟨hbefore, hdrops⟩ := holds_concat (hnext c (List.mem_singleton_self c)) h
      exact ⟨hbefore, List.forall_mem_singleton.2 hdrops⟩

/-- The last time that an operation went on with an update of a path. -/
def lastUpdate? (path : String) (past : List TakeUp) : Option TakeUp := lastOf (fun m => m.call.updates path) past

/-! ## The invariant -/

/-- **A path is accounted for.** -/
structure Accounted (path : String) (s : Overlap) : Prop where
  /-- An update that was made is under way, or has been gone on with. -/
  known : ∀ c ∈ s.made, c.updates path = true →
    (∃ d ∈ s.underWay, d.updates path = true) ∨ ∃ m, lastUpdate? path s.past = some m
  /-- Once all updates have been gone on with and the last was undisturbed, the path is tracked, and all that is
  under way spares it, unless the daemon drops it after all. -/
  tracked : ∀ m, lastUpdate? path s.past = some m → m.IsUndisturbed s.session.appRoot path →
    (∀ c ∈ s.underWay, c.updates path = false) → Holds s.session.appRoot path s.made →
      path ∈ s.session.ledger ∧ ∀ c ∈ s.underWay, c.Spares s.session.appRoot path
  /-- Once the last update was disturbed, the path is tracked only as long as something threatens it. -/
  lost : ∀ m, lastUpdate? path s.past = some m → ¬ m.IsUndisturbed s.session.appRoot path →
    path ∈ s.session.ledger → ∃ c ∈ s.underWay, c.threatens s.session.appRoot path = true

/-- A path is accounted for before any operation begins. -/
theorem accounted_start (path : String) (s : Session) : Accounted path (start s) where
  known _ hc := absurd hc List.not_mem_nil
  tracked _ hm := nomatch hm
  lost _ hm := nomatch hm

/-- A path stays accounted for when an operation begins. -/
theorem accounted_begin {path : String} {s t : Overlap} {c : Call} (hs : Accounted path s)
    (hopens : s.session.Opens c) (hsession : t.session = s.session)
    (hunderWay : t.underWay = s.underWay ++ [c]) (hmade : t.made = s.made ++ [c]) (hpast : t.past = s.past) :
    Accounted path t := by
  constructor
  · rw [hunderWay, hmade, hpast]
    intro d hd hupdates
    rcases List.mem_append.1 hd with hd | hd
    · refine (hs.known d hd hupdates).imp_left ?_
      rintro ⟨e, he, h⟩
      exact ⟨e, List.mem_append_left _ he, h⟩
    · exact Or.inl ⟨d, List.mem_append_right _ hd, hupdates⟩
  · rw [hunderWay, hmade, hsession, hpast]
    intro m hm hundisturbed hupdates hholds
    -- the new call is no update, so the daemon had the state of the path before it
    obtain ⟨hold, hc⟩ := List.forall_mem_append.1 hupdates
    obtain ⟨hbefore, hdrops⟩ := holds_concat (hc c List.mem_cons_self) hholds
    obtain ⟨hpath, hspares⟩ := hs.tracked m hm hundisturbed hold hbefore
    exact ⟨hpath, List.forall_mem_append.2
      ⟨hspares, List.forall_mem_singleton.2 (hopens.spares hpath hdrops)⟩⟩
  · rw [hunderWay, hsession, hpast]
    intro m hm hdisturbed hpath
    obtain ⟨d, hd, h⟩ := hs.lost m hm hdisturbed hpath
    exact ⟨d, List.mem_append_left _ hd, h⟩

/-- A path stays accounted for when an operation goes on with its update. -/
theorem accounted_updated {path : String} {s t : Overlap} {c : Call} {others : List Call} {next : Option Call}
    (h : s.session.GoesOn c t.session next) (hunderWay : t.underWay = others ++ next.toList)
    (hpast : t.past = s.past ++ [⟨c, others⟩]) (hc : c.updates path = true) : Accounted path t := by
  have hlast : lastUpdate? path t.past = some ⟨c, others⟩ := by
    rw [hpast, lastUpdate?, lastOf_concat, if_pos hc]
  -- the operation is finished, so just the others are under way that might have disturbed it
  obtain ⟨hpath, rfl⟩ := h.mem_of_updates hc
  refine ⟨fun _ _ _ => Or.inr ⟨_, hlast⟩, ?_, ?_⟩
  · rw [hunderWay, hlast]
    rintro _ ⟨⟩ hundisturbed - -
    refine ⟨hpath, fun d hd => Call.spares_of_threatens_eq (hundisturbed d ?_)⟩
    rwa [Option.toList_none, List.append_nil] at hd
  · rw [hunderWay, hlast]
    rintro _ ⟨⟩ hdisturbed -
    obtain ⟨d, hd, hthreat⟩ := TakeUp.exists_threatens hdisturbed
    exact ⟨d, List.mem_append_left _ hd, hthreat⟩

/-- A path stays accounted for when an operation goes on with anything but its update. -/
theorem accounted_other {path : String} {s t : Overlap} {c : Call} {others : List Call} {next : Option Call}
    (hs : Accounted path s) (hmem : ∀ d, d ∈ s.underWay ↔ d = c ∨ d ∈ others)
    (h : s.session.GoesOn c t.session next) (hunderWay : t.underWay = others ++ next.toList)
    (hmade : t.made = s.made ++ next.toList) (hpast : t.past = s.past ++ [⟨c, others⟩])
    (hc : c.updates path = false) : Accounted path t := by
  have hlast : lastUpdate? path t.past = lastUpdate? path s.past := by
    rw [hpast, lastUpdate?, lastOf_concat, if_neg (Bool.eq_false_iff.1 hc)]
    rfl
  have hroot : t.session.appRoot = s.session.appRoot := h.session_eq.2
  refine ⟨?_, ?_, ?_⟩
  · rw [hunderWay, hmade, hlast]
    intro d hd hupdates
    rcases List.mem_append.1 hd with hd | hd
    · refine (hs.known d hd hupdates).imp_left ?_
      rintro ⟨e, he, hupdates⟩
      rcases (hmem e).1 he with rfl | he
      · cases hc.symm.trans hupdates
      · exact ⟨e, List.mem_append_left _ he, hupdates⟩
    · exact Or.inl ⟨d, List.mem_append_right _ hd, hupdates⟩
  · rw [hunderWay, hmade, hroot, hlast]
    intro m hm hundisturbed hupdates hholds
    obtain ⟨hothers, -⟩ := List.forall_mem_append.1 hupdates
    obtain ⟨hbefore, hdrops⟩ := holds_append_toList (fun d hd => hupdates d (List.mem_append_right _ hd)) hholds
    have hold : ∀ d ∈ s.underWay, d.updates path = false := by
      intro d hd
      rcases (hmem d).1 hd with rfl | hd
      · exact hc
      · exact hothers d hd
    obtain ⟨hpath, hspares⟩ := hs.tracked m hm hundisturbed hold hbefore
    obtain ⟨hkept, hnext⟩ := h.keeps hpath (hspares c ((hmem c).2 (Or.inl rfl))) hdrops
    exact ⟨hkept, List.forall_mem_append.2 ⟨fun d hd => hspares d ((hmem d).2 (Or.inr hd)), hnext⟩⟩
  · rw [hunderWay, hroot, hlast]
    intro m hm hdisturbed hpath
    obtain ⟨hbefore, hnext⟩ := h.mem_before hc hpath
    obtain ⟨d, hd, hthreat⟩ := hs.lost m hm hdisturbed hbefore
    rcases (hmem d).1 hd with rfl | hd
    · -- the operation that goes on is the one that threatened the path
      obtain ⟨e, he, hthreat⟩ := hnext hthreat
      exact ⟨e, List.mem_append_right _ he, hthreat⟩
    · exact ⟨d, List.mem_append_left _ hd, hthreat⟩

/-- **A step keeps a path accounted for.** -/
theorem accounted_step {path : String} {s t : Overlap} (hp : Proper s) (hs : Accounted path s)
    (h : Step s t) : Accounted path t := by
  rcases step_cases hp h with ⟨hsession, hunderWay, hmade, hpast⟩
    | ⟨c, -, hopens, hsession, hunderWay, hmade, hpast⟩
    | ⟨c, others, next, hmem, hgoes, hunderWay, hmade, hpast⟩
  · obtain ⟨hknown, htracked, hlost⟩ := hs
    rw [← hunderWay, ← hmade, ← hpast] at hknown
    rw [← hunderWay, ← hmade, ← hpast, ← hsession] at htracked
    rw [← hunderWay, ← hpast, ← hsession] at hlost
    exact ⟨hknown, htracked, hlost⟩
  · exact accounted_begin hs hopens hsession hunderWay hmade hpast
  · cases hc : c.updates path with
    | true => exact accounted_updated hgoes hunderWay hpast hc
    | false => exact accounted_other hs hmem hgoes hunderWay hmade hpast hc

/-- A path is accounted for, whatever has happened. -/
theorem accounted_of_reachable {path : String} {s₀ : Session} {s : Overlap} (h : Reachable (start s₀) s) :
    Accounted path s := by
  induction h with
  | refl => exact accounted_start path s₀
  | tail hr hs ih => exact accounted_step (proper_of_reachable hr) ih hs

/-! ## What is tracked in the end -/

/-- **Which state is tracked when operations overlap.** Whatever operations on state are asked of a session, and in
whichever order they take their steps, the daemon applying their requests in the order in which they are sent, and
answering them with success in that order: when no call is under way, a path whose state the daemon has is tracked
if and only if nothing threatened it when an operation went on with its last update. -/
theorem mem_ledger_iff {s₀ : Session} {s : Overlap} {path : String} (h : Reachable (start s₀) s)
    (hquiet : s.underWay = []) (hholds : Holds s.session.appRoot path s.log) :
    path ∈ s.session.ledger ↔
      ∃ m, lastUpdate? path s.past = some m ∧ m.IsUndisturbed s.session.appRoot path := by
  have hs : Accounted path s := accounted_of_reachable h
  have hmade : s.made = s.log := by
    rw [made, (List.append_eq_nil_iff.1 hquiet).2, List.append_nil]
  have hidle : ∀ c, c ∉ s.underWay := by
    rw [hquiet]
    exact fun _ => List.not_mem_nil
  constructor
  · intro hpath
    -- some update was made; nothing is under way, so it was gone on with, and nothing threatens the path
    obtain ⟨c, hc, hupdates⟩ := exists_updates_of_holds hholds
    rcases hs.known c (hmade.symm ▸ hc) hupdates with ⟨d, hd, -⟩ | ⟨m, hm⟩
    · exact absurd hd (hidle d)
    · refine ⟨m, hm, Classical.not_not.1 fun hdisturbed => ?_⟩
      obtain ⟨d, hd, -⟩ := hs.lost m hm hdisturbed hpath
      exact hidle d hd
  · rintro ⟨m, hm, hundisturbed⟩
    exact (hs.tracked m hm hundisturbed (fun c hc => absurd hc (hidle c)) (hmade.symm ▸ hholds)).1

/-- A session that is connected and has not pushed any state. -/
def greeter : Session := { plan := { name := "greeter" }, connected := true }

/-- An answer that is a success. -/
def success : Answer := .response (.outcome {})

/-- A path is updated. While another update is under way, all state is to be deleted; the operations go on in the
order in which their calls were made. -/
def sweepAfterUpdate : List Happening :=
  [.begin (.updateState "/a" "{}"), .apply, .answer, .goOn 0 success,
   .begin (.updateState "/b" "{}"), .begin .deleteAllState, .apply, .apply, .answer, .answer,
   .goOn 0 success, .goOn 0 success]

/-- The same, but the other path is updated after the call by which the first is deleted. -/
def sweepBeforeUpdate : List Happening :=
  [.begin (.updateState "/a" "{}"), .apply, .answer, .goOn 0 success,
   .begin .deleteAllState, .begin (.updateState "/b" "{}"), .apply, .apply, .answer, .answer,
   .goOn 0 success, .goOn 0 success]

/-- The operation that deletes all state is done when the other update is gone on with, so the path is tracked. -/
theorem mem_ledger_sweepBeforeUpdate :
    ∃ s, Reachable (start greeter) s ∧ s.underWay = [] ∧ Holds s.session.appRoot "/b" s.log ∧
      "/b" ∈ s.session.ledger := by
  have hr : Reachable (start greeter) _ :=
    reachable_of_follow? (show (start greeter).follow? sweepBeforeUpdate = some _ from rfl)
  refine ⟨_, hr, rfl, ⟨_, rfl, rfl⟩, ?_⟩
  exact (mem_ledger_iff hr rfl ⟨_, rfl, rfl⟩).2 ⟨_, rfl, fun _ => nofun⟩

/-- State that the daemon has may be forgotten: the operation that deletes all state takes it that nothing is left,
and the path that was updated since it began cannot be deleted any more. -/
theorem forgotten :
    ∃ s, Reachable (start greeter) s ∧ s.underWay = [] ∧ Holds s.session.appRoot "/b" s.log ∧
      "/b" ∉ s.session.ledger ∧
      (s.session.begin (.deleteState "/b")).2 = .finished (.error (.state (.notTracked "/b"))) [] :=
  ⟨_, reachable_of_follow? (show (start greeter).follow? sweepAfterUpdate = some _ from rfl), rfl,
    ⟨_, rfl, rfl⟩, Ledger.not_mem_empty "/b", rfl⟩

end Overlap

end NetworkAgent
