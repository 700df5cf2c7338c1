import NetworkAgent.Session.Operation

/-! # What an operation on state does

An operation on state updates a path, deletes one, or deletes all. It changes its session only when it goes on with
the answer to a call; when it begins, it leaves the session alone. This file says, once and for all, which calls
such an operation makes, and what it does with the success of each.

* **`StateRequest`** — what the daemon is told about the state of a path, with the request that tells it.
* **`Call`** — a call with the operation that waits for its answer, and `Call.asked?`, what it asks for. It **threatens**
  a path if it has the daemon drop it, or belongs to an operation that deletes all state; it **spares** a tracked path
  if its operation is still to come to it.
* **`Session.Opens`** — the calls with which an operation begins, by `Session.begin_cases`.
* **`Session.GoesOn`** — what an operation does with the success of its call, by `Session.goesOn_resume`.
* `Session.GoesOn.keeps` and `Session.GoesOn.mem_before` — what becomes of a path when an operation goes on. -/

namespace NetworkAgent

open Message

/-! ## Calls -/

/-- **What the daemon is told about the state of a path.** -/
inductive StateRequest where
  /-- The state is pushed. -/
  | update (path json : String)
  /-- The state is deleted. -/
  | delete (path : String)
  deriving DecidableEq, Repr

/-- The request that tells it. The path goes by its JSPath, which other paths may have, too. -/
def StateRequest.request : StateRequest → Request
  | .update path json => .telemetryAddOrUpdate [⟨XPath.toJsPath path, json⟩]
  | .delete path => .telemetryDelete [XPath.toJsPath path]

/-- A call that an operation waits for. -/
structure Call where
  /-- What the daemon is asked for. -/
  request : Request
  /-- How the operation goes on with the answer. -/
  conversation : Conversation

namespace Call

/-- A call of an operation on state asks for what the operation is about. -/
inductive OnState : Call → Prop where
  | update (path json : String) : OnState ⟨Session.updateCall path json, .updating path json⟩
  | delete (path : String) (rest : Option (List String)) :
      OnState ⟨Session.deleteCall path, .deleting path rest⟩

/-- **What a call asks for**, if it asks for something about state: what its request says, and of all paths with the
JSPath in it the one that its operation is about. -/
def asked? (c : Call) : Option StateRequest :=
  match c.conversation with
  | .updating path json => if c.request = (StateRequest.update path json).request then some (.update path json) else none
  | .deleting path _ => if c.request = (StateRequest.delete path).request then some (.delete path) else none
  | _ => none

/-- Whether a call updates a path. -/
def updates (path : String) (c : Call) : Bool :=
  match c.asked? with
  | some (.update p _) => p == path
  | _ => false

/-- Whether a call has the daemon drop a path: it deletes the path, or the root container with the path in it. -/
def drops (root path : String) (c : Call) : Bool :=
  match c.asked? with
  | some (.delete p) => p == path || (p == root && XPath.isAtOrBelow path root)
  | _ => false

/-- Whether a call belongs to an operation that deletes all state. -/
def sweeps (c : Call) : Bool :=
  match c.conversation with
  | .deleting _ (some _) => true
  | _ => false

/-- **A call threatens a path** if it has the daemon drop it, or belongs to an operation that deletes all state. -/
def threatens (root path : String) (c : Call) : Bool := c.sweeps || c.drops root path

/-- An update asks for one. -/
@[simp] theorem asked?_updateCall {p json : String} :
    (⟨Session.updateCall p json, .updating p json⟩ : Call).asked? = some (.update p json) := if_pos rfl

/-- A delete asks for one. -/
@[simp] theorem asked?_deleteCall {p : String} {rest : Option (List String)} :
    (⟨Session.deleteCall p, .deleting p rest⟩ : Call).asked? = some (.delete p) := if_pos rfl

/-- An update updates its path. -/
@[simp] theorem updates_updateCall {path p json : String} :
    (⟨Session.updateCall p json, .updating p json⟩ : Call).updates path = true ↔ path = p := by
  rw [updates, asked?_updateCall]
  exact beq_iff_eq.trans eq_comm

/-- A delete updates nothing. -/
@[simp] theorem updates_deleteCall {path p : String} {rest : Option (List String)} :
    (⟨Session.deleteCall p, .deleting p rest⟩ : Call).updates path = false := by
  rw [updates, asked?_deleteCall]

/-- The daemon drops nothing by an update. -/
@[simp] theorem drops_updateCall {root path p json : String} :
    (⟨Session.updateCall p json, .updating p json⟩ : Call).drops root path = false := by
  rw [drops, asked?_updateCall]

/-- What the daemon drops by a delete. -/
theorem drops_deleteCall {root path p : String} {rest : Option (List String)} :
    (⟨Session.deleteCall p, .deleting p rest⟩ : Call).drops root path
      = (p == path || (p == root && XPath.isAtOrBelow path root)) := by
  rw [drops, asked?_deleteCall]

/-- A call has nothing to do with a path, and its operation still has to come to the path if it deletes all. -/
structure Spares (root path : String) (c : Call) : Prop where
  /-- The daemon does not drop the path. -/
  drops_eq : c.drops root path = false
  /-- Of all that is to be deleted, the path is left. -/
  mem_rest : ∀ p rest, c.conversation = .deleting p (some rest) → path ∈ rest

/-- A call that does not threaten a path spares it. -/
theorem spares_of_threatens_eq {root path : String} {c : Call} (h : c.threatens root path = false) :
    c.Spares root path := by
  obtain ⟨hsweeps, hdrops⟩ := Bool.or_eq_false_iff.1 h
  refine ⟨hdrops, fun p rest hc => ?_⟩
  rw [sweeps, hc] at hsweeps
  cases hsweeps

/-- Which paths the daemon does not drop by a delete. -/
theorem drops_eq_false_iff {root p path : String} {rest : Option (List String)} :
    (⟨Session.deleteCall p, .deleting p rest⟩ : Call).drops root path = false ↔
      if p = root then XPath.isAtOrBelow path p = false else path ≠ p := by
  rw [drops_deleteCall]
  by_cases hroot : p = root
  · subst hroot
    rw [if_pos rfl, Bool.or_eq_false_iff, beq_self_eq_true, Bool.true_and]
    refine ⟨And.right, fun h => ⟨beq_false_of_ne ?_, h⟩⟩
    rintro rfl
    exact absurd (XPath.isAtOrBelow_self p) (Bool.eq_false_iff.1 h)
  · rw [if_neg hroot, beq_false_of_ne hroot, Bool.false_and, Bool.or_false, beq_eq_false_iff_ne]
    exact ne_comm

/-- The daemon drops the path that a delete is about. -/
theorem ne_of_drops_eq_false {root p path : String} {rest : Option (List String)}
    (h : (⟨Session.deleteCall p, .deleting p rest⟩ : Call).drops root path = false) : path ≠ p := by
  rw [drops_deleteCall, Bool.or_eq_false_iff] at h
  exact fun he => absurd he.symm (ne_of_beq_false h.1)

/-- A path is tracked after a delete if it was before, and the daemon does not drop it. -/
theorem mem_drop_iff {root p path : String} {rest : Option (List String)} {l : Ledger} :
    path ∈ l.drop root p ↔
      path ∈ l ∧ (⟨Session.deleteCall p, .deleting p rest⟩ : Call).drops root path = false := by
  rw [Ledger.mem_drop, drops_eq_false_iff]

end Call

/-- The call that an operation waits for, if it waits for one. -/
def Stage.call? : Stage → Option Call
  | .waiting r c => some ⟨r, c⟩
  | .finished _ _ => none

/-- Whether an operation is one on state. -/
def Operation.isOnState : Operation → Bool
  | .updateState _ _ | .deleteState _ | .deleteAllState => true
  | _ => false

/-! ## What an operation on state does -/

namespace Session

/-- A call leaves the session alone. -/
theorem call_fst (s : Session) (r : Request) (c : Conversation) : (s.call r c).1 = s := by
  rw [call]
  split <;> rfl

/-- A call is made if the session is connected. -/
theorem call?_call (s : Session) (r : Request) (c : Conversation) :
    (s.call r c).2.call? = if s.connected then some ⟨r, c⟩ else none := by
  rw [call]
  split <;> rfl

/-- A session that is connected makes the call of an update at once. -/
theorem begin_updateState {s : Session} (hs : s.connected = true) (path json : String) :
    s.begin (.updateState path json)
      = (s, .waiting (updateCall (s.statePath path) json) (.updating (s.statePath path) json)) := if_pos hs

/-- It makes the call of a tracked path's delete at once, too. -/
theorem begin_deleteState {s : Session} {path : String} (hs : s.connected = true) (h : s.statePath path ∈ s.ledger) :
    s.begin (.deleteState path)
      = (s, .waiting (deleteCall (s.statePath path)) (.deleting (s.statePath path) none)) := by
  rw [begin, if_pos h, call, if_pos hs]

/-- Of some paths the first that is tracked is deleted; if none is, nothing is tracked from then on. -/
theorem deleteNext_cases (s : Session) (paths : List String) :
    (∃ skipped path rest, paths = skipped ++ path :: rest ∧ (∀ p ∈ skipped, p ∉ s.ledger) ∧
        path ∈ s.ledger ∧ s.deleteNext paths = s.call (deleteCall path) (.deleting path (some rest)))
      ∨ ((∀ p ∈ paths, p ∉ s.ledger) ∧ s.deleteNext paths = { s with ledger := .empty }.done) := by
  induction paths with
  | nil => exact Or.inr ⟨fun _ => nofun, rfl⟩
  | cons p paths ih =>
      rw [deleteNext]
      by_cases hp : p ∈ s.ledger
      · rw [if_pos hp]
        exact Or.inl ⟨[], p, paths, rfl, fun _ => nofun, hp, rfl⟩
      · rw [if_neg hp]
        rcases ih with ⟨skipped, path, rest, rfl, hskipped, hpath, h⟩ | ⟨hpaths, h⟩
        · exact Or.inl ⟨p :: skipped, path, rest, rfl, List.forall_mem_cons.2 ⟨hp, hskipped⟩, hpath, h⟩
        · exact Or.inr ⟨List.forall_mem_cons.2 ⟨hp, hpaths⟩, h⟩

/-- **The calls with which an operation on state begins.** -/
inductive Opens (s : Session) : Call → Prop where
  /-- It updates a path. -/
  | update (path json : String) : Opens s ⟨updateCall path json, .updating path json⟩
  /-- It deletes a path, which has to be tracked. -/
  | delete {path : String} (h : path ∈ s.ledger) : Opens s ⟨deleteCall path, .deleting path none⟩
  /-- It deletes the first of the tracked paths, and is to go on with the others. -/
  | sweep {path : String} {rest : List String} (h : s.ledger.paths = path :: rest) :
      Opens s ⟨deleteCall path, .deleting path (some rest)⟩

/-- **What an operation on state does with the success of its call**: from a session, with the call, to a session,
with the call that it makes next. -/
inductive GoesOn (s : Session) : Call → Session → Option Call → Prop where
  /-- The path that was updated is tracked. -/
  | updated {path json : String} :
      GoesOn s ⟨updateCall path json, .updating path json⟩ { s with ledger := s.ledger.insert path } none
  /-- The path that was deleted is not tracked any more. -/
  | deleted {path : String} :
      GoesOn s ⟨deleteCall path, .deleting path none⟩ { s with ledger := s.ledger.drop s.appRoot path } none
  /-- Of all paths that were to be deleted, it deletes the next that is still tracked. -/
  | sweeps {path next : String} {skipped rest : List String}
      (h : ∀ p ∈ skipped, p ∉ s.ledger.drop s.appRoot path)
      (hnext : next ∈ s.ledger.drop s.appRoot path) :
      GoesOn s ⟨deleteCall path, .deleting path (some (skipped ++ next :: rest))⟩
        { s with ledger := s.ledger.drop s.appRoot path }
        (some ⟨deleteCall next, .deleting next (some rest)⟩)
  /-- None of the paths that were to be deleted is still tracked, and it takes it that no other is. -/
  | swept {path : String} {rest : List String}
      (h : ∀ p ∈ rest, p ∉ s.ledger.drop s.appRoot path) :
      GoesOn s ⟨deleteCall path, .deleting path (some rest)⟩ { s with ledger := .empty } none

/-- A session that is to make a call makes it, or is not connected. -/
theorem call_cases {s : Session} {r : Request} {c : Conversation} (h : s.Opens ⟨r, c⟩) :
    (s.call r c).1 = s ∧
      ((s.call r c).2.call? = none ∨
        ∃ d, (s.call r c).2.call? = some d ∧ s.connected = true ∧ s.Opens d) := by
  refine ⟨s.call_fst r c, ?_⟩
  rw [call?_call]
  split
  · next hconnected => exact Or.inr ⟨_, rfl, hconnected, h⟩
  · exact Or.inl rfl

/-- **An operation on state begins** by leaving the session alone, with a call if with anything. -/
theorem begin_cases {s : Session} {op : Operation} (h : op.isOnState = true) :
    (s.begin op).1 = s ∧
      ((s.begin op).2.call? = none ∨
        ∃ c, (s.begin op).2.call? = some c ∧ s.connected = true ∧ s.Opens c) := by
  cases op with
  | updateState path json => exact call_cases (.update _ _)
  | deleteState path =>
      rw [begin]
      split
      · next htracked => exact call_cases (.delete htracked)
      · exact ⟨rfl, Or.inl rfl⟩
  | deleteAllState =>
      obtain ⟨plan, connected, appId, ⟨paths, increasing⟩, snapshot, cancelled⟩ := s
      -- the paths to delete are those that are tracked, so the first of them is deleted if there is one
      cases paths with
      | nil => exact ⟨rfl, Or.inl rfl⟩
      | cons path rest =>
          rw [begin, deleteNext, if_pos (Ledger.mem_iff.2 List.mem_cons_self)]
          exact call_cases (.sweep rfl)
  | _ => cases h

/-- **An operation on state does nothing else** with the success of its call. -/
theorem goesOn_resume {s : Session} {c : Call} {a : Answer} (hs : s.connected = true) (hc : c.OnState)
    (ha : a.succeeded = true) :
    s.GoesOn c (s.resume c.conversation a).1 (s.resume c.conversation a).2.call? := by
  cases hc with
  | update path json =>
      rw [resume, if_pos ha]
      exact .updated
  | delete path rest =>
      rw [resume, deleted, if_pos ha]
      cases rest with
      | none => exact .deleted
      | some rest =>
          rcases deleteNext_cases { s with ledger := s.ledger.drop s.appRoot path } rest with
            ⟨skipped, next, rest, rfl, hskipped, hnext, h⟩ | ⟨hrest, h⟩
          · simp only [h]
            rw [call_fst, call?_call, if_pos hs]
            exact .sweeps hskipped hnext
          · simp only [h]
            exact .swept hrest

/-- The call with which an operation begins is of an operation on state. -/
theorem Opens.onState {s : Session} {c : Call} (h : s.Opens c) : c.OnState := by
  cases h with
  | update path json => exact .update path json
  | delete h => exact .delete _ none
  | sweep h => exact .delete _ _

/-- The call with which an operation begins spares a tracked path unless the daemon drops it. -/
theorem Opens.spares {s : Session} {path : String} {c : Call} (h : s.Opens c) (hpath : path ∈ s.ledger)
    (hdrops : c.drops s.appRoot path = false) : c.Spares s.appRoot path := by
  refine ⟨hdrops, ?_⟩
  cases h with
  | update p json => exact fun _ _ => nofun
  | delete h => exact fun _ _ => nofun
  | @sweep p rest h =>
      rintro _ _ ⟨⟩
      rw [Ledger.mem_iff, h] at hpath
      exact (List.mem_cons.1 hpath).resolve_left (Call.ne_of_drops_eq_false hdrops)

/-- A session stays connected, with its root container, when an operation goes on. -/
theorem GoesOn.session_eq {s u : Session} {c : Call} {next : Option Call} (h : s.GoesOn c u next) :
    u.connected = s.connected ∧ u.appRoot = s.appRoot := by
  cases h <;> exact ⟨rfl, rfl⟩

/-- The call that an operation makes when it goes on is of an operation on state. -/
theorem GoesOn.next_onState {s u : Session} {c d : Call} (h : s.GoesOn c u (some d)) : d.OnState := by
  cases h with
  | sweeps h hnext => exact .delete _ _

/-- A path whose update an operation goes on with is tracked, and the operation is finished. -/
theorem GoesOn.mem_of_updates {s u : Session} {path : String} {c : Call} {next : Option Call}
    (h : s.GoesOn c u next) (hc : c.updates path = true) : path ∈ u.ledger ∧ next = none := by
  cases h with
  | updated => exact ⟨Ledger.mem_insert.2 (Or.inl (Call.updates_updateCall.1 hc)), rfl⟩
  | _ => cases Call.updates_deleteCall.symm.trans hc

/-- A tracked path stays tracked when an operation goes on that spares it, and the operation goes on sparing it
unless the daemon drops the path. -/
theorem GoesOn.keeps {s u : Session} {path : String} {c : Call} {next : Option Call} (h : s.GoesOn c u next)
    (hpath : path ∈ s.ledger) (hc : c.Spares s.appRoot path)
    (hdrops : ∀ d ∈ next.toList, d.drops s.appRoot path = false) :
    path ∈ u.ledger ∧ ∀ d ∈ next.toList, d.Spares s.appRoot path := by
  cases h with
  | updated => exact ⟨Ledger.mem_insert.2 (Or.inr hpath), fun _ => nofun⟩
  | deleted => exact ⟨Call.mem_drop_iff.2 ⟨hpath, hc.drops_eq⟩, fun _ => nofun⟩
  | @sweeps p next skipped rest h hnext =>
      have hkept := Call.mem_drop_iff.2 ⟨hpath, hc.drops_eq⟩
      have hnot := List.forall_mem_singleton.1 hdrops
      refine ⟨hkept, List.forall_mem_singleton.2 ⟨hnot, ?_⟩⟩
      rintro _ _ ⟨⟩
      -- the path is to be deleted still; it is not skipped, being tracked, and it is not the next
      rcases List.mem_append.1 (hc.mem_rest _ _ rfl) with hskipped | hrest
      · exact absurd hkept (h path hskipped)
      · exact (List.mem_cons.1 hrest).resolve_left (Call.ne_of_drops_eq_false hnot)
  | swept h =>
      have hkept := Call.mem_drop_iff.2 ⟨hpath, hc.drops_eq⟩
      exact absurd hkept (h path (hc.mem_rest _ _ rfl))

/-- A path that is tracked after an operation went on with anything but its update was tracked before, and if the
operation threatened it, it still does. -/
theorem GoesOn.mem_before {s u : Session} {path : String} {c : Call} {next : Option Call}
    (h : s.GoesOn c u next) (hc : c.updates path = false) (hpath : path ∈ u.ledger) :
    path ∈ s.ledger ∧
      (c.threatens s.appRoot path = true → ∃ d ∈ next.toList, d.threatens s.appRoot path = true) := by
  cases h with
  | @updated p json =>
      have hne : path ≠ p := fun he => Bool.eq_false_iff.1 hc (Call.updates_updateCall.2 he)
      refine ⟨(Ledger.mem_insert.1 hpath).resolve_left hne, fun hthreat => ?_⟩
      rw [Call.threatens, Call.drops_updateCall] at hthreat
      cases hthreat
  | @deleted p =>
      have hkept : path ∈ s.ledger ∧ (⟨deleteCall p, .deleting p none⟩ : Call).drops s.appRoot path = false :=
        Call.mem_drop_iff.1 hpath
      refine ⟨hkept.1, fun hthreat => ?_⟩
      cases hthreat.symm.trans hkept.2
  | sweeps h hnext => exact ⟨(Ledger.mem_drop.1 hpath).1, fun _ => ⟨_, List.mem_singleton_self _, rfl⟩⟩
  | swept h => exact absurd hpath (Ledger.not_mem_empty path)

end Session

end NetworkAgent
