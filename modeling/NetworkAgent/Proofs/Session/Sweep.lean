import Mathlib.Tactic.ByContra
import NetworkAgent.Proofs.Session.Acknowledged
import NetworkAgent.Proofs.Session.Registration
import NetworkAgent.Proofs.Text.Order

/-! # Deleting all state

An application that deletes all state has the paths deleted that were tracked when it asked for it, one after another in
their order. What is tracked changes meanwhile: with the root container goes all that is in it, so that its turn does
not come any more. The root container comes before what is in it, for a path comes before its continuations.

* `Record.connected_of_mem_run` — an agent tracks something only once it is connected.
* **`Deletion`** — a delete with its answer.
* **`Session.Cleared`** — a session some of whose paths have been deleted; `Cleared.concat` deletes one more.
* **`Session.Sweeping`** — the invariant: how far an operation that deletes all state has come. `Cleared.sweeping` is
  the step that looks for the next path, and `sweeping_resume` the one with an answer.
* **`Record.sweep_of_perform`** — which deletes are sent, what is tracked in the end, and what the operation reports. -/

namespace NetworkAgent

/-- **A path comes after those that it continues.** -/
theorem XPath.lt_of_isAtOrBelow {path root : String} (h : isAtOrBelow path root = true) (hne : path ≠ root) :
    root < path := by
  rcases isAtOrBelow_iff.1 h with he | ⟨c, rest, he, -⟩
  · exact absurd he hne
  · have hl : root.toList ++ [] < root.toList ++ c :: rest := List.append_left_lt (List.nil_lt_cons c rest)
    rw [List.append_nil, ← he] at hl
    exact String.lt_iff.2 hl

/-! ## Sessions that track something -/

/-- An operation tracks nothing new as it begins. -/
theorem Session.mem_of_mem_begin {s : Session} {op : Operation} {q : String} (h : q ∈ (s.begin op).1.ledger) :
    q ∈ s.ledger := by
  have hcall (r : Request) (c : Conversation) (h : q ∈ (s.call r c).1.ledger) : q ∈ s.ledger := by
    rwa [call_fst] at h
  cases op with
  | start link =>
      rw [begin] at h
      rcases s.beginStart_cases link with ⟨e, he, -⟩ | ⟨-, he⟩ <;> rwa [he] at h
  | deleteAllState =>
      rw [begin] at h
      rcases s.deleteNext_cases s.ledger.paths with ⟨-, path, rest, -, -, -, he⟩ | ⟨-, he⟩
      · rw [he] at h
        exact hcall _ _ h
      · rw [he] at h
        exact absurd h (Ledger.not_mem_empty q)
  | acknowledge infos =>
      rw [begin, beginAcknowledge] at h
      repeat' split at h
      all_goals first | exact h | exact hcall _ _ h
  | stop | deleteState path | deleteRoutes networkInstance destinations | receive topic =>
      rw [begin] at h
      split at h
      all_goals first | exact h | exact hcall _ _ h
  | _ => exact hcall _ _ h

/-- **A session that does anything with the daemon is connected.** -/
structure Session.Linked (s : Session) (stage : Stage) : Prop where
  /-- It is if it tracks anything. -/
  tracks : ∀ q ∈ s.ledger, s.connected = true
  /-- It is if an operation of it makes a call. -/
  calls : ∀ c ∈ stage.call?, s.connected = true

/-- **An agent tracks something only once it is connected**, whatever was asked of it. -/
theorem Record.connected_of_mem_run {plan : Plan} {daemon : Daemon} {ops : List Operation} {q : String}
    (h : q ∈ (run daemon ⟨.new plan, []⟩ ops).session.ledger) :
    (run daemon ⟨.new plan, []⟩ ops).session.connected = true := by
  refine run_invariant (P := fun r => ∀ q ∈ r.session.ledger, r.session.connected = true)
    (fun _ hq => absurd hq (Ledger.not_mem_empty _)) (fun r op _ hr => ?_) q h
  obtain ⟨hstays, hcalls⟩ := r.session.connected_begin op
  have hbegin : (r.session.begin op).1.Linked (r.session.begin op).2 :=
    ⟨fun q hq => hstays (hr q (Session.mem_of_mem_begin hq)), hcalls⟩
  have hresume (s : Session) (history : List Exchange) (r : Request) (c : Conversation) (a : Answer)
      (h : s.Linked (.waiting r c)) : (s.resume c a).1.Linked (s.resume c a).2 := by
    have hs : (s.resume c a).1.connected = true := (s.connected_resume c a).trans (h.calls _ rfl)
    exact ⟨fun _ _ => hs, fun _ _ => hs⟩
  obtain ⟨jobs, hend⟩ := Session.converse_invariant (P := fun s _ stage => s.Linked stage) hresume hbegin
  exact hend.tracks

/-! ## Deletes -/

/-- A delete of a path's state, with its answer. -/
structure Deletion where
  /-- The path. -/
  path : String
  /-- The answer. -/
  answer : Answer

namespace Deletion

/-- What was asked and answered in a delete, which names the path's JSPath and nothing else. -/
def said (d : Deletion) : Request × Answer := (.telemetryDelete [XPath.toJsPath d.path], d.answer)

/-- Whether a path goes with a delete: it is the one that is deleted, or is in the root container that is. -/
def drops (root path : String) (d : Deletion) : Bool :=
  d.path == path || (d.path == root && XPath.isAtOrBelow path root)

/-- The paths that are left go with none of the deletes. -/
theorem forall_concat {root path : String} {done : List Deletion} {d : Deletion} :
    (∀ e ∈ done ++ [d], e.drops root path = false) ↔
      (∀ e ∈ done, e.drops root path = false) ∧ d.drops root path = false := by
  simp only [List.forall_mem_append, List.forall_mem_singleton]

end Deletion

namespace Session

variable {s u : Session} {done : List Deletion}

/-! ## Sessions that are being cleared -/

/-- **A session some of whose paths have been deleted.** -/
structure Cleared (s : Session) (done : List Deletion) (u : Session) : Prop where
  /-- Nothing but the ledger has changed. -/
  session_eq : u = { s with ledger := u.ledger }
  /-- What is tracked was so before, and went with none of the deletes. -/
  mem_iff : ∀ q, q ∈ u.ledger ↔ q ∈ s.ledger ∧ ∀ d ∈ done, d.drops s.appRoot q = false
  /-- The deletes have succeeded. -/
  succeeded : ∀ d ∈ done, d.answer.IsSuccess
  /-- They were of tracked paths. -/
  tracked : ∀ d ∈ done, d.path ∈ s.ledger
  /-- Nothing in a tracked root container was deleted by itself. -/
  root : s.appRoot ∈ s.ledger → ∀ d ∈ done, XPath.isAtOrBelow d.path s.appRoot = true → d.path = s.appRoot

/-- None of the paths has been deleted at first. -/
theorem cleared_nil (s : Session) : Cleared s [] s where
  session_eq := rfl
  mem_iff _ := ⟨fun hq => ⟨hq, fun _ hd => absurd hd List.not_mem_nil⟩, And.left⟩
  succeeded _ hd := absurd hd List.not_mem_nil
  tracked _ hd := absurd hd List.not_mem_nil
  root _ _ hd := absurd hd List.not_mem_nil

/-- The root container is where it was. -/
theorem Cleared.appRoot_eq (h : Cleared s done u) : u.appRoot = s.appRoot := by
  rw [h.session_eq]
  rfl

/-- With a ledger put into both, the sessions are the same. -/
theorem Cleared.with_ledger (h : Cleared s done u) (l : Ledger) : { u with ledger := l } = { s with ledger := l } := by
  rw [h.session_eq]

/-- A session that was connected if it tracked anything still is. -/
theorem Cleared.connected (h : Cleared s done u) (hs : ∀ q ∈ s.ledger, s.connected = true) {path : String}
    (hpath : path ∈ u.ledger) : u.connected = true := by
  rw [h.session_eq]
  exact hs path ((h.mem_iff path).1 hpath).1

/-- **In a tracked root container nothing is deleted by itself**: the root container was deleted before, and then the
path is not tracked any more, or is still to be deleted, and then it comes first. -/
theorem Cleared.eq_root {path : String} {rest : List String} (h : Cleared s done u) (hpath : path ∈ u.ledger)
    (hrest : ∀ q ∈ u.ledger, q = path ∨ q ∈ rest) (hsorted : ∀ q ∈ rest, path < q) (hroot : s.appRoot ∈ s.ledger)
    (hbelow : XPath.isAtOrBelow path s.appRoot = true) : path = s.appRoot := by
  by_contra hne
  have hlt : s.appRoot < path := XPath.lt_of_isAtOrBelow hbelow hne
  by_cases hleft : s.appRoot ∈ u.ledger
  · rcases hrest _ hleft with he | hlater
    · exact hne he.symm
    · exact String.lt_irrefl _ (String.lt_trans hlt (hsorted _ hlater))
  · -- the root container went with a delete, and that can only have been its own
    have hgone : ¬ ∀ d ∈ done, d.drops s.appRoot s.appRoot = false := fun hd => hleft ((h.mem_iff _).2 ⟨hroot, hd⟩)
    obtain ⟨d, hd, hdrops⟩ : ∃ d ∈ done, d.drops s.appRoot s.appRoot = true := by
      simpa using hgone
    have hown : d.path = s.appRoot := by
      rcases Bool.or_eq_true_iff.1 hdrops with he | he
      · exact eq_of_beq he
      · exact eq_of_beq (Bool.and_eq_true_iff.1 he).1
    have hkept := ((h.mem_iff path).1 hpath).2 d hd
    rw [Deletion.drops, hown, beq_self_eq_true, hbelow, Bool.and_self, Bool.or_true] at hkept
    cases hkept

/-- **One more path is deleted.** -/
theorem Cleared.concat {path : String} {rest : List String} {a : Answer} (h : Cleared s done u)
    (hpath : path ∈ u.ledger) (hrest : ∀ q ∈ u.ledger, q = path ∨ q ∈ rest) (hsorted : ∀ q ∈ rest, path < q)
    (ha : a.IsSuccess) :
    Cleared s (done ++ [⟨path, a⟩]) { u with ledger := u.ledger.drop u.appRoot path } where
  session_eq := h.with_ledger _
  mem_iff q := by
    have hdrop : q ∈ u.ledger.drop u.appRoot path ↔
        q ∈ u.ledger ∧ (⟨deleteCall path, .deleting path none⟩ : Call).drops u.appRoot q = false :=
      Call.mem_drop_iff
    rw [Deletion.forall_concat, ← and_assoc, ← h.mem_iff, ← h.appRoot_eq, hdrop, Call.drops_deleteCall]
    rfl
  succeeded := List.forall_mem_append.2 ⟨h.succeeded, List.forall_mem_singleton.2 ha⟩
  tracked := List.forall_mem_append.2 ⟨h.tracked, List.forall_mem_singleton.2 ((h.mem_iff path).1 hpath).1⟩
  root hroot := List.forall_mem_append.2
    ⟨h.root hroot, List.forall_mem_singleton.2 (h.eq_root hpath hrest hsorted hroot)⟩

/-! ## How far it has come -/

/-- **How far an operation has come that deletes all state** of a session with a history: to a session, a history and
what the operation comes to. -/
inductive Sweeping (s : Session) (history : List Exchange) : Session → List Exchange → Stage → Prop where
  /-- It waits for the answer to a delete; what else is tracked is to be deleted after it. -/
  | awaiting {done : List Deletion} {u : Session} {now : List Exchange} {path : String} {rest : List String}
      (hsaid : now.map Exchange.said = history.map Exchange.said ++ done.map Deletion.said) (h : Cleared s done u)
      (hpath : path ∈ u.ledger) (hrest : ∀ q ∈ u.ledger, q = path ∨ q ∈ rest)
      (hsorted : (done.map (·.path) ++ path :: rest).Pairwise (· < ·)) :
      Sweeping s history u now (.waiting (deleteCall path) (.deleting path (some rest)))
  /-- It is done, and nothing is tracked. -/
  | swept {done : List Deletion} {u : Session} {now : List Exchange}
      (hsaid : now.map Exchange.said = history.map Exchange.said ++ done.map Deletion.said) (h : Cleared s done u)
      (hempty : u.ledger = .empty) (hsorted : (done.map (·.path)).Pairwise (· < ·)) :
      Sweeping s history u now (.finished (.ok .done) [])
  /-- It has stopped at a delete that failed. -/
  | stopped {done : List Deletion} {u : Session} {now : List Exchange} {path : String} {rest : List String}
      {a : Answer}
      (hsaid : now.map Exchange.said
        = history.map Exchange.said ++ (done ++ [Deletion.mk path a]).map Deletion.said) (h : Cleared s done u)
      (hpath : path ∈ u.ledger) (hrest : ∀ q ∈ u.ledger, q = path ∨ q ∈ rest)
      (hsorted : (done.map (·.path) ++ path :: rest).Pairwise (· < ·)) (ha : ¬a.IsSuccess) :
      Sweeping s history u now (.finished (.error (.state (.delete (XPath.toJsPath path)))) [])

variable {history now : List Exchange}

/-- **The next path is looked for** among some that have all that is tracked. -/
theorem Cleared.sweeping {paths : List String} (h : Cleared s done u) (hs : ∀ q ∈ s.ledger, s.connected = true)
    (hsaid : now.map Exchange.said = history.map Exchange.said ++ done.map Deletion.said)
    (hpaths : ∀ q ∈ u.ledger, q ∈ paths) (hsorted : (done.map (·.path) ++ paths).Pairwise (· < ·)) :
    Sweeping s history (u.deleteNext paths).1 now (u.deleteNext paths).2 := by
  rcases u.deleteNext_cases paths with ⟨skipped, path, rest, rfl, hskipped, hpath, he⟩ | ⟨hnone, he⟩
  · rw [he, call, if_pos (h.connected hs hpath)]
    refine .awaiting hsaid h hpath (fun q hq => ?_) ?_
    · -- what is still tracked was not skipped
      rcases List.mem_append.1 (hpaths q hq) with hq' | hq'
      · exact absurd hq (hskipped q hq')
      · exact List.mem_cons.1 hq'
    · exact hsorted.sublist ((List.sublist_append_right skipped _).append_left _)
  · have hgone : ∀ q, q ∉ u.ledger := fun q hq => hnone q (hpaths q hq) hq
    rw [he]
    refine .swept hsaid ⟨h.with_ledger .empty, fun q => ?_, h.succeeded, h.tracked, h.root⟩ rfl
      (hsorted.sublist (List.sublist_append_left _ paths))
    rw [← h.mem_iff]
    exact iff_of_false (Ledger.not_mem_empty q) (hgone q)

/-- **An operation that deletes all state goes on with an answer.** -/
theorem sweeping_resume {r : Request} {c : Conversation} {a : Answer} (hs : ∀ q ∈ s.ledger, s.connected = true)
    (h : Sweeping s history u now (.waiting r c)) :
    Sweeping s history (u.resume c a).1 (now ++ [⟨⟨r, c⟩, a⟩]) (u.resume c a).2 := by
  cases h with
  | @awaiting done _ _ path rest hsaid h hpath hrest hsorted =>
      have hafter : ∀ q ∈ rest, path < q := (List.pairwise_cons.1 (List.pairwise_append.1 hsorted).2.1).1
      have hsaid' : (now ++ [Exchange.mk ⟨deleteCall path, .deleting path (some rest)⟩ a]).map Exchange.said
          = history.map Exchange.said ++ (done ++ [Deletion.mk path a]).map Deletion.said := by
        rw [List.map_append, hsaid, List.map_append, List.append_assoc]
        rfl
      rw [resume, deleted]
      split
      · next ha =>
          have hnext := h.concat hpath hrest hafter (Answer.isSuccess_iff.2 ha)
          refine hnext.sweeping hs hsaid' (fun q hq => ?_) ?_
          · exact mem_rest_of_mem_drop hrest hq
          · rwa [List.map_append, List.append_assoc]
      · next ha => exact .stopped hsaid' h hpath hrest hsorted (mt Answer.isSuccess_iff.1 ha)

/-! ## What comes of it -/

/-- **What deleting all state of a session comes to**: some deletes, the session after them, and a result. -/
structure Swept (s : Session) (deletions : List Deletion) (u : Session) (result : Except Error Reply) : Prop where
  /-- Tracked paths are deleted, -/
  tracked : ∀ d ∈ deletions, d.path ∈ s.ledger
  /-- in strictly increasing order of their octets, and so each of them once. -/
  increasing : (deletions.map (·.path)).Pairwise fun p q => Utf8.encode p < Utf8.encode q
  /-- A tracked root container comes before all that is in it, -/
  root_first : s.appRoot ∈ s.ledger → ∀ q, XPath.isAtOrBelow q s.appRoot = true → q ≠ s.appRoot →
    Utf8.encode s.appRoot < Utf8.encode q
  /-- and what is in it is not deleted by itself. -/
  root_only : s.appRoot ∈ s.ledger → ∀ d ∈ deletions, XPath.isAtOrBelow d.path s.appRoot = true → d.path = s.appRoot
  /-- Nothing but the ledger has changed. -/
  session_eq : u = { s with ledger := u.ledger }
  /-- The operation succeeds if and only if every delete does. -/
  ok_iff : result = .ok .done ↔ ∀ d ∈ deletions, d.answer.IsSuccess
  /-- Then nothing is tracked, and all that was has gone with a delete. -/
  swept : result = .ok .done → u.ledger = .empty ∧ ∀ q ∈ s.ledger, ∃ d ∈ deletions, d.drops s.appRoot q = true
  /-- If not, it stops at the first delete that fails and reports it; what is tracked then is what went with none of
  the deletes before. -/
  stopped : result ≠ .ok .done → ∃ done last, deletions = done ++ [last] ∧
    (∀ d ∈ done, d.answer.IsSuccess) ∧ ¬last.answer.IsSuccess ∧
    result = .error (.state (.delete (XPath.toJsPath last.path))) ∧
    ∀ q, q ∈ u.ledger ↔ q ∈ s.ledger ∧ ∀ d ∈ done, d.drops s.appRoot q = false

/-- Octets are in order if texts are. -/
theorem pairwise_encode {paths : List String} (h : paths.Pairwise (· < ·)) :
    paths.Pairwise fun p q => Utf8.encode p < Utf8.encode q := h.imp Utf8.encode_lt_encode

/-- **What comes of an operation that deletes all state** when it is finished. -/
theorem Sweeping.swept_of_finished {result : Except Error Reply} {jobs : List Job}
    (h : Sweeping s history u now (.finished result jobs)) :
    ∃ deletions : List Deletion, now.map Exchange.said = history.map Exchange.said ++ deletions.map Deletion.said ∧
      Swept s deletions u result := by
  have hfirst (q : String) (hq : XPath.isAtOrBelow q s.appRoot = true) (hne : q ≠ s.appRoot) :
      Utf8.encode s.appRoot < Utf8.encode q := Utf8.encode_lt_encode (XPath.lt_of_isAtOrBelow hq hne)
  cases h with
  | @swept done _ _ hsaid h hempty hsorted =>
      refine ⟨done, hsaid, h.tracked, pairwise_encode hsorted, fun _ => hfirst, h.root, h.session_eq,
        iff_of_true rfl h.succeeded, fun _ => ⟨hempty, fun q hq => ?_⟩, fun hne => absurd rfl hne⟩
      by_contra hnone
      have hleft : q ∈ u.ledger := (h.mem_iff q).2 ⟨hq, fun d hd => by simpa using fun hdrops => hnone ⟨d, hd, hdrops⟩⟩
      rw [hempty] at hleft
      exact Ledger.not_mem_empty q hleft
  | @stopped done _ _ path rest a hsaid h hpath hrest hsorted ha =>
      have hafter : ∀ q ∈ rest, path < q := (List.pairwise_cons.1 (List.pairwise_append.1 hsorted).2.1).1
      have hlast : (done.map (·.path) ++ [path]).Pairwise (· < ·) :=
        hsorted.sublist ((List.singleton_sublist.2 List.mem_cons_self).append_left _)
      refine ⟨done ++ [⟨path, a⟩], hsaid, ?_, ?_, fun _ => hfirst, fun hroot => ?_, h.session_eq, ?_, nofun,
        fun _ => ?_⟩
      · exact List.forall_mem_append.2 ⟨h.tracked, List.forall_mem_singleton.2 ((h.mem_iff path).1 hpath).1⟩
      · rw [List.map_append]
        exact pairwise_encode hlast
      · exact List.forall_mem_append.2
          ⟨h.root hroot, List.forall_mem_singleton.2 (h.eq_root hpath hrest hafter hroot)⟩
      · refine iff_of_false nofun fun hall => ?_
        exact ha ((List.forall_mem_append.1 hall).2 _ (List.mem_singleton_self _))
      · exact ⟨done, ⟨path, a⟩, rfl, h.succeeded, ha, rfl, h.mem_iff⟩

end Session

namespace Record

/-- **Deleting all state.** Let a session be connected if it tracks anything, as by `connected_of_mem_run` every agent's
is; the daemon may answer each delete as it likes. An operation that deletes all state, and is alone, sends deletes and
nothing else, one after the answer to the other, and comes to what `Session.Swept` says. -/
theorem sweep_of_perform {r : Record} (h : ∀ q ∈ r.session.ledger, r.session.connected = true) (daemon : Daemon) :
    ∃ deletions : List Deletion,
      (r.perform daemon .deleteAllState).1.history.map Exchange.said
        = r.history.map Exchange.said ++ deletions.map Deletion.said ∧
      Session.Swept r.session deletions (r.perform daemon .deleteAllState).1.session
        (r.perform daemon .deleteAllState).2 := by
  have hbegin : Session.Sweeping r.session r.history (r.session.begin .deleteAllState).1 r.history
      (r.session.begin .deleteAllState).2 := by
    rw [Session.begin]
    refine (Session.cleared_nil r.session).sweeping h ?_ (fun _ => Ledger.mem_iff.1) ?_
    · rw [List.map_nil, List.append_nil]
    · exact r.session.ledger.increasing
  obtain ⟨jobs, hend⟩ := Session.converse_invariant (fun _ _ _ _ _ => Session.sweeping_resume h) hbegin
  exact hend.swept_of_finished

/-- A session that has pushed its root container, state in it, and state beside it. -/
def furnished : Session :=
  { pusher with ledger := ["/greeter/x", "/z", "/greeter", "/a"].foldl (fun l path => l.insert path) .empty }

/-- A daemon that refuses the third thing that it is asked for, and nothing else. -/
def refusesThird : Daemon := fun history _ =>
  if history.length = 2 then .failed ⟨.unavailable, "gone"⟩ else .response (.outcome {})

/-- The third delete is refused. What is in the root container was not deleted by itself, and is gone all the same. -/
theorem sweep_refusesThird :
    ∃ deletions : List Deletion,
      deletions.map Deletion.said =
        [(.telemetryDelete [".a"], .response (.outcome {})), (.telemetryDelete [".greeter"], .response (.outcome {})),
          (.telemetryDelete [".z"], .failed ⟨.unavailable, "gone"⟩)] ∧
      Session.Swept furnished deletions (perform refusesThird ⟨furnished, []⟩ .deleteAllState).1.session
        (perform refusesThird ⟨furnished, []⟩ .deleteAllState).2 ∧
      (perform refusesThird ⟨furnished, []⟩ .deleteAllState).2 = .error (.state (.delete ".z")) ∧
      (perform refusesThird ⟨furnished, []⟩ .deleteAllState).1.session.ledger.paths = ["/z"] := by
  have hconnected : ∀ q ∈ furnished.ledger, furnished.connected = true := fun _ _ => rfl
  obtain ⟨deletions, hsaid, hswept⟩ := sweep_of_perform (r := ⟨furnished, []⟩) hconnected refusesThird
  refine ⟨deletions, ?_, hswept, by decide +kernel, by decide +kernel⟩
  rw [← List.nil_append (deletions.map Deletion.said)]
  refine hsaid.symm.trans ?_
  decide +kernel

end Record

end NetworkAgent
