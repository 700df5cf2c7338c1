import Mathlib.Data.List.Induction
import Mathlib.Data.Set.Insert
import NetworkAgent.Proofs.Log
import NetworkAgent.Proofs.Session.Sequence

/-! # The ledger of acknowledged state

While operations on state come one after another, what a session tracks can be read off from what was said: it is
the state that the daemon has acknowledged and not dropped since.

* **`Telling`** — what the daemon was told about the state of a path, with what it answered; `Telling.said` is how that
  goes over the wire.
* **`acknowledged root told`** — the paths of the state in question, by what was told and answered alone.
  `mem_acknowledged_update`, `mem_acknowledged_delete` and `acknowledged_failure` say what one more telling changes.
* **`Tells`** — what is told by operations one after another.
* **`Session.Awaits`** — the calls that a session may be waiting for, as far as its ledger is concerned.
* **`Agrees`** — the invariant: ledger and history agree, and the operation under way awaits what it may.
  `agrees_resume` keeps it with an answer, whichever that is.
* **`Record.ledger_of_run`** — after any sequence of operations the ledger is what was acknowledged. -/

namespace NetworkAgent

/-! ## What the daemon has acknowledged -/

/-- **What the daemon was told about the state of a path**, with what it answered. -/
structure Telling where
  /-- What it was told. -/
  asked : StateRequest
  /-- What it answered. -/
  answer : Answer

/-- How that goes over the wire. -/
def Telling.said (x : Telling) : Request × Answer := (x.asked.request, x.answer)

/-- What is acknowledged after one more telling. With a success the path that is updated is; the path that is deleted is
not any more, and if that is the root container, nothing that is in it. -/
def acknowledge (root : String) (known : Set String) (x : Telling) : Set String :=
  if x.answer.IsSuccess then
    match x.asked with
    | .update path _ => insert path known
    | .delete path => {q | q ∈ known ∧ q ≠ path ∧ ¬(path = root ∧ XPath.isAtOrBelow q root = true)}
  else known

/-- **The paths whose state the daemon has acknowledged**, and not dropped since. -/
def acknowledged (root : String) (told : List Telling) : Set String := told.foldl (acknowledge root) ∅

section Acknowledged

variable {root path json q : String} {told : List Telling} {a : Answer}

/-- At first nothing is acknowledged. -/
@[simp] theorem not_mem_acknowledged_nil (root q : String) : q ∉ acknowledged root [] := id

/-- One more telling. -/
theorem acknowledged_concat (root : String) (told : List Telling) (x : Telling) :
    acknowledged root (told ++ [x]) = acknowledge root (acknowledged root told) x := by
  rw [acknowledged, List.foldl_append, List.foldl_cons, List.foldl_nil, ← acknowledged]

/-- What the success of an update changes. -/
theorem mem_acknowledged_update (ha : a.IsSuccess) :
    q ∈ acknowledged root (told ++ [⟨.update path json, a⟩]) ↔ q = path ∨ q ∈ acknowledged root told := by
  rw [acknowledged_concat, acknowledge, if_pos ha]
  exact Set.mem_insert_iff

/-- What the success of a delete changes. -/
theorem mem_acknowledged_delete (ha : a.IsSuccess) :
    q ∈ acknowledged root (told ++ [⟨.delete path, a⟩]) ↔
      q ∈ acknowledged root told ∧ q ≠ path ∧ ¬(path = root ∧ XPath.isAtOrBelow q root = true) := by
  rw [acknowledged_concat, acknowledge, if_pos ha]
  rfl

/-- A failure changes nothing. -/
theorem acknowledged_failure {w : StateRequest} (ha : ¬a.IsSuccess) :
    acknowledged root (told ++ [⟨w, a⟩]) = acknowledged root told := by
  rw [acknowledged_concat, acknowledge, if_neg ha]

end Acknowledged

/-- **A path is deleted only if it is acknowledged**, by what was told before. -/
def Entitled (root : String) (before : List Telling) (x : Telling) : Prop :=
  ∀ path, x.asked = .delete path → path ∈ acknowledged root before

/-- The path that an application means: the root container if it names none. -/
def meant (root path : String) : String := if path = "" then root else path

/-- **What is told by operations on state**, one after another. -/
inductive Tells (root : String) : List Operation → List Telling → Prop where
  /-- Without operations nothing is told. -/
  | nil : Tells root [] []
  /-- The update of a path tells just that. -/
  | update {ops : List Operation} {told : List Telling} (h : Tells root ops told) (path json : String) (a : Answer) :
      Tells root (ops ++ [.updateState path json]) (told ++ [⟨.update (meant root path) json, a⟩])
  /-- So does the delete of a path that is acknowledged. -/
  | delete {ops : List Operation} {told : List Telling} (h : Tells root ops told) {path : String}
      (hpath : meant root path ∈ acknowledged root told) (a : Answer) :
      Tells root (ops ++ [.deleteState path]) (told ++ [⟨.delete (meant root path), a⟩])
  /-- The delete of another path tells nothing. -/
  | untracked {ops : List Operation} {told : List Telling} (h : Tells root ops told) {path : String}
      (hpath : meant root path ∉ acknowledged root told) : Tells root (ops ++ [.deleteState path]) told
  /-- To delete all state tells of deletes only. -/
  | sweep {ops : List Operation} {told deletes : List Telling} (h : Tells root ops told)
      (hdeletes : ∀ x ∈ deletes, ∃ path, x.asked = .delete path) :
      Tells root (ops ++ [.deleteAllState]) (told ++ deletes)

/-! ## What is told in exchanges -/

/-- What an exchange tells, if it tells anything about state. -/
def Exchange.telling? (e : Exchange) : Option Telling := e.call.asked?.map (⟨·, e.answer⟩)

/-- All that was told in a history. -/
def tellings (history : List Exchange) : List Telling := history.filterMap Exchange.telling?

/-- One more exchange tells what it asks for. -/
theorem tellings_concat {history : List Exchange} {c : Call} {w : StateRequest} {a : Answer} (h : c.asked? = some w) :
    tellings (history ++ [⟨c, a⟩]) = tellings history ++ [⟨w, a⟩] := by
  have htold : Exchange.telling? ⟨c, a⟩ = some ⟨w, a⟩ := by rw [Exchange.telling?, h, Option.map_some]
  rw [tellings, List.filterMap_append, List.filterMap_cons_some htold, List.filterMap_nil, ← tellings]

/-- A call of an operation on state asks for something, with the request for it. -/
theorem Call.OnState.exists_asked? {c : Call} (h : c.OnState) : ∃ w, c.asked? = some w ∧ c.request = w.request := by
  cases h with
  | update path json => exact ⟨_, asked?_updateCall, rfl⟩
  | delete path rest => exact ⟨_, asked?_deleteCall, rfl⟩

/-- With a success it is acknowledged what the call updates, and what was and is not dropped. -/
theorem Call.OnState.mem_acknowledged {c : Call} (h : c.OnState) {w : StateRequest} (hw : c.asked? = some w) {a : Answer}
    (ha : a.IsSuccess) {root q : String} {told : List Telling} :
    q ∈ acknowledged root (told ++ [⟨w, a⟩]) ↔
      c.updates q = true ∨ (q ∈ acknowledged root told ∧ c.drops root q = false) := by
  cases h with
  | update path json =>
      obtain rfl : w = .update path json := Option.some.inj (hw.symm.trans asked?_updateCall)
      simp only [mem_acknowledged_update ha, updates_updateCall, drops_updateCall, and_true]
  | delete path rest =>
      obtain rfl : w = .delete path := Option.some.inj (hw.symm.trans asked?_deleteCall)
      rw [mem_acknowledged_delete ha, updates_deleteCall, or_iff_right Bool.false_ne_true, drops_deleteCall,
        Bool.or_eq_false_iff, beq_eq_false_iff_ne, ← Bool.not_eq_true (_ && _), Bool.and_eq_true, beq_iff_eq,
        ne_comm]

/-! ## What a session awaits -/

namespace Session

/-- The path that a session takes an operation on state to be about is the one that is meant. -/
theorem statePath_eq_meant (s : Session) (path : String) : s.statePath path = meant s.appRoot path := by
  simp only [statePath, meant, String.isEmpty_iff]

/-- **The calls that a session may be waiting for.** If all paths are to be deleted, those that are tracked are the one
being deleted and some of those that come after it. -/
inductive Awaits (s : Session) : Call → Prop where
  | update (path json : String) : Awaits s ⟨updateCall path json, .updating path json⟩
  | delete {path : String} (h : path ∈ s.ledger) : Awaits s ⟨deleteCall path, .deleting path none⟩
  | sweep {path : String} {rest : List String} (h : path ∈ s.ledger)
      (hrest : ∀ q ∈ s.ledger, q = path ∨ q ∈ rest) :
      Awaits s ⟨deleteCall path, .deleting path (some rest)⟩

/-- An operation that begins awaits what it may. -/
theorem Opens.awaits {s : Session} {c : Call} (h : s.Opens c) : s.Awaits c := by
  cases h with
  | update path json => exact .update path json
  | delete h => exact .delete h
  | @sweep path rest h =>
      have hmem {q : String} : q ∈ s.ledger ↔ q = path ∨ q ∈ rest := by
        rw [Ledger.mem_iff, h, List.mem_cons]
      exact .sweep (hmem.2 (Or.inl rfl)) fun q hq => hmem.1 hq

/-- What a session awaits is a call of an operation on state. -/
theorem Awaits.onState {s : Session} {c : Call} (h : s.Awaits c) : c.OnState := by
  cases h with
  | update path json => exact .update path json
  | delete h => exact .delete _ _
  | sweep h hrest => exact .delete _ _

/-- If all paths are to be deleted, those that are tracked are the one being deleted and those that are left. -/
theorem Awaits.mem_rest {s : Session} {c : Call} {path : String} {rest : List String} (h : s.Awaits c)
    (hc : c.conversation = .deleting path (some rest)) : ∀ q ∈ s.ledger, q = path ∨ q ∈ rest := by
  cases h with
  | sweep _ hrest =>
      cases hc
      exact hrest
  | _ => cases hc

/-- A path that a session has deleted is tracked. -/
theorem Awaits.mem_of_delete {s : Session} {c : Call} {path : String} (h : s.Awaits c)
    (hc : c.asked? = some (.delete path)) : path ∈ s.ledger := by
  cases h with
  | update path json => cases Call.asked?_updateCall.symm.trans hc
  | delete h =>
      cases Call.asked?_deleteCall.symm.trans hc
      exact h
  | sweep h =>
      cases Call.asked?_deleteCall.symm.trans hc
      exact h

/-- What is left of the tracked paths after a delete. -/
theorem mem_rest_of_mem_drop {s : Session} {path q : String} {rest : List String}
    (hrest : ∀ q ∈ s.ledger, q = path ∨ q ∈ rest) (hq : q ∈ s.ledger.drop s.appRoot path) : q ∈ rest := by
  have hkept : q ∈ s.ledger ∧ (⟨deleteCall path, .deleting path none⟩ : Call).drops s.appRoot q = false :=
    Call.mem_drop_iff.1 hq
  exact (hrest q hkept.1).resolve_left (Call.ne_of_drops_eq_false hkept.2)

/-- An operation that goes on with a success awaits what it may. -/
theorem Awaits.goesOn {s u : Session} {c d : Call} {next : Option Call} (hc : s.Awaits c)
    (h : s.GoesOn c u next) (hd : d ∈ next) : u.Awaits d := by
  cases h with
  | @sweeps path next skipped rest hskipped hnext =>
      cases hd
      refine .sweep hnext fun q hq => ?_
      -- a path that is still tracked was not skipped
      rcases List.mem_append.1 (mem_rest_of_mem_drop (hc.mem_rest rfl) hq) with hq' | hq'
      · exact absurd hq (hskipped q hq')
      · exact List.mem_cons.1 hq'
  | _ => cases hd

/-- What is tracked after an operation went on with a success: what it updated, and what was tracked and is not
dropped. -/
theorem Awaits.mem_ledger {s u : Session} {c : Call} {next : Option Call} {q : String} (hc : s.Awaits c)
    (h : s.GoesOn c u next) :
    q ∈ u.ledger ↔ c.updates q = true ∨ (q ∈ s.ledger ∧ c.drops s.appRoot q = false) := by
  cases h with
  -- an update drops nothing, and a delete updates nothing
  | updated => simp only [Ledger.mem_insert, Call.updates_updateCall, Call.drops_updateCall, and_true]
  | deleted =>
      rw [Call.updates_deleteCall, or_iff_right Bool.false_ne_true]
      exact Call.mem_drop_iff
  | sweeps hskipped hnext =>
      rw [Call.updates_deleteCall, or_iff_right Bool.false_ne_true]
      exact Call.mem_drop_iff
  | swept hnone =>
      -- the ledger is cleared, and nothing was left in it
      rw [Call.updates_deleteCall, or_iff_right Bool.false_ne_true, ← Call.mem_drop_iff]
      refine iff_of_false (Ledger.not_mem_empty q) fun hq => ?_
      exact hnone q (mem_rest_of_mem_drop (hc.mem_rest rfl) hq) hq

/-- An operation on state fails with a failed call, and changes nothing. -/
theorem resume_failure {s : Session} {c : Call} {a : Answer} (hc : c.OnState) (ha : a.succeeded = false) :
    ∃ e, s.resume c.conversation a = s.fail e := by
  have hne : ¬ a.succeeded = true := Bool.eq_false_iff.1 ha
  cases hc with
  | update path json => exact ⟨_, if_neg hne⟩
  | delete path rest => exact ⟨_, if_neg hne⟩

end Session

/-! ## The invariant -/

/-- **Ledger and history agree.** -/
structure Agrees (root : String) (s : Session) (history : List Exchange) (stage : Stage) : Prop where
  /-- The session is connected. -/
  connected : s.connected = true
  /-- Its root container is the one in question. -/
  appRoot_eq : s.appRoot = root
  /-- All that was said is what the daemon was told about state. -/
  said_eq : history.map Exchange.said = (tellings history).map Telling.said
  /-- It tracks what is acknowledged. -/
  mem_iff : ∀ q, q ∈ s.ledger ↔ q ∈ acknowledged root (tellings history)
  /-- It had deleted what it may. -/
  lawful : Lawful (Entitled root) (tellings history)
  /-- It awaits what it may. -/
  awaits : ∀ c ∈ stage.call?, s.Awaits c

/-- **Ledger and history agree after an answer**, whichever it is. -/
theorem agrees_resume {root : String} {s : Session} {history : List Exchange} {r : Request}
    {c : Conversation} {a : Answer} (h : Agrees root s history (.waiting r c)) :
    Agrees root (s.resume c a).1 (history ++ [⟨⟨r, c⟩, a⟩]) (s.resume c a).2 := by
  have hc : s.Awaits ⟨r, c⟩ := h.awaits _ rfl
  obtain ⟨w, hw, hrequest⟩ := hc.onState.exists_asked?
  have htold : tellings (history ++ [⟨⟨r, c⟩, a⟩]) = tellings history ++ [⟨w, a⟩] := tellings_concat hw
  have hsaid : (history ++ [Exchange.mk ⟨r, c⟩ a]).map Exchange.said
      = (tellings (history ++ [Exchange.mk ⟨r, c⟩ a])).map Telling.said := by
    rw [htold, List.map_append, List.map_append, h.said_eq, List.map_singleton, List.map_singleton, Exchange.said,
      Telling.said, hrequest]
  have hlawful : Lawful (Entitled root) (tellings (history ++ [⟨⟨r, c⟩, a⟩])) := by
    rw [htold]
    exact lawful_concat.2 ⟨h.lawful, fun path hpath =>
      (h.mem_iff path).1 (hc.mem_of_delete (hw.trans (congrArg some hpath)))⟩
  by_cases ha : a.IsSuccess
  · have hgoes := Session.goesOn_resume h.connected hc.onState (Answer.isSuccess_iff.1 ha)
    obtain ⟨hconnected, hroot⟩ := hgoes.session_eq
    refine ⟨hconnected.trans h.connected, hroot.trans h.appRoot_eq, hsaid, fun q => ?_, hlawful,
      fun d hd => hc.goesOn hgoes hd⟩
    rw [hc.mem_ledger hgoes, htold, hc.onState.mem_acknowledged hw ha, h.mem_iff, h.appRoot_eq]
  · have hfailed : a.succeeded = false := Bool.eq_false_iff.2 (mt Answer.isSuccess_iff.2 ha)
    obtain ⟨e, he⟩ := Session.resume_failure (s := s) hc.onState hfailed
    rw [show s.resume c a = s.fail e from he]
    refine ⟨h.connected, h.appRoot_eq, hsaid, fun q => ?_, hlawful, fun d hd => nomatch hd⟩
    rw [htold, acknowledged_failure ha]
    exact h.mem_iff q

/-- Ledger and history agree when an operation on state begins. -/
theorem Agrees.begin {root : String} {s : Session} {history : List Exchange} {stage : Stage} {op : Operation}
    (h : Agrees root s history stage) (hop : op.isOnState = true) :
    Agrees root (s.begin op).1 history (s.begin op).2 := by
  obtain ⟨hs, hcall⟩ := Session.begin_cases (s := s) hop
  rw [hs]
  refine ⟨h.connected, h.appRoot_eq, h.said_eq, h.mem_iff, h.lawful, fun c hc => ?_⟩
  rcases hcall with hnone | ⟨d, hd, -, hopens⟩
  · cases hnone.symm.trans hc
  · cases hd.symm.trans hc
    exact hopens.awaits

/-! ## Operations to their end -/

namespace Session

/-- An operation that makes one call is over with its answer, and changes nothing unless that is a success. -/
theorem resume_single {s : Session} {c : Call} (a : Answer) (hc : c.OnState) (hs : c.sweeps = false) :
    (s.resume c.conversation a).2 = .finished (.ok .done) [] ∨ ∃ e, s.resume c.conversation a = s.fail e := by
  cases ha : a.succeeded with
  | false => exact Or.inr (resume_failure hc ha)
  | true =>
      left
      cases hc with
      | update path json =>
          rw [resume, if_pos ha]
          rfl
      | delete path rest =>
          rw [resume, deleted, if_pos ha]
          cases rest with
          | none => rfl
          | some rest => cases hs

end Session

/-- A call that deletes a path. -/
def Call.IsDelete (c : Call) : Prop := ∃ path rest, c = ⟨Session.deleteCall path, .deleting path rest⟩

/-- Of some paths those that are deleted are deleted one by one. -/
theorem Session.isDelete_deleteNext {s : Session} {paths : List String} {c : Call}
    (h : c ∈ (s.deleteNext paths).2.call?) : c.IsDelete := by
  rcases s.deleteNext_cases paths with ⟨-, path, rest, -, -, -, he⟩ | ⟨-, he⟩
  · rw [he, call?_call] at h
    split at h
    · exact ⟨path, some rest, (Option.mem_some.1 h).symm⟩
    · cases h
  · rw [he] at h
    cases h

/-- An operation goes on after a delete with deletes only. -/
theorem Session.isDelete_resume {s : Session} {c d : Call} {a : Answer} (hc : c.IsDelete)
    (h : d ∈ (s.resume c.conversation a).2.call?) : d.IsDelete := by
  obtain ⟨path, rest, rfl⟩ := hc
  rw [resume, deleted] at h
  split at h
  · cases rest with
    | none => cases h
    | some rest => exact isDelete_deleteNext h
  · cases h

/-- Deletes tell of deletes. -/
theorem asked_of_mem_tellings {history : List Exchange} (h : ∀ e ∈ history, e.call.IsDelete) {x : Telling}
    (hx : x ∈ tellings history) : ∃ path, x.asked = .delete path := by
  obtain ⟨e, he, htelling⟩ := List.mem_filterMap.1 hx
  obtain ⟨path, rest, hcall⟩ := h e he
  rw [Exchange.telling?, hcall, Call.asked?_deleteCall, Option.map_some, Option.some.injEq] at htelling
  exact ⟨path, htelling ▸ rfl⟩

namespace Record

variable {daemon : Daemon} {r : Record} {op : Operation}

/-- An operation that fails as it begins says nothing, and changes nothing. -/
theorem perform_of_begin_fail {e : Error} (h : r.session.begin op = r.session.fail e) :
    r.perform daemon op = (r, .error e) := by
  rw [perform, h, Session.fail, Session.converse]

/-- **An operation that makes one call** says just that, and changes nothing if it fails. -/
theorem perform_single (daemon : Daemon) {c : Call}
    (h : r.session.begin op = (r.session, .waiting c.request c.conversation)) (hc : c.OnState) (hs : c.sweeps = false) :
    (r.perform daemon op).1.history = r.history ++ [⟨c, daemon r.history c.request⟩] ∧
      ∀ e, (r.perform daemon op).2 = .error e → (r.perform daemon op).1.session = r.session := by
  rw [perform, h, Session.converse]
  rcases Session.resume_single (s := r.session) (daemon r.history c.request) hc hs with hdone | ⟨e, hfail⟩
  -- there is no other call, so the operation is finished with this answer
  · rw [hdone, Session.converse]
    exact ⟨rfl, fun e he => by cases he⟩
  · rw [hfail, Session.fail, Session.converse]
    exact ⟨rfl, fun _ _ => rfl⟩

/-- To delete a path that is not tracked fails as it begins. -/
theorem perform_untracked {path : String} (h : r.session.statePath path ∉ r.session.ledger) :
    r.perform daemon (.deleteState path) = (r, .error (.state (.notTracked (r.session.statePath path)))) :=
  perform_of_begin_fail (if_neg h)

/-- **An operation that deletes all state** says nothing but deletes. -/
theorem perform_deleteAllState (daemon : Daemon) (r : Record) :
    ∃ deletes : List Exchange, (r.perform daemon .deleteAllState).1.history = r.history ++ deletes ∧
      ∀ e ∈ deletes, e.call.IsDelete := by
  -- what was said since then is deletes, and so is the call that is waited for
  let P (_ : Session) (history : List Exchange) (stage : Stage) : Prop :=
    (∃ deletes, history = r.history ++ deletes ∧ ∀ e ∈ deletes, e.call.IsDelete) ∧ ∀ c ∈ stage.call?, c.IsDelete
  have hbegin : P (r.session.begin .deleteAllState).1 r.history (r.session.begin .deleteAllState).2 :=
    ⟨⟨[], (List.append_nil _).symm, fun _ he => absurd he List.not_mem_nil⟩,
      fun _ hc => Session.isDelete_deleteNext hc⟩
  have hresume (s : Session) (history : List Exchange) (q : Request) (c : Conversation) (a : Answer)
      (h : P s history (.waiting q c)) : P (s.resume c a).1 (history ++ [⟨⟨q, c⟩, a⟩]) (s.resume c a).2 := by
    obtain ⟨⟨deletes, rfl, hdeletes⟩, hcall⟩ := h
    have hc : (⟨q, c⟩ : Call).IsDelete := hcall _ rfl
    exact ⟨⟨deletes ++ [⟨⟨q, c⟩, a⟩], List.append_assoc _ _ _,
      List.forall_mem_append.2 ⟨hdeletes, List.forall_mem_singleton.2 hc⟩⟩,
      fun d hd => Session.isDelete_resume hc hd⟩
  obtain ⟨jobs, hend, -⟩ := @Session.converse_invariant P daemon hresume _ _ _ hbegin
  exact hend

/-! ## Operations on state one after another -/

/-- Ledger and history agree after an operation on state. -/
theorem agrees_perform {root : String} {stage : Stage} (h : Agrees root r.session r.history stage)
    (hop : op.isOnState = true) :
    ∃ result jobs, Agrees root (r.perform daemon op).1.session (r.perform daemon op).1.history
      (.finished result jobs) :=
  ⟨_, Session.converse_invariant (fun _ _ _ _ _ => agrees_resume) (h.begin hop)⟩

/-- **One more operation on state** tells what it is to. -/
theorem tells_perform {root : String} {stage : Stage} {ops : List Operation}
    (h : Agrees root r.session r.history stage) (htells : Tells root ops (tellings r.history))
    (hop : op.isOnState = true) : Tells root (ops ++ [op]) (tellings (r.perform daemon op).1.history) := by
  have hpath (path : String) : r.session.statePath path = meant root path := by
    rw [Session.statePath_eq_meant, h.appRoot_eq]
  cases op with
  | updateState path json =>
      obtain ⟨hsaid, -⟩ := perform_single daemon (Session.begin_updateState h.connected path json)
        (.update _ json) rfl
      rw [hsaid, tellings_concat Call.asked?_updateCall, hpath]
      exact htells.update path json _
  | deleteState path =>
      -- by the invariant the path is tracked if and only if it is acknowledged
      by_cases htracked : r.session.statePath path ∈ r.session.ledger
      · obtain ⟨hsaid, -⟩ := perform_single daemon (Session.begin_deleteState h.connected htracked)
          (.delete _ none) rfl
        rw [hsaid, tellings_concat Call.asked?_deleteCall, hpath]
        exact htells.delete (hpath path ▸ (h.mem_iff _).1 htracked) _
      · rw [perform_untracked htracked]
        exact htells.untracked (hpath path ▸ mt (h.mem_iff _).2 htracked)
  | deleteAllState =>
      obtain ⟨deletes, hsaid, hdeletes⟩ := perform_deleteAllState daemon r
      rw [hsaid, tellings, List.filterMap_append]
      exact htells.sweep fun x hx => asked_of_mem_tellings hdeletes hx
  | _ => cases hop

/-- **Any number of operations on state**: ledger and history agree, and what was told is what they are to tell. -/
theorem agrees_run {s : Session} (hs : s.connected = true) (hl : s.ledger = .empty) (daemon : Daemon)
    {ops : List Operation} (hops : ∀ op ∈ ops, op.isOnState = true) :
    (∃ result jobs, Agrees s.appRoot (run daemon ⟨s, []⟩ ops).session (run daemon ⟨s, []⟩ ops).history
        (.finished result jobs)) ∧
      Tells s.appRoot ops (tellings (run daemon ⟨s, []⟩ ops).history) := by
  -- from the last operation to those before it
  induction ops using List.reverseRecOn with
  | nil =>
      refine ⟨⟨.ok .done, [], hs, rfl, rfl, fun q => ?_, lawful_nil, fun _ hc => nomatch hc⟩, .nil⟩
      rw [run, List.foldl_nil, hl]
      exact iff_of_false (Ledger.not_mem_empty q) (not_mem_acknowledged_nil _ q)
  | append_singleton ops op ih =>
      obtain ⟨hbefore, hop⟩ := List.forall_mem_append.1 hops
      obtain ⟨⟨result, jobs, hagrees⟩, htells⟩ := ih hbefore
      have hlast : op.isOnState = true := hop op (List.mem_singleton_self op)
      rw [run_concat]
      exact ⟨agrees_perform hagrees hlast, tells_perform hagrees htells hlast⟩

/-- **The ledger is what was acknowledged.** Let a session be connected and track nothing, and let an application
ask it for operations on state, one after another; the daemon may answer each call as it likes. After any number of
operations, all that went over the wire is what these operations are to tell, with its answers, and by that alone:
a path is tracked if and only if the daemon acknowledged its state and did not drop it since;
a path was deleted only if it was acknowledged then;
to delete a path that is not acknowledged fails, and says nothing to the daemon;
and an update of a path, or a delete of one, that fails leaves the session as it was. -/
theorem ledger_of_run {s : Session} (hs : s.connected = true) (hl : s.ledger = .empty) (daemon : Daemon)
    {ops : List Operation} (hops : ∀ op ∈ ops, op.isOnState = true) {r : Record}
    (hr : r = run daemon ⟨s, []⟩ ops) :
    ∃ told : List Telling, Tells s.appRoot ops told ∧ r.history.map Exchange.said = told.map Telling.said
      ∧ (∀ q, q ∈ r.session.ledger ↔ q ∈ acknowledged s.appRoot told)
      ∧ (∀ before path a after, told = before ++ ⟨.delete path, a⟩ :: after → path ∈ acknowledged s.appRoot before)
      ∧ (∀ path, meant s.appRoot path ∉ acknowledged s.appRoot told →
        r.perform daemon (.deleteState path) = (r, .error (.state (.notTracked (meant s.appRoot path)))))
      ∧ (∀ op, ((∃ path json, op = .updateState path json) ∨ ∃ path, op = .deleteState path) →
        ∀ e, (r.perform daemon op).2 = .error e → (r.perform daemon op).1.session = r.session) := by
  obtain ⟨⟨result, jobs, h⟩, htells⟩ := agrees_run hs hl daemon hops
  rw [← hr] at h htells
  have hpath (path : String) : r.session.statePath path = meant s.appRoot path := by
    rw [Session.statePath_eq_meant, h.appRoot_eq]
  have huntracked (path : String) (hp : meant s.appRoot path ∉ acknowledged s.appRoot (tellings r.history)) :
      r.session.statePath path ∉ r.session.ledger := by
    rwa [hpath, h.mem_iff]
  refine ⟨tellings r.history, htells, h.said_eq, h.mem_iff, fun before path a after htold => ?_,
    fun path hp => ?_, ?_⟩
  · exact h.lawful before _ after htold path rfl
  · rw [perform_untracked (huntracked path hp), hpath]
  · rintro op (⟨path, json, rfl⟩ | ⟨path, rfl⟩) e he
    · exact (perform_single daemon (Session.begin_updateState h.connected path json) (.update _ json) rfl).2 e he
    · by_cases htracked : r.session.statePath path ∈ r.session.ledger
      · exact (perform_single daemon (Session.begin_deleteState h.connected htracked) (.delete _ none) rfl).2 e he
      · rw [perform_untracked htracked]

/-- A session that is connected and has not pushed any state. -/
def pusher : Session := { plan := { name := "greeter" }, connected := true }

/-- State is pushed beside the root container, for it and in it; the first is to go, then all that is at the root
container, and that once more. -/
def pushes : List Operation :=
  [.updateState "/a" "{}", .updateState "" "{}", .updateState "/greeter/x" "[]", .deleteState "/a", .deleteState "",
    .deleteState ""]

/-- A daemon that loses the fourth thing that it is asked for and refuses the fifth. -/
def wavering : Daemon := fun history _ =>
  match history.length with
  | 3 => .failed ⟨.unavailable, "gone"⟩
  | 4 => .response (.outcome { status := 1 })
  | _ => .response (.outcome {})

/-- The path whose delete was lost is still tracked. With the root container what is in it is gone, once its delete was
not refused. What was never pushed cannot be deleted. -/
theorem ledger_wavering :
    ∃ r told, r = run wavering ⟨pusher, []⟩ pushes ∧ Tells "/greeter" pushes told ∧
      r.history.map Exchange.said = told.map Telling.said ∧
      told.map Telling.said =
        [(.telemetryAddOrUpdate [⟨".a", "{}"⟩], .response (.outcome {})),
          (.telemetryAddOrUpdate [⟨".greeter", "{}"⟩], .response (.outcome {})),
          (.telemetryAddOrUpdate [⟨".greeter.x", "[]"⟩], .response (.outcome {})),
          (.telemetryDelete [".a"], .failed ⟨.unavailable, "gone"⟩),
          (.telemetryDelete [".greeter"], .response (.outcome { status := 1 })),
          (.telemetryDelete [".greeter"], .response (.outcome {}))] ∧
      (∀ q, q ∈ acknowledged "/greeter" told ↔ q = "/a") ∧
      r.perform wavering (.deleteState "/b") = (r, .error (.state (.notTracked "/b"))) := by
  have hstate : ∀ op ∈ pushes, op.isOnState = true := by decide
  have hpaths : (run wavering ⟨pusher, []⟩ pushes).session.ledger.paths = ["/a"] := by decide +kernel
  obtain ⟨told, htells, hsaid, hmem, -, hdelete, -⟩ := @ledger_of_run pusher rfl rfl wavering pushes hstate _ rfl
  have hleft (q : String) : q ∈ acknowledged "/greeter" told ↔ q = "/a" := by
    refine (hmem q).symm.trans ?_
    rw [Ledger.mem_iff, hpaths, List.mem_singleton]
  refine ⟨_, told, rfl, htells, hsaid, ?_, hleft, hdelete "/b" fun hb => ?_⟩
  · rw [← hsaid]
    decide +kernel
  · exact absurd ((hleft "/b").1 hb) (by decide)

end Record

end NetworkAgent
