import NetworkAgent.Proofs.Log
import NetworkAgent.Proofs.Session.Traffic

/-! # Registration

A session is connected from the moment that it asks the daemon to admit its agent, and operations need a connected
session. The activities of the session itself, the probing of the daemon and the feed of the configuration, wait until
the agent is admitted.

* **`Answer.admitted?`** — the answers that admit an agent.
* **`Session.Ordinary`** — a step that has no part in registering the agent. By `Session.begin_start_or_ordinary` and
  `Session.resume_admitted_or_ordinary` a step is ordinary unless it sends the registration or learns that the agent was
  admitted.
* **`Traffic.Allowed`** — what may pass after what has passed. **`Traffic.Gated`** is the invariant: only that has passed,
  and the session is connected, and its agent has an identifier, just by what has passed.
* **`Traffic.registration_of_reachable`** — what registration decides in the traffic of a session, and what is left of a
  start that fails; `Traffic.called_of_denied` is a run by which the connection is what is left. -/

namespace NetworkAgent

open Message

/-- The identifier in an answer that admits an agent. -/
def Answer.admitted? : Answer → Option UInt32
  | .response (.registration r) => if r.outcome.isSuccess then some r.appId else none
  | _ => none

/-- Whether an application can ask for an operation with success only in a connected session, though not for lack of
anything tracked or of an option. -/
def Operation.needsConnection : Operation → Bool
  | .updateState _ _ | .addRoutes _ | .replaceRoutes _ | .deleteRoutes _ _ | .addGroups _ | .replaceGroups _
  | .deleteGroup _ _ | .get _ | .set _ | .receive _ => true
  | .start _ | .stop | .deleteState _ | .deleteAllState | .acknowledge _ => false

/-- Whether an operation waits for the answer to the registration of the agent. -/
def Conversation.isRegistering : Conversation → Bool
  | .registering => true
  | _ => false

/-! ## Steps of operations -/

namespace Session

/-- **A step that has no part in registering the agent**: from a session, to a session and what an operation comes to. -/
structure Ordinary (s : Session) (r : Session × Stage) : Prop where
  /-- The session is connected if it was. -/
  connected_eq : r.1.connected = s.connected
  /-- The agent has the identifier that it had. -/
  appId_eq : r.1.appId = s.appId
  /-- Only a connected session makes a call, and not to register. -/
  call : ∀ c ∈ r.2.call?, s.connected = true ∧ c.conversation.isRegistering = false
  /-- Only a connected session sets off an activity, which receives the notifications of a topic. -/
  job : ∀ j ∈ r.2.jobs, s.connected = true ∧ ∃ topic, j = .topicFeed topic

variable {s : Session}

/-- To be finished is ordinary. -/
theorem ordinary_finished (s : Session) (result : Except Error Reply) : s.Ordinary (s, .finished result []) where
  connected_eq := rfl
  appId_eq := rfl
  call _ hc := absurd hc (Option.not_mem_none _)
  job _ hj := absurd hj List.not_mem_nil

/-- To fail is ordinary. -/
theorem ordinary_fail (s : Session) (e : Error) : s.Ordinary (s.fail e) := s.ordinary_finished (.error e)

/-- To wait for an answer is ordinary in a connected session, unless it is that to the registration. -/
theorem ordinary_waiting {s : Session} (hs : s.connected = true) (r : Request) {c : Conversation}
    (hc : c.isRegistering = false) : s.Ordinary (s, .waiting r c) where
  connected_eq := rfl
  appId_eq := rfl
  call _ hd := by
    cases hd
    exact ⟨hs, hc⟩
  job _ hj := absurd hj List.not_mem_nil

/-- To make a call is ordinary, unless it registers. -/
theorem ordinary_call (s : Session) (r : Request) {c : Conversation} (hc : c.isRegistering = false) :
    s.Ordinary (s.call r c) := by
  rw [call]
  split
  · next hs => exact ordinary_waiting hs r hc
  · exact s.ordinary_fail _

/-- What is ordinary for a session is so for one that differs in neither its connection nor its agent. -/
theorem Ordinary.of_eq {u : Session} {r : Session × Stage} (h : u.Ordinary r)
    (hconnected : u.connected = s.connected) (hid : u.appId = s.appId) : s.Ordinary r where
  connected_eq := h.connected_eq.trans hconnected
  appId_eq := h.appId_eq.trans hid
  call c hc := by
    rw [← hconnected]
    exact h.call c hc
  job j hj := by
    rw [← hconnected]
    exact h.job j hj

/-- To delete the first of some paths that is still tracked is ordinary. -/
theorem ordinary_deleteNext (s : Session) (paths : List String) : s.Ordinary (s.deleteNext paths) := by
  induction paths with
  | nil => exact (ordinary_finished { s with ledger := .empty } _).of_eq rfl rfl
  | cons path rest ih =>
      rw [deleteNext]
      split
      · exact s.ordinary_call _ rfl
      · exact ih

/-- A start fails, or connects the session and sends the registration. -/
theorem beginStart_cases (s : Session) (link : Link) :
    (∃ e, s.beginStart link = s.fail e ∧ (linkFault? s.plan link = none → e = .fatal .alreadyStarted)) ∨
      s.connected = false ∧
        s.beginStart link
          = ({ s with connected := true }, .waiting (.agentRegister (registration s.plan)) .registering) := by
  unfold beginStart
  split
  · next e h => exact Or.inl ⟨e, rfl, fun hnone => nomatch h.symm.trans hnone⟩
  · split
    · exact Or.inl ⟨_, rfl, fun _ => rfl⟩
    · next h => exact Or.inr ⟨Bool.eq_false_iff.2 h, rfl⟩

/-- **An operation begins** by connecting the session to register its agent, or with an ordinary step. -/
theorem begin_start_or_ordinary (s : Session) (op : Operation) :
    (s.connected = false ∧
        s.begin op
          = ({ s with connected := true }, .waiting (.agentRegister (registration s.plan)) .registering))
      ∨ s.Ordinary (s.begin op) := by
  cases op with
  | start link =>
      rw [begin]
      rcases s.beginStart_cases link with ⟨e, he, -⟩ | h
      · exact Or.inr (he ▸ s.ordinary_fail e)
      · exact Or.inl h
  | stop =>
      rw [begin]
      split
      · next hs => exact Or.inr (ordinary_waiting hs _ rfl)
      · -- with nobody to tell, the session is cancelled at once
        exact Or.inr ((ordinary_finished { s with cancelled := true } _).of_eq rfl rfl)
  | updateState path json => exact Or.inr (s.ordinary_call _ rfl)
  | deleteState path =>
      rw [begin]
      split
      · exact Or.inr (s.ordinary_call _ rfl)
      · exact Or.inr (s.ordinary_fail _)
  | deleteAllState => exact Or.inr (s.ordinary_deleteNext _)
  | deleteRoutes networkInstance destinations =>
      rw [begin]
      split
      · exact Or.inr (s.ordinary_fail _)
      · exact Or.inr (s.ordinary_call _ rfl)
  | acknowledge infos =>
      rw [begin, beginAcknowledge]
      split
      · exact Or.inr (s.ordinary_fail _)
      · split
        · exact Or.inr (s.ordinary_fail _)
        · exact Or.inr (s.ordinary_call _ rfl)
  | receive topic =>
      rw [begin]
      split
      · next hs =>
          exact Or.inr ⟨rfl, rfl, fun _ hc => absurd hc (Option.not_mem_none _),
            fun j hj => ⟨hs, topic, List.mem_singleton.1 hj⟩⟩
      · exact Or.inr (s.ordinary_fail _)
  | _ => exact Or.inr (s.ordinary_call _ rfl)

/-- An agent that is not admitted leaves its session as it was. -/
theorem registered_of_not_admitted (s : Session) {a : Answer} (h : a.admitted? = none) :
    ∃ cause, s.registered a = s.fail (.fatal cause) := by
  unfold registered
  split
  · split
    · next hr => cases (if_pos hr).symm.trans h
    · exact ⟨_, rfl⟩
  · exact ⟨_, rfl⟩
  · exact ⟨_, rfl⟩

/-- An agent that is admitted gets its identifier, and its session sets its activities off. -/
theorem registered_of_admitted (s : Session) {a : Answer} {id : UInt32} (h : a.admitted? = some id) :
    s.registered a = ({ s with appId := some id }, .finished (.ok .done) (jobs s.plan)) := by
  unfold Answer.admitted? at h
  split at h
  · split at h
    · next hr =>
        cases h
        exact if_pos hr
    · cases h
  · cases h

/-- **An operation goes on** by learning that the agent is admitted, or with an ordinary step. -/
theorem resume_admitted_or_ordinary (s : Session) (c : Conversation) (a : Answer) :
    (c = .registering ∧ ∃ id, a.admitted? = some id ∧
        s.resume c a = ({ s with appId := some id }, .finished (.ok .done) (jobs s.plan)))
      ∨ s.Ordinary (s.resume c a) := by
  cases c with
  | registering =>
      cases h : a.admitted? with
      | none =>
          obtain ⟨cause, hcause⟩ := s.registered_of_not_admitted h
          exact Or.inr (by rw [resume, hcause]; exact s.ordinary_fail _)
      | some id => exact Or.inl ⟨rfl, id, rfl, s.registered_of_admitted h⟩
  | unregistering => exact Or.inr ((ordinary_finished { s with cancelled := true } _).of_eq rfl rfl)
  | updating path json =>
      rw [resume]
      split
      · exact Or.inr ((ordinary_finished { s with ledger := s.ledger.insert path } _).of_eq rfl rfl)
      · exact Or.inr (s.ordinary_fail _)
  | deleting path rest =>
      rw [resume, deleted]
      split
      · cases rest with
        | none => exact Or.inr ((ordinary_finished { s with ledger := s.ledger.drop s.appRoot path } _).of_eq rfl rfl)
        | some rest =>
            exact Or.inr ((ordinary_deleteNext { s with ledger := s.ledger.drop s.appRoot path } rest).of_eq rfl rfl)
      · exact Or.inr (s.ordinary_fail _)
  | openingWindow w add =>
      rw [resume]
      split
      · exact Or.inr (s.ordinary_call _ rfl)
      · exact Or.inr (s.ordinary_fail _)
  | fillingWindow w =>
      rw [resume]
      split
      · exact Or.inr (s.ordinary_call _ rfl)
      · exact Or.inr (s.ordinary_fail _)
  | _ =>
      simp only [resume]
      split <;> exact Or.inr (s.ordinary_finished _)

/-- A session that begins an operation with a call is connected, and stays so. -/
theorem connected_begin (s : Session) (op : Operation) :
    (s.connected = true → (s.begin op).1.connected = true) ∧
      ∀ c ∈ (s.begin op).2.call?, (s.begin op).1.connected = true := by
  rcases s.begin_start_or_ordinary op with ⟨-, h⟩ | h
  · rw [h]
    exact ⟨fun _ => rfl, fun _ _ => rfl⟩
  · rw [h.connected_eq]
    exact ⟨id, fun c hc => (h.call c hc).1⟩

/-- A session stays connected when an operation goes on. -/
theorem connected_resume (s : Session) (c : Conversation) (a : Answer) :
    (s.resume c a).1.connected = s.connected := by
  rcases s.resume_admitted_or_ordinary c a with ⟨-, id, -, h⟩ | h
  · rw [h]
  · exact h.connected_eq

/-- **In a session that is not connected** an operation that needs it to be fails at once, as not started unless one
of the routes to delete has no address prefix. -/
theorem begin_of_not_connected {op : Operation} (hs : s.connected = false) (hop : op.needsConnection = true) :
    s.begin op = s.fail .notStarted ∨
      ∃ networkInstance destinations e, op = .deleteRoutes networkInstance destinations ∧
        Route.keys networkInstance destinations = .error e ∧ s.begin op = s.fail e := by
  have hne : ¬ s.connected = true := Bool.eq_false_iff.1 hs
  cases op with
  | deleteRoutes networkInstance destinations =>
      -- the keys of the routes are made before the call is tried
      rw [begin]
      split
      · next e h => exact Or.inr ⟨_, _, e, rfl, h, rfl⟩
      · exact Or.inl (if_neg hne)
  | start _ | stop | deleteState _ | deleteAllState | acknowledge _ => cases hop
  | _ => exact Or.inl (if_neg hne)

end Session

namespace Traffic

/-! ## What may pass -/

/-- The registration of the agent was sent. -/
def Entry.IsRegistration (x : Entry) : Prop := ∃ r conversation, x = .called ⟨.agentRegister r, conversation⟩

/-- The agent was admitted. -/
def Entry.IsAdmission (x : Entry) : Prop :=
  ∃ r conversation a id, x = .answered ⟨.agentRegister r, conversation⟩ a ∧ a.admitted? = some id

/-- **What may pass after what has passed**: before the registration was sent no other request is, and before the agent
was admitted none of the activities of the session itself makes a call. -/
structure Allowed (before : List Entry) (x : Entry) : Prop where
  /-- A request comes after the registration, or is it. -/
  request : ∀ r, x.request? = some r → (∃ q, r = .agentRegister q) ∨ ∃ y ∈ before, y.IsRegistration
  /-- A call of an activity, except for the feed of a topic, comes after the admission. -/
  ran : ∀ j r, x = .ran j r → (∀ topic, j ≠ .topicFeed topic) → ∃ y ∈ before, y.IsAdmission

/-- To go on with an answer is always allowed. -/
theorem allowed_answered (before : List Entry) (c : Call) (a : Answer) : Allowed before (.answered c a) :=
  ⟨nofun, nofun⟩

/-- A call is allowed after the registration. -/
theorem allowed_called {before : List Entry} {c : Call} (h : ∃ y ∈ before, y.IsRegistration) :
    Allowed before (.called c) :=
  ⟨fun _ _ => Or.inr h, nofun⟩

/-- The registration is allowed. -/
theorem allowed_registration (before : List Entry) (q : AgentRegistrationRequest) (c : Conversation) :
    Allowed before (.called ⟨.agentRegister q, c⟩) := by
  refine ⟨?_, nofun⟩
  rintro _ ⟨⟩
  exact Or.inl ⟨q, rfl⟩

/-- A call of an activity is allowed after the registration, and after the admission unless it is for the feed of a
topic. -/
theorem allowed_ran {before : List Entry} {j : Job} (r : Request) (hsent : ∃ y ∈ before, y.IsRegistration)
    (hadmitted : (∀ topic, j ≠ .topicFeed topic) → ∃ y ∈ before, y.IsAdmission) : Allowed before (.ran j r) := by
  refine ⟨fun _ _ => Or.inr hsent, ?_⟩
  rintro _ _ ⟨⟩
  exact hadmitted

/-- What was among some entries is among more. -/
theorem exists_mem_append {P : Entry → Prop} {log : List Entry} (more : List Entry) (h : ∃ y ∈ log, P y) :
    ∃ y ∈ log ++ more, P y := by
  obtain ⟨y, hy, hP⟩ := h
  exact ⟨y, List.mem_append_left _ hy, hP⟩

/-! ## The invariant -/

/-- **Registration gates a session.** -/
structure Gated (t : Traffic) : Prop where
  /-- What has passed was allowed. -/
  lawful : Lawful Allowed t.log
  /-- A connected session has sent the registration. -/
  sent_of_connected : t.session.connected = true → ∃ y ∈ t.log, y.IsRegistration
  /-- A session of whose operations one has made a call is connected. -/
  connected_of_called : ∀ c, .called c ∈ t.log → t.session.connected = true
  /-- An agent with an identifier was admitted. -/
  admitted_of_appId : ∀ id, t.session.appId = some id → ∃ y ∈ t.log, y.IsAdmission
  /-- Activities were set off after the registration. -/
  sent_of_job : ∀ j ∈ t.jobs, ∃ y ∈ t.log, y.IsRegistration
  /-- Activities were set off after the admission, except for the feed of a topic. -/
  admitted_of_job : ∀ j ∈ t.jobs, (∀ topic, j ≠ .topicFeed topic) → ∃ y ∈ t.log, y.IsAdmission
  /-- A call that an operation waits for was made. -/
  called_of_underWay : ∀ c ∈ t.underWay, .called c ∈ t.log
  /-- The operation that registers the agent has sent the registration. -/
  registering : ∀ c ∈ t.underWay, c.conversation = .registering → ∃ q, c.request = .agentRegister q

/-- Registration gates a new session. -/
theorem gated_start (plan : Plan) : Gated (start (.new plan)) where
  lawful := lawful_nil
  sent_of_connected := nofun
  connected_of_called _ h := absurd h List.not_mem_nil
  admitted_of_appId _ := nofun
  sent_of_job _ h := absurd h List.not_mem_nil
  admitted_of_job _ h := absurd h List.not_mem_nil
  called_of_underWay _ h := absurd h List.not_mem_nil
  registering _ h := absurd h List.not_mem_nil

variable {t u : Traffic}

/-- Registration gates a session after an ordinary step. -/
theorem Gated.enter_ordinary {r : Session × Stage} (h : Gated t) (hr : t.session.Ordinary r) :
    Gated (t.enter r) where
  lawful := by
    show Lawful Allowed (t.log ++ r.2.call?.toList.map .called)
    cases hc : r.2.call? with
    | none =>
        rw [Option.toList_none, List.map_nil, List.append_nil]
        exact h.lawful
    | some c =>
        -- only a connected session makes the call, and that has sent the registration
        have hconnected := (hr.call c hc).1
        exact lawful_concat.2 ⟨h.lawful, allowed_called (h.sent_of_connected hconnected)⟩
  sent_of_connected hconnected :=
    exists_mem_append _ (h.sent_of_connected (hr.connected_eq.symm.trans hconnected))
  connected_of_called c hc := by
    rw [show (t.enter r).session.connected = t.session.connected from hr.connected_eq]
    rcases List.mem_append.1 hc with hc | hc
    · exact h.connected_of_called c hc
    · obtain ⟨d, hd, -⟩ := List.mem_map.1 hc
      exact (hr.call d (Option.mem_toList.1 hd)).1
  admitted_of_appId id hid := exists_mem_append _ (h.admitted_of_appId id (hr.appId_eq.symm.trans hid))
  sent_of_job j hj := by
    rcases List.mem_append.1 hj with hj | hj
    · exact exists_mem_append _ (h.sent_of_job j hj)
    · exact exists_mem_append _ (h.sent_of_connected (hr.job j hj).1)
  admitted_of_job j hj hne := by
    rcases List.mem_append.1 hj with hj | hj
    · exact exists_mem_append _ (h.admitted_of_job j hj hne)
    · obtain ⟨-, topic, htopic⟩ := hr.job j hj
      exact absurd htopic (hne topic)
  called_of_underWay c hc := by
    rcases List.mem_append.1 hc with hc | hc
    · exact List.mem_append_left _ (h.called_of_underWay c hc)
    · exact List.mem_append_right _ (List.mem_map_of_mem hc)
  registering c hc hreg := by
    rcases List.mem_append.1 hc with hc | hc
    · exact h.registering c hc hreg
    · have hnot := (hr.call c (Option.mem_toList.1 hc)).2
      rw [hreg] at hnot
      cases hnot

/-- Registration gates a session that sends it. -/
theorem Gated.enter_registering (h : Gated t) (q : AgentRegistrationRequest) :
    Gated (t.enter ({ t.session with connected := true }, .waiting (.agentRegister q) .registering)) where
  lawful := lawful_concat.2 ⟨h.lawful, allowed_registration t.log q _⟩
  sent_of_connected _ := ⟨_, List.mem_append_right _ (List.mem_singleton_self _), q, .registering, rfl⟩
  connected_of_called _ _ := rfl
  admitted_of_appId id hid := exists_mem_append _ (h.admitted_of_appId id hid)
  sent_of_job _ _ := ⟨_, List.mem_append_right _ (List.mem_singleton_self _), q, .registering, rfl⟩
  admitted_of_job j hj hne := by
    rcases List.mem_append.1 hj with hj | hj
    · exact exists_mem_append _ (h.admitted_of_job j hj hne)
    · exact absurd hj List.not_mem_nil
  called_of_underWay c hc := by
    rcases List.mem_append.1 hc with hc | hc
    · exact List.mem_append_left _ (h.called_of_underWay c hc)
    · exact List.mem_append_right _ (List.mem_map_of_mem hc)
  registering c hc hreg := by
    rcases List.mem_append.1 hc with hc | hc
    · exact h.registering c hc hreg
    · obtain rfl := List.mem_singleton.1 hc
      exact ⟨q, rfl⟩

/-- Registration gates a session when something passes that is allowed and that no operation calls for. -/
theorem Gated.pass (h : Gated t) {x : Entry} (hx : Allowed t.log x) (hcall : ∀ c, x ≠ .called c) :
    Gated { t with log := t.log ++ [x] } where
  lawful := lawful_concat.2 ⟨h.lawful, hx⟩
  sent_of_connected hconnected := exists_mem_append _ (h.sent_of_connected hconnected)
  connected_of_called c hc := by
    rcases List.mem_append.1 hc with hc | hc
    · exact h.connected_of_called c hc
    · exact absurd (List.mem_singleton.1 hc).symm (hcall c)
  admitted_of_appId id hid := exists_mem_append _ (h.admitted_of_appId id hid)
  sent_of_job j hj := exists_mem_append _ (h.sent_of_job j hj)
  admitted_of_job j hj hne := exists_mem_append _ (h.admitted_of_job j hj hne)
  called_of_underWay c hc := List.mem_append_left _ (h.called_of_underWay c hc)
  registering := h.registering

/-- Registration gates a session when one of its operations is about to go on. -/
theorem Gated.release (h : Gated t) (i : Nat) (c : Call) (a : Answer) : Gated (t.release i c a) := by
  have hpass := h.pass (allowed_answered t.log c a) (by rintro _ ⟨⟩)
  exact ⟨hpass.lawful, hpass.sent_of_connected, hpass.connected_of_called, hpass.admitted_of_appId,
    hpass.sent_of_job, hpass.admitted_of_job,
    fun d hd => hpass.called_of_underWay d (List.mem_of_mem_eraseIdx hd),
    fun d hd => hpass.registering d (List.mem_of_mem_eraseIdx hd)⟩

/-- Registration gates a session that learns that its agent was admitted. -/
theorem Gated.enter_admitted {id : UInt32} {jobs : List Job} (h : Gated t)
    (hsent : ∃ y ∈ t.log, y.IsRegistration) (hadmitted : ∃ y ∈ t.log, y.IsAdmission) :
    Gated (t.enter ({ t.session with appId := some id }, .finished (.ok .done) jobs)) where
  lawful := by
    show Lawful Allowed (t.log ++ [])
    rw [List.append_nil]
    exact h.lawful
  sent_of_connected _ := exists_mem_append _ hsent
  connected_of_called c hc := by
    rcases List.mem_append.1 hc with hc | hc
    · exact h.connected_of_called c hc
    · exact absurd hc List.not_mem_nil
  admitted_of_appId _ _ := exists_mem_append _ hadmitted
  sent_of_job _ _ := exists_mem_append _ hsent
  admitted_of_job _ _ _ := exists_mem_append _ hadmitted
  called_of_underWay c hc := by
    rcases List.mem_append.1 hc with hc | hc
    · exact List.mem_append_left _ (h.called_of_underWay c hc)
    · exact List.mem_append_right _ (List.mem_map_of_mem hc)
  registering c hc := by
    rcases List.mem_append.1 hc with hc | hc
    · exact h.registering c hc
    · exact absurd hc List.not_mem_nil

/-- **A step keeps a session gated.** -/
theorem gated_step (h : Gated t) (hs : Step t u) : Gated u := by
  rcases step_cases hs with ⟨op, rfl⟩ | ⟨i, c, a, hc, rfl⟩ | ⟨j, r, hj, rfl⟩ | ⟨json, cancelled, rfl⟩
  · rcases t.session.begin_start_or_ordinary op with ⟨-, hstart⟩ | hr
    · rw [hstart]
      exact h.enter_registering _
    · exact h.enter_ordinary hr
  · have hrelease : Gated (t.release i c a) := h.release i c a
    rcases t.session.resume_admitted_or_ordinary c.conversation a with ⟨hreg, id, hid, hadmitted⟩ | hr
    · -- the answer that admits the agent is that to the registration
      obtain ⟨q, hq⟩ := h.registering c hc hreg
      have hanswer : Entry.IsAdmission (.answered c a) := ⟨q, c.conversation, a, id, by rw [← hq], hid⟩
      have hsent := h.sent_of_connected (h.connected_of_called c (h.called_of_underWay c hc))
      rw [hadmitted]
      exact hrelease.enter_admitted (exists_mem_append _ hsent)
        ⟨_, List.mem_append_right _ (List.mem_singleton_self _), hanswer⟩
    · exact hrelease.enter_ordinary hr
  · exact h.pass (allowed_ran r (h.sent_of_job j hj) (h.admitted_of_job j hj)) (by rintro _ ⟨⟩)
  · exact ⟨h.lawful, h.sent_of_connected, h.connected_of_called, h.admitted_of_appId, h.sent_of_job,
      h.admitted_of_job, h.called_of_underWay, h.registering⟩

/-- Registration gates a session, whatever has happened. -/
theorem gated_of_reachable {plan : Plan} (h : Reachable (start (.new plan)) t) : Gated t := by
  induction h with
  | refl => exact gated_start plan
  | tail _ hs ih => exact gated_step ih hs

/-! ## What registration decides -/

/-- **What registration decides in a session.** Whatever operations are asked of an agent, in whichever order they take
their steps, and whatever the services answer or leave unanswered:
before the registration was sent no other request is sent;
before the agent was admitted no activity makes a call, except for the feed of a topic;
until the registration was sent an operation that needs a connected session fails at once, as not started unless one of
the routes to delete has no address prefix;
until the agent was admitted it has no identifier;
a start that makes a call sends the registration, and does nothing to the session but connect it;
a start whose registration is not answered with success fails for good, changes nothing and sets nothing off;
and once the registration was sent a start fails at once, even if there is a way to the services. -/
theorem registration_of_reachable {plan : Plan} (h : Reachable (start (.new plan)) t) :
    (∀ before x after, t.log = before ++ x :: after → ∀ r, x.request? = some r →
        (∃ q, r = .agentRegister q) ∨ ∃ y ∈ before, y.IsRegistration)
      ∧ (∀ before j r after, t.log = before ++ .ran j r :: after → (∀ topic, j ≠ .topicFeed topic) →
        ∃ y ∈ before, y.IsAdmission)
      ∧ ((∀ y ∈ t.log, ¬ y.IsRegistration) → ∀ op, op.needsConnection = true →
        t.session.begin op = t.session.fail .notStarted ∨
          ∃ networkInstance destinations e, op = .deleteRoutes networkInstance destinations ∧
            Route.keys networkInstance destinations = .error e ∧ t.session.begin op = t.session.fail e)
      ∧ ((∀ y ∈ t.log, ¬ y.IsAdmission) → t.session.appId = none)
      ∧ (∀ link c, (t.session.begin (.start link)).2.call? = some c →
        (∃ q, c = ⟨.agentRegister q, .registering⟩) ∧
          (t.session.begin (.start link)).1 = { t.session with connected := true })
      ∧ (∀ a, a.admitted? = none → ∃ cause, t.session.resume .registering a = t.session.fail (.fatal cause))
      ∧ ((∃ y ∈ t.log, y.IsRegistration) → ∀ link, ∃ e, t.session.begin (.start link) = t.session.fail e ∧
        (Session.linkFault? t.session.plan link = none → e = .fatal .alreadyStarted)) := by
  have hgated : Gated t := gated_of_reachable h
  refine ⟨fun before x after hlog => (hgated.lawful before x after hlog).request, ?_, ?_, ?_, ?_, ?_, ?_⟩
  · intro before j r after hlog
    exact (hgated.lawful before _ after hlog).ran j r rfl
  · intro hunsent op hop
    refine Session.begin_of_not_connected (Bool.eq_false_iff.2 fun hconnected => ?_) hop
    obtain ⟨y, hy, hsent⟩ := hgated.sent_of_connected hconnected
    exact hunsent y hy hsent
  · intro hnone
    refine Option.eq_none_iff_forall_ne_some.2 fun id hid => ?_
    obtain ⟨y, hy, hadmitted⟩ := hgated.admitted_of_appId id hid
    exact hnone y hy hadmitted
  · intro link c hc
    rw [Session.begin] at hc ⊢
    rcases t.session.beginStart_cases link with ⟨e, he, -⟩ | ⟨-, hstart⟩
    · rw [he] at hc
      cases hc
    · rw [hstart] at hc ⊢
      cases hc
      exact ⟨⟨_, rfl⟩, rfl⟩
  · exact fun a ha => t.session.registered_of_not_admitted ha
  · rintro ⟨y, hy, q, conversation, rfl⟩ link
    have hconnected := hgated.connected_of_called _ hy
    rcases t.session.beginStart_cases link with h | ⟨hnot, -⟩
    · exact h
    · cases hconnected.symm.trans hnot

/-- An answer that does not admit an agent. -/
def denied : Answer := .response (.registration { status := 1, errorText := "denied" })

/-- An agent is started and is not admitted. -/
def deniedStart : List Happening := [.begin (.start .direct), .goOn 0 denied]

/-- An agent that is not admitted has no identifier, and takes no new start. -/
theorem registration_denied :
    ∃ t, Reachable (start (.new { name := "greeter" })) t ∧ t.log.length = 2 ∧ t.session.appId = none ∧
      ∃ e, t.session.begin (.start .direct) = t.session.fail e := by
  have hr : Reachable (start (.new { name := "greeter" })) _ :=
    reachable_of_follow? (show (start (.new { name := "greeter" })).follow? deniedStart = some _ from rfl)
  obtain ⟨-, -, -, hid, -, -, hagain⟩ := registration_of_reachable hr
  refine ⟨_, hr, rfl, hid ?_, ?_⟩
  · refine List.forall_mem_cons.2 ⟨?_, List.forall_mem_singleton.2 ?_⟩
    · rintro ⟨q, conversation, a, id, ⟨⟩, -⟩
    · rintro ⟨q, conversation, a, id, ⟨⟩, hadmitted⟩
      cases hadmitted
  · obtain ⟨e, he, -⟩ := hagain ⟨_, List.mem_cons_self, _, _, rfl⟩ .direct
    exact ⟨e, he⟩

/-- An agent is started and is not admitted, and is to push state all the same. -/
def deniedPush : List Happening := deniedStart ++ [.begin (.updateState "/greeter" "{}")]

/-- **The connection is what is left of a start that fails**: the agent was not admitted, and yet its state is pushed,
and it takes no new start. -/
theorem called_of_denied :
    ∃ t, (start (.new { name := "greeter" })).follow? deniedPush = some t ∧
      (∀ y ∈ t.log, ¬ y.IsAdmission) ∧
      .called ⟨Session.updateCall "/greeter" "{}", .updating "/greeter" "{}"⟩ ∈ t.log ∧
      t.session.begin (.start .direct) = t.session.fail (.fatal .alreadyStarted) := by
  refine ⟨_, rfl, ?_, ?_, rfl⟩
  · refine List.forall_mem_cons.2 ⟨?_, List.forall_mem_cons.2 ⟨?_, List.forall_mem_singleton.2 ?_⟩⟩
    · rintro ⟨q, conversation, a, id, ⟨⟩, -⟩
    · rintro ⟨q, conversation, a, id, ⟨⟩, hadmitted⟩
      cases hadmitted
    · rintro ⟨q, conversation, a, id, ⟨⟩, -⟩
  · exact List.mem_cons_of_mem _ (List.mem_cons_of_mem _ List.mem_cons_self)

end Traffic

end NetworkAgent
