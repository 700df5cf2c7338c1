import NetworkAgent.Proofs.Options
import NetworkAgent.Proofs.Session.Traffic

/-! # Sessions of accepted options

Options that are accepted provide for streaming whenever they provide for acknowledging. A session keeps its plan, so
nothing that an application asks of it, nor any answer, can bring up the error that streaming is missing.

* **`Session.Streams`** — a step that keeps the plan, and brings up that error neither now nor later. By
  `Session.streams_begin` and `Session.streams_resume` every step is of this kind if the plan is sound.
* `Traffic.streams_of_reachable` — the invariant of the traffic of a session.
* **`Plan.ofOptions_iff_faults`** — which options are accepted, what they come to, and what they rule out. -/

namespace NetworkAgent

/-- Whether an error says that streaming is missing. -/
def Error.isUnstreamed : Error → Bool
  | .acknowledge .notStreaming => true
  | _ => false

/-- Whether an operation is to fail with such an error when its call is refused. -/
def Conversation.isUnstreamed : Conversation → Bool
  | .single e => e.isUnstreamed
  | _ => false

/-- Routes are named by destinations, unless one of them is no prefix. -/
theorem Route.exists_of_keys_eq_error {networkInstance : String} {destinations : List String} {e : Error}
    (h : keys networkInstance destinations = .error e) : ∃ text, e = .route (.invalidPrefix text) := by
  induction destinations with
  | nil => cases h
  | cons text rest ih =>
      rw [keys, List.mapM_cons] at h
      cases hd : destination text with
      | error f =>
          rw [hd] at h
          cases h
          rw [destination] at hd
          split at hd
          · cases hd
          · exact ⟨text, (Except.error.inj hd).symm⟩
      | ok p =>
          rw [hd] at h
          cases hrest : keys networkInstance rest with
          | error f =>
              obtain rfl : f = e := by
                rw [keys] at hrest
                rw [hrest] at h
                exact Except.error.inj h
              exact ih hrest
          | ok ks =>
              rw [keys] at hrest
              rw [hrest] at h
              cases h

/-- What keeps a session from using a link is something else. -/
theorem Session.isUnstreamed_of_linkFault? {plan : Plan} {link : Link} {e : Error}
    (h : linkFault? plan link = some e) : e.isUnstreamed = false := by
  cases link with
  | direct => cases h
  | channel =>
      simp only [linkFault?] at h
      split at h <;> cases h <;> rfl
  | dial reachable =>
      simp only [linkFault?] at h
      split at h <;> cases h <;> rfl

/-! ## Steps of operations -/

namespace Session

/-- **A step that keeps the plan, and does not bring up that streaming is missing**: the operation does not fail so, nor
does it wait for an answer to fail so. -/
structure Streams (s : Session) (r : Session × Stage) : Prop where
  /-- The plan is kept. -/
  plan_eq : r.1.plan = s.plan
  /-- The operation does not fail so. -/
  result_ne : ∀ jobs, r.2 ≠ .finished (.error (.acknowledge .notStreaming)) jobs
  /-- Nor is it to fail so when its call is refused. -/
  call : ∀ c ∈ r.2.call?, c.conversation.isUnstreamed = false

variable {s : Session}

/-- To be finished with another result does not bring it up. -/
theorem streams_finished (s : Session) {result : Except Error Reply}
    (h : result ≠ .error (.acknowledge .notStreaming)) (jobs : List Job) : s.Streams (s, .finished result jobs) where
  plan_eq := rfl
  result_ne _ he := h (Stage.finished.inj he).1
  call _ hc := absurd hc (Option.not_mem_none _)

/-- To fail otherwise does not. -/
theorem streams_fail (s : Session) {e : Error} (h : e.isUnstreamed = false) : s.Streams (s.fail e) := by
  refine s.streams_finished (fun he => ?_) []
  cases he
  cases h

/-- To succeed does not. -/
theorem streams_ok (s : Session) (r : Reply) (jobs : List Job) : s.Streams (s, .finished (.ok r) jobs) :=
  s.streams_finished (by simp) jobs

/-- Nor does to be done. -/
theorem streams_done (s : Session) : s.Streams s.done := s.streams_ok .done []

/-- To wait for an answer does not, unless that is to be reported if the call is refused. -/
theorem streams_waiting (s : Session) (r : Request) {c : Conversation} (h : c.isUnstreamed = false) :
    s.Streams (s, .waiting r c) where
  plan_eq := rfl
  result_ne _ := by simp
  call _ hd := by
    cases hd
    exact h

/-- Nor does to make a call. -/
theorem streams_call (s : Session) (r : Request) {c : Conversation} (h : c.isUnstreamed = false) :
    s.Streams (s.call r c) := by
  rw [call]
  split
  · exact s.streams_waiting r h
  · exact s.streams_fail rfl

/-- What does not bring it up in a session does not in one with the same plan. -/
theorem Streams.of_plan_eq {u : Session} {r : Session × Stage} (h : u.Streams r) (hplan : u.plan = s.plan) :
    s.Streams r :=
  { h with plan_eq := h.plan_eq.trans hplan }

/-- To delete the first of some paths that is still tracked does not. -/
theorem streams_deleteNext (s : Session) (paths : List String) : s.Streams (s.deleteNext paths) := by
  rcases s.deleteNext_cases paths with ⟨_, path, rest, -, -, -, h⟩ | ⟨-, h⟩
  · rw [h]
    exact s.streams_call _ rfl
  · rw [h]
    exact (streams_done { s with ledger := .empty }).of_plan_eq rfl

/-- **No operation begins by bringing it up**, if the plan provides for streaming whenever it does for acknowledging. -/
theorem streams_begin (h : s.plan.acknowledge = true → s.plan.streamConfig = true) (op : Operation) :
    s.Streams (s.begin op) := by
  cases op with
  | start link =>
      rw [begin, beginStart]
      split
      · next e he => exact s.streams_fail (isUnstreamed_of_linkFault? he)
      · split
        · exact s.streams_fail rfl
        · exact (streams_call { s with connected := true } _ rfl).of_plan_eq rfl
  | stop =>
      rw [begin]
      split
      · exact s.streams_waiting _ rfl
      · exact (streams_done { s with cancelled := true }).of_plan_eq rfl
  | deleteState path =>
      rw [begin]
      split
      · exact s.streams_call _ rfl
      · exact s.streams_fail rfl
  | deleteAllState => exact s.streams_deleteNext _
  | deleteRoutes networkInstance destinations =>
      rw [begin]
      split
      · next e he =>
        obtain ⟨text, rfl⟩ := Route.exists_of_keys_eq_error he
        exact s.streams_fail rfl
      · exact s.streams_call _ rfl
  | acknowledge infos =>
      rw [begin, beginAcknowledge]
      split
      · exact s.streams_fail rfl
      · next hacknowledge =>
        -- here alone the error could come up
        have hstream : s.plan.streamConfig = true := h (by simpa using hacknowledge)
        rw [hstream]
        exact s.streams_call _ rfl
  | receive topic =>
      rw [begin]
      split
      · exact s.streams_ok _ _
      · exact s.streams_fail rfl
  | _ => exact s.streams_call _ rfl

/-- **No answer brings it up**, unless the operation was to report it. -/
theorem streams_resume {c : Conversation} (hc : c.isUnstreamed = false) (a : Answer) :
    s.Streams (s.resume c a) := by
  cases c with
  | registering =>
      simp only [resume]
      unfold registered
      split
      · next r =>
        split
        · exact (streams_ok { s with appId := some r.appId } _ _).of_plan_eq rfl
        · exact s.streams_fail rfl
      · exact s.streams_fail rfl
      · exact s.streams_fail rfl
  | unregistering => exact (streams_done { s with cancelled := true }).of_plan_eq rfl
  | updating path json =>
      rw [resume]
      split
      · exact (streams_done { s with ledger := s.ledger.insert path }).of_plan_eq rfl
      · exact s.streams_fail rfl
  | deleting path rest =>
      rw [resume, deleted]
      split
      · have hdropped : ∀ r, ({ s with ledger := s.ledger.drop s.appRoot path } : Session).Streams r → s.Streams r :=
          fun _ hr => hr.of_plan_eq rfl
        cases rest with
        | none => exact hdropped _ (streams_done _)
        | some rest => exact hdropped _ (streams_deleteNext _ rest)
      · exact s.streams_fail rfl
  | openingWindow w add =>
      rw [resume]
      split
      · exact s.streams_call _ rfl
      · exact s.streams_fail (by cases w <;> rfl)
  | fillingWindow w =>
      rw [resume]
      split
      · exact s.streams_call _ rfl
      · exact s.streams_fail (by cases w <;> rfl)
  | closingWindow w =>
      rw [resume]
      split
      · exact s.streams_done
      · exact s.streams_fail (by cases w <;> rfl)
  | single e =>
      rw [resume]
      split
      · exact s.streams_done
      · exact s.streams_fail hc
  | getting =>
      simp only [resume]
      split
      · exact s.streams_ok _ _
      · exact s.streams_done
      · exact s.streams_fail rfl
  | setting =>
      simp only [resume]
      split
      · exact s.streams_ok _ _
      · exact s.streams_done
      · exact s.streams_fail rfl

end Session

/-! ## The traffic of a session -/

namespace Traffic

variable {t u : Traffic} {plan : Plan}

/-- **The traffic of a session with a plan, in which nothing is to bring up that streaming is missing.** -/
structure Streams (plan : Plan) (t : Traffic) : Prop where
  /-- The session has the plan. -/
  plan_eq : t.session.plan = plan
  /-- No operation under way is to fail so when its call is refused. -/
  underWay : ∀ c ∈ t.underWay, c.conversation.isUnstreamed = false

/-- The traffic stays so when an operation takes a step that does not bring it up. -/
theorem Streams.enter (h : Streams plan t) {r : Session × Stage} (hr : t.session.Streams r) :
    Streams plan (t.enter r) where
  plan_eq := hr.plan_eq.trans h.plan_eq
  underWay c hc := by
    rcases List.mem_append.1 hc with hc | hc
    · exact h.underWay c hc
    · exact hr.call c (Option.mem_toList.1 hc)

/-- It stays so when an operation is about to go on with an answer. -/
theorem Streams.release (h : Streams plan t) (i : Nat) (c : Call) (a : Answer) :
    Streams plan (t.release i c a) where
  plan_eq := h.plan_eq
  underWay d hd := h.underWay d (List.mem_of_mem_eraseIdx hd)

/-- **Whatever happens, the traffic stays so**, if the plan provides for streaming whenever it does for
acknowledging. -/
theorem streams_of_reachable (hplan : plan.acknowledge = true → plan.streamConfig = true)
    (h : Reachable (start (.new plan)) t) : Streams plan t := by
  induction h with
  | refl => exact { plan_eq := rfl, underWay := fun _ hc => absurd hc List.not_mem_nil }
  | tail _ hstep ih =>
      rcases step_cases hstep with ⟨op, rfl⟩ | ⟨i, c, a, hc, rfl⟩ | ⟨j, r, -, rfl⟩ | ⟨json, cancelled, rfl⟩
      · exact ih.enter (Session.streams_begin (by rwa [ih.plan_eq]) op)
      · exact (ih.release i c a).enter (Session.streams_resume (ih.underWay c hc) a)
      · exact { plan_eq := ih.plan_eq, underWay := ih.underWay }
      · exact { plan_eq := ih.plan_eq, underWay := ih.underWay }

end Traffic

/-! ## Accepted options -/

namespace Plan

/-- **Which options are accepted, what they come to, and what they rule out.** Options are refused just if they have
faults, and then with these; faults are an empty name, a keepalive option that sets nothing, and acknowledging without
streaming or together with state that follows the configuration by itself. Otherwise they come to the plan that they
describe. The order of options matters only within a kind. In whatever becomes of a session of options that were
accepted, no operation fails because streaming is missing, neither when it begins nor when it goes on. -/
theorem ofOptions_iff_faults (name : String) (os : List AgentOption) :
    (∀ es, ofOptions name os = .error es ↔ es ≠ [] ∧ es = faults name os) ∧
      (∀ plan, ofOptions name os = .ok plan ↔ faults name os = [] ∧ plan = described name os) ∧
      (faults name os ≠ [] ↔ name = "" ∨ .keepAlive ⟨0, 0⟩ ∈ os ∨ (.acknowledge ∈ os ∧ .streamConfig ∉ os) ∨
        (.acknowledge ∈ os ∧ .autoState ∈ os)) ∧
      os.foldl apply { name := name } = described name os ∧
      (∀ ps, Rearranged os ps → ofOptions name ps = ofOptions name os ∧ described name ps = described name os) ∧
      ∀ plan, ofOptions name os = .ok plan → ∀ t, Traffic.Reachable (.start (.new plan)) t →
        (∀ op jobs, (t.session.begin op).2 ≠ .finished (.error (.acknowledge .notStreaming)) jobs) ∧
          ∀ c ∈ t.underWay, ∀ a jobs,
            (t.session.resume c.conversation a).2 ≠ .finished (.error (.acknowledge .notStreaming)) jobs := by
  have herror (es) : ofOptions name os = .error es ↔ es ≠ [] ∧ es = faults name os := by
    rw [ofOptions_eq]
    split
    · next h => simp [h]
    · next h => exact ⟨fun he => by cases he; exact ⟨h, rfl⟩, fun he => he.2 ▸ rfl⟩
  have hok (plan) : ofOptions name os = .ok plan ↔ faults name os = [] ∧ plan = described name os := by
    rw [ofOptions_eq]
    split
    · next h => simp [h, eq_comm]
    · next h => simp [h]
  refine ⟨herror, hok, faults_ne_nil_iff name os, foldl_apply_eq_described name os, fun ps h => ?_,
    fun plan hplan t ht => ?_⟩
  · rw [ofOptions_eq, ofOptions_eq, h.faults_eq, h.described_eq]
    exact ⟨rfl, rfl⟩
  · obtain ⟨hfaults, rfl⟩ := (hok plan).1 hplan
    have hstreams : Traffic.Streams (described name os) t :=
      Traffic.streams_of_reachable (streamConfig_described hfaults) ht
    refine ⟨fun op => (Session.streams_begin ?_ op).result_ne,
      fun c hc a => (Session.streams_resume (hstreams.underWay c hc) a).result_ne⟩
    rw [hstreams.plan_eq]
    exact streamConfig_described hfaults

/-- Options with every fault, one of them twice, and others that are accepted, each in two orders. The keepalive option
that sets nothing leaves the one before it in force. -/
theorem ofOptions_iff_faults_misplaced :
    (∃ os ps, Rearranged os ps ∧ os ≠ ps ∧ ofOptions "" os = ofOptions "" ps ∧
      ofOptions "" ps = .error [.emptyName, .invalidKeepAlive, .invalidKeepAlive, .acknowledgeWithoutStream,
        .acknowledgeWithAutoState] ∧
      (os.foldl apply { name := "" }).keepAlive = some ⟨10000, 3⟩) ∧
    ∃ os plan, ofOptions "greeter" os = .ok plan ∧
      ((Session.new plan).begin (.acknowledge [])).2 ≠ .finished (.error (.acknowledge .notStreaming)) [] := by
  refine ⟨⟨[.autoState, .keepAlive ⟨0, 0⟩, .keepAlive ⟨10000, 3⟩, .acknowledge, .keepAlive ⟨0, 0⟩],
    [.keepAlive ⟨0, 0⟩, .acknowledge, .keepAlive ⟨10000, 3⟩, .keepAlive ⟨0, 0⟩, .autoState], ?_⟩,
    [.acknowledge, .streamConfig], _, rfl, ?_⟩
  · have hrearranged : Rearranged
        [.autoState, .keepAlive ⟨0, 0⟩, .keepAlive ⟨10000, 3⟩, .acknowledge, .keepAlive ⟨0, 0⟩]
        [.keepAlive ⟨0, 0⟩, .acknowledge, .keepAlive ⟨10000, 3⟩, .keepAlive ⟨0, 0⟩, .autoState] := by
      intro kind
      cases kind <;> rfl
    obtain ⟨-, -, -, hplan, hsame, -⟩ := ofOptions_iff_faults "" _
    exact ⟨hrearranged, by decide, (hsame _ hrearranged).1.symm, by decide, by rw [hplan]; decide⟩
  · obtain ⟨-, -, -, -, -, hstreams⟩ := ofOptions_iff_faults "greeter" [.acknowledge, .streamConfig]
    exact (hstreams _ rfl _ .refl).1 (.acknowledge []) []

end Plan

end NetworkAgent
