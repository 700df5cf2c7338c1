import NetworkAgent.Proofs.Session.Turns

/-! # Operations one after another

An application that asks for one thing at a time waits until an operation is finished before it asks for the next.
Then a session and the daemon take turns: the operation makes a call, the daemon answers, and the operation goes on.

* **`Daemon`** — how the daemon answers: it may have regard to everything that was said before. `Exchange.said` is what
  goes over the wire, and **`Answer.IsSuccess`** says which answers are successes.
* `Session.calls_resume` — an operation makes fewer calls after an answer than before it, so it comes to an end.
* **`Session.converse`** — an operation to its end; **`Record.perform`** and **`Record.run`** do so for an operation
  that is asked for, and for one after another. `Record` is a session with what was said.
* `Session.converse_invariant` — what the answers keep holds when the operation is finished. -/

namespace NetworkAgent

/-! ## How long an operation goes on -/

/-- How many calls an operation may make after the one that it waits for. -/
def Conversation.callsLeft : Conversation → Nat
  | .deleting _ (some rest) => rest.length
  | .openingWindow _ _ => 2
  | .fillingWindow _ => 1
  | _ => 0

/-- How many calls an operation may still wait for. -/
def Stage.calls : Stage → Nat
  | .waiting _ c => c.callsLeft + 1
  | .finished _ _ => 0

namespace Session

/-- An operation that makes a call may wait for it and for those after it. -/
theorem calls_call (s : Session) (r : Request) (c : Conversation) : (s.call r c).2.calls ≤ c.callsLeft + 1 := by
  rw [call]
  split
  · exact Nat.le_refl _
  · exact Nat.zero_le _

/-- Of some paths each is deleted once. -/
theorem calls_deleteNext (s : Session) (paths : List String) : (s.deleteNext paths).2.calls ≤ paths.length := by
  induction paths with
  | nil => exact Nat.le_refl _
  | cons path rest ih =>
      rw [deleteNext]
      split
      · exact s.calls_call _ _
      · exact Nat.le_succ_of_le ih

/-- **An answer leaves an operation fewer calls.** -/
theorem calls_resume (s : Session) (c : Conversation) (a : Answer) :
    (s.resume c a).2.calls ≤ c.callsLeft := by
  cases c with
  | registering =>
      rw [resume]
      unfold registered
      repeat' split
      all_goals exact Nat.zero_le _
  | deleting path rest =>
      rw [resume, deleted]
      split
      · cases rest with
        | none => exact Nat.le_refl _
        | some rest => exact calls_deleteNext _ rest
      · exact Nat.zero_le _
  -- a window is opened, filled and closed, with a call for each
  | openingWindow w add =>
      rw [resume]
      split
      · exact s.calls_call _ _
      · exact Nat.zero_le _
  | fillingWindow w =>
      rw [resume]
      split
      · exact s.calls_call _ _
      · exact Nat.zero_le _
  | unregistering => exact Nat.le_refl _
  | _ =>
      simp only [resume]
      split <;> exact Nat.zero_le _

end Session

/-! ## An operation to its end -/

instance : DecidableEq (Except Error Reply)
  | .ok a, .ok b => decidable_of_iff (a = b) (Except.ok.injEq a b ▸ Iff.rfl)
  | .error a, .error b => decidable_of_iff (a = b) (Except.error.injEq a b ▸ Iff.rfl)
  | .ok _, .error _ => .isFalse nofun
  | .error _, .ok _ => .isFalse nofun

/-- A call of an operation, with its answer. -/
structure Exchange where
  /-- The call. -/
  call : Call
  /-- The answer. -/
  answer : Answer

/-- What was asked and answered in an exchange, however its operation went on. -/
def Exchange.said (e : Exchange) : Request × Answer := (e.call.request, e.answer)

/-- The status in a response; one that comes without stands for zero. -/
def Response.status : Response → Int32
  | .registration r => r.status
  | .stream r => r.status
  | .outcome o => o.status
  | .opened | .config _ | .got _ | .set _ => 0

/-- **A success** is a response with the status zero. -/
def Answer.IsSuccess (a : Answer) : Prop := ∃ r : Response, a = .response r ∧ r.status = 0

/-- Operations go by successes. -/
theorem Answer.isSuccess_iff {a : Answer} : a.IsSuccess ↔ a.succeeded = true := by
  have hstatus (r : Response) : r.report.isSuccess = true ↔ r.status = 0 := by
    cases r <;> exact beq_iff_eq
  cases a with
  | failed s => exact iff_of_false (fun ⟨_, h, _⟩ => nomatch h) Bool.false_ne_true
  | response r =>
      rw [Answer.succeeded, hstatus]
      exact ⟨fun ⟨_, h, hr⟩ => by cases h; exact hr, fun h => ⟨r, rfl, h⟩⟩

instance (a : Answer) : Decidable a.IsSuccess := decidable_of_iff _ Answer.isSuccess_iff.symm

/-- **How the daemon answers** a request, given all that was said before. -/
def Daemon : Type := List Exchange → Request → Answer

/-- A session with what was said. -/
structure Record where
  /-- The session. -/
  session : Session
  /-- All calls with their answers, in order. -/
  history : List Exchange := []

/-- **An operation to its end**: each call is answered, and the operation goes on with the answer. -/
def Session.converse (daemon : Daemon) (s : Session) (history : List Exchange) :
    Stage → Record × Except Error Reply
  | .finished result _ => (⟨s, history⟩, result)
  | .waiting r c =>
    converse daemon (s.resume c (daemon history r)).1 (history ++ [⟨⟨r, c⟩, daemon history r⟩])
      (s.resume c (daemon history r)).2
termination_by stage => stage.calls
decreasing_by exact Nat.lt_succ_of_le (s.calls_resume c (daemon history r))

/-- **What each answer keeps holds in the end.** A property of a session, of what was said and of what an operation
has come to, holds of the operation when it is finished, if it held before and going on with an answer keeps it. -/
theorem Session.converse_invariant {P : Session → List Exchange → Stage → Prop} {daemon : Daemon}
    (step : ∀ s history r c a, P s history (.waiting r c) →
      P (s.resume c a).1 (history ++ [⟨⟨r, c⟩, a⟩]) (s.resume c a).2)
    {s : Session} {history : List Exchange} {stage : Stage} (h : P s history stage) :
    ∃ jobs, P (s.converse daemon history stage).1.session (s.converse daemon history stage).1.history
      (.finished (s.converse daemon history stage).2 jobs) := by
  -- along the turns of session and daemon
  fun_induction Session.converse daemon s history stage with
  | case1 s history result jobs => exact ⟨jobs, h⟩
  | case2 s history r c ih => exact ih (step _ _ _ _ _ h)

namespace Record

/-- An operation that is asked for, to its end, with its result. -/
def perform (daemon : Daemon) (r : Record) (op : Operation) : Record × Except Error Reply :=
  (r.session.begin op).1.converse daemon r.history (r.session.begin op).2

/-- **Operations one after another.** -/
def run (daemon : Daemon) (r : Record) (ops : List Operation) : Record :=
  ops.foldl (fun r op => (r.perform daemon op).1) r

/-- One more operation. -/
theorem run_concat (daemon : Daemon) (r : Record) (ops : List Operation) (op : Operation) :
    r.run daemon (ops ++ [op]) = ((r.run daemon ops).perform daemon op).1 := by
  rw [run, List.foldl_append, List.foldl_cons, List.foldl_nil, ← run]

/-- A property that each operation keeps holds after all of them. -/
theorem run_invariant {P : Record → Prop} {daemon : Daemon} {r : Record} {ops : List Operation} (h : P r)
    (step : ∀ r, ∀ op ∈ ops, P r → P (r.perform daemon op).1) : P (r.run daemon ops) := by
  induction ops generalizing r with
  | nil => exact h
  | cons op ops ih =>
      obtain ⟨hop, hops⟩ := List.forall_mem_cons.1 (fun o ho r => step r o ho)
      exact ih (hop r h) fun r o ho => hops o ho r

end Record

end NetworkAgent
