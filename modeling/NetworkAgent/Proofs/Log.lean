import Mathlib.Data.List.ModifyLast
import NetworkAgent.Proofs.Course

/-! # Logs

What an activity does to its services is a log that grows at its end. What may stand in it at all depends on
what stands before.

* **`Lawful law log`** — each entry is one that the law allows after those before it. `lawful_concat` is its
  step: an entry is added.
* **`Dealing`** — a call with its answer. **`Course.log`** is what the past of a course says about its calls;
  `Course.log_record` says what an event adds to it.
* **`Course.calls`** — the calls with their instants, without the answers; `Course.calls_record` is its step. -/

namespace NetworkAgent

/-! ## Laws -/

section Lawful

variable {ε : Type} {law : List ε → ε → Prop}

/-- **A log is lawful** if each of its entries is one that the law allows after the entries before it. -/
def Lawful (law : List ε → ε → Prop) (log : List ε) : Prop :=
  ∀ before x after, log = before ++ x :: after → law before x

/-- The empty log is lawful. -/
theorem lawful_nil : Lawful law [] := fun before x after h =>
  absurd h.symm (List.append_ne_nil_of_right_ne_nil before (List.cons_ne_nil x after))

/-- **A log with an entry added is lawful** if it was, and the law allows the entry. -/
theorem lawful_concat {log : List ε} {x : ε} : Lawful law (log ++ [x]) ↔ Lawful law log ∧ law log x := by
  constructor
  · intro h
    refine ⟨fun before y after hlog => h before y (after ++ [x]) ?_, h log x [] rfl⟩
    rw [hlog, List.append_assoc, List.cons_append]
  · rintro ⟨hlog, hx⟩ before y after h
    -- the entry in question is the new one, or has it among those after it
    rcases List.eq_nil_or_concat after with rfl | ⟨rest, z, rfl⟩
    · obtain ⟨rfl, hy⟩ := List.append_inj' h rfl
      cases hy
      exact hx
    · rw [List.concat_eq_append, ← List.cons_append, ← List.append_assoc] at h
      exact hlog before y rest (List.append_inj' h rfl).1

/-- A log is lawful if each entry is allowed at its place. -/
theorem lawful_iff_getElem {log : List ε} :
    Lawful law log ↔ ∀ n, ∀ h : n < log.length, law (log.take n) log[n] := by
  constructor
  · intro h n hn
    exact h (log.take n) log[n] (log.drop (n + 1)) (by rw [List.getElem_cons_drop, List.take_append_drop])
  · intro h before x after hlog
    have hn : before.length < log.length := by
      rw [hlog, List.length_append, List.length_cons]
      omega
    have hx := h before.length hn
    simpa only [hlog, List.take_left, List.getElem_concat_length, List.getElem_append_right (Nat.le_refl _),
      Nat.sub_self, List.getElem_cons_zero] using hx

instance [∀ before x, Decidable (law before x)] (log : List ε) : Decidable (Lawful law log) :=
  decidable_of_iff _ lawful_iff_getElem.symm

end Lawful

/-! ## Calls and their answers -/

/-- A call with its answer. -/
structure Dealing where
  /-- When it was made, in milliseconds. -/
  time : Nat
  /-- What was asked. -/
  request : Request
  /-- What was answered, if it has been. -/
  answer : Option Answer := none

/-- A log after an event was taken: an answer is that to the last call. -/
def Dealing.settle (log : List Dealing) : Event → List Dealing
  | .answered a => log.modifyLast fun d => { d with answer := some a }
  | _ => log

/-- A log after an event was taken at an instant, with calls made then. -/
def Dealing.extend (log : List Dealing) (t : Nat) (e : Event) (requests : List Request) : List Dealing :=
  settle log e ++ requests.map (⟨t, ·, none⟩)

/-- Without a call only an answer changes a log. -/
theorem Dealing.extend_nil (log : List Dealing) (t : Nat) (e : Event) : extend log t e [] = settle log e :=
  List.append_nil _

/-- An answer is that to the last call. -/
theorem Dealing.settle_answered (log : List Dealing) (d : Dealing) (a : Answer) :
    settle (log ++ [d]) (.answered a) = log ++ [{ d with answer := some a }] :=
  List.modifyLast_concat _ d log

/-- An answer leaves it alone what was asked, and when. -/
theorem Dealing.map_settle (log : List Dealing) (e : Event) :
    (settle log e).map (fun d => (d.time, d.request)) = log.map fun d => (d.time, d.request) := by
  cases e with
  | answered a =>
      rcases List.eq_nil_or_concat log with rfl | ⟨before, d, rfl⟩
      · rfl
      · rw [List.concat_eq_append, settle_answered, List.map_append, List.map_append]
        rfl
  | _ => rfl

namespace Course

variable {σ ω : Type} (A : Activity σ ω)

/-- **The calls that an activity has made**, in order, each with its answer. -/
def log (c : Course σ ω) : List Dealing :=
  c.past.foldl (fun log m => Dealing.extend log m.time m.event (m.outputs.filterMap A.request?)) []

/-- What an event adds to the log. -/
theorem log_record (t : Nat) (e : Event) (state : σ) (outputs : List ω) (c : Course σ ω) :
    (c.record A t e state outputs).log A
      = Dealing.extend (c.log A) t e (outputs.filterMap A.request?) := by
  rw [log, record, List.foldl_append, List.foldl_cons, List.foldl_nil, ← log]

/-- **The calls of an activity with their instants**, whatever their answers. -/
def calls (c : Course σ ω) : List (Nat × Request) := (c.log A).map fun d => (d.time, d.request)

/-- What an event adds to the calls: those that are made with it. -/
theorem calls_record (t : Nat) (e : Event) (state : σ) (outputs : List ω) (c : Course σ ω) :
    (c.record A t e state outputs).calls A = c.calls A ++ (outputs.filterMap A.request?).map (t, ·) := by
  rw [calls, log_record, Dealing.extend, List.map_append, Dealing.map_settle, List.map_map, ← calls]
  rfl

end Course

end NetworkAgent
