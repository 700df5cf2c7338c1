import NetworkAgent.Proofs.Log
import NetworkAgent.Proofs.Stream.Moves

/-! # The handles of a pump

Whatever the services answer, a pump's calls follow one law, which reads off the log alone which call may come
next.

* **`Request.creation`**, **`Request.addition`** — the two requests about handles, field by field, and
  **`Message.Subscription.topic`**, the topic that a subscription asks for.
* **`Dealing.Grants`**, **`Dealing.IsRefused`**, **`Dealing.IsStale`** — what the log says about a call: it was
  granted a handle, it was for a handle and was refused, it was for the stream of a handle that the daemon does
  not know any more.
* **`Pump.handle?`** — the handle in use: that of the latest grant, or the first one.
* **`Pump.Admits`** — the law: which call a pump may make after a log.
* **`Pump.Disciplined`** — the invariant of a pump's course: the log follows the law, and what the pump is doing
  stands at the end of the log. `disciplined_move` is its step.
* **`Pump.handles_of_reachable`** — what the law says of each call in the log of any reachable course. -/

namespace NetworkAgent

open Message

/-! ## What is asked about handles -/

/-- **The request for a new handle**: operation `0`, with nothing else in it. -/
def Request.creation : Request :=
  .notificationRegister { operation := 0, streamId := 0, subscriptionId := 0, subscription := none }

/-- **The request that puts a subscription on a handle**: operation `2` on that, with the subscription. -/
def Request.addition (id : UInt64) (s : Subscription) : Request :=
  .notificationRegister { operation := 2, streamId := id, subscriptionId := 0, subscription := some s }

/-- The topic that a subscription asks for. -/
def Message.Subscription.topic : Subscription → Topic
  | .interface => .interface
  | .networkInstance => .networkInstance
  | .lldpNeighbor => .lldpNeighbor
  | .config => .config
  | .bfdSession => .bfdSession
  | .route => .route
  | .appId => .appId
  | .nextHopGroup => .nextHopGroup

/-- A topic is asked for by a subscription to it. -/
@[simp] theorem Topic.topic_subscription (t : Topic) : t.subscription.topic = t := by cases t <;> rfl

/-! ## What the log says about a call -/

namespace Dealing

/-- A call was granted a handle: it was for one, and was answered with the status zero. -/
def Grants (id : UInt64) (d : Dealing) : Prop :=
  d.request = .creation ∧
    ∃ r : StreamRegistrationResponse, d.answer = some (.response (.stream r)) ∧ r.status = 0 ∧ r.streamId = id

/-- A call for a handle was answered, and not granted one. -/
def IsRefused (d : Dealing) : Prop :=
  d.request = .creation ∧ d.answer.isSome = true ∧ ∀ id, ¬ d.Grants id

/-- A call for a stream failed because the daemon does not know its handle. -/
def IsStale (d : Dealing) : Prop :=
  ∃ id s, d.request = .notificationStream id ∧ d.answer = some (.failed s) ∧
    (s.code = .notFound ∨ s.code = .invalidArgument)

/-- The handle that a call was granted, if it was granted one. -/
def granted? (d : Dealing) : Option UInt64 :=
  if d.request = .creation then d.answer.bind Registry.granted? else none

end Dealing

/-- An answer grants a handle if it reports a success with it. -/
theorem Registry.granted?_eq_some_iff {a : Answer} {id : UInt64} :
    granted? a = some id ↔ ∃ r : StreamRegistrationResponse, a = .response (.stream r) ∧
      r.status = 0 ∧ r.streamId = id := by
  have hstatus (r : StreamRegistrationResponse) : r.outcome.isSuccess = true ↔ r.status = 0 := beq_iff_eq
  constructor
  · intro h
    unfold granted? at h
    split at h
    · next r =>
        split at h
        · next hr => exact ⟨r, rfl, (hstatus r).1 hr, Option.some.inj h⟩
        · cases h
    · cases h
  · rintro ⟨r, rfl, hr, rfl⟩
    rw [granted?, if_pos ((hstatus r).2 hr)]

/-- A subscription is put on a handle by another request than that for one. -/
theorem Request.addition_ne_creation (id : UInt64) (s : Subscription) : addition id s ≠ creation := by
  intro h
  have hop : (2 : Int32) = 0 := congrArg StreamRegistrationRequest.operation (Request.notificationRegister.inj h)
  exact absurd hop (by decide)

/-- The stream of a handle is asked for by another request than a handle. -/
theorem Request.stream_ne_creation (id : UInt64) : notificationStream id ≠ creation := nofun

/-- A call fails as not found or as an invalid argument just if it says that the handle is not known. -/
theorem Opening.ofAnswer?_failed_iff {s : Status} :
    ofAnswer? (.failed s) = some .stale ↔ s.code = .notFound ∨ s.code = .invalidArgument := by
  obtain ⟨code, text⟩ := s
  cases code <;> simp [ofAnswer?]

namespace Dealing

/-- What a call was granted. -/
theorem granted?_eq_some_iff {d : Dealing} {id : UInt64} : d.granted? = some id ↔ d.Grants id := by
  unfold granted? Grants
  split
  · next h =>
      rw [Option.bind_eq_some_iff]
      constructor
      · rintro ⟨a, ha, hg⟩
        obtain ⟨r, rfl, hr, hid⟩ := Registry.granted?_eq_some_iff.1 hg
        exact ⟨h, r, ha, hr, hid⟩
      · rintro ⟨-, r, ha, hr, hid⟩
        exact ⟨_, ha, Registry.granted?_eq_some_iff.2 ⟨r, rfl, hr, hid⟩⟩
  · next h => exact ⟨nofun, fun hg => absurd hg.1 h⟩

/-- Only a call for a handle is granted one. -/
theorem granted?_of_ne {d : Dealing} (h : d.request ≠ .creation) : d.granted? = none :=
  if_neg h

/-- What was granted nothing. -/
theorem granted?_eq_none_iff {d : Dealing} : d.granted? = none ↔ ∀ id, ¬ d.Grants id := by
  rw [Option.eq_none_iff_forall_ne_some]
  exact forall_congr' fun id => not_congr granted?_eq_some_iff

end Dealing

namespace Pump

variable {α : Type} {sel : Selector α} {delay : Nat}

/-! ## The law -/

/-- **The handle in use**: that of the latest grant, or the first one if there was none. -/
def handle? (first : Option UInt64) (log : List Dealing) : Option UInt64 :=
  (log.filterMap Dealing.granted?).getLast?.or first

/-- A call may be made for a handle at the start, unless there is one, after a refusal, and in place of a handle
that the daemon does not know. -/
def MayCreate (first : Option UInt64) (log : List Dealing) : Prop :=
  (first = none ∧ log = []) ∨ ∃ d ∈ log.getLast?, d.IsRefused ∨ d.IsStale

/-- The last call was granted nothing. -/
def Settled (log : List Dealing) : Prop := ∀ d ∈ log.getLast?, d.granted? = none

/-- **The calls that a pump may make** after a log. -/
inductive Admits (first : Option UInt64) (topic : Topic) (log : List Dealing) : Request → Prop where
  /-- For a handle. -/
  | create (h : MayCreate first log) : Admits first topic log .creation
  /-- For a subscription to its topic on the handle just granted. -/
  | subscribe {id : UInt64} {s : Subscription} (h : ∃ d ∈ log.getLast?, d.Grants id) (hs : s.topic = topic) :
      Admits first topic log (.addition id s)
  /-- For the stream of the handle in use, which was not granted just now. -/
  | stream {id : UInt64} (h : handle? first log = some id) (hl : Settled log) :
      Admits first topic log (.notificationStream id)

/-- A log with a call added that was granted nothing has the handle that it had. -/
theorem handle?_concat {first : Option UInt64} {log : List Dealing} {d : Dealing} (h : d.granted? = none) :
    handle? first (log ++ [d]) = handle? first log := by
  rw [handle?, List.filterMap_append, List.filterMap_cons_none h, List.filterMap_nil, List.append_nil,
    ← handle?]

/-- A log with a grant added has the handle of that. -/
theorem handle?_concat_granted {first : Option UInt64} {log : List Dealing} {d : Dealing} {id : UInt64}
    (h : d.granted? = some id) : handle? first (log ++ [d]) = some id := by
  rw [handle?, List.filterMap_append, List.filterMap_cons_some h, List.filterMap_nil,
    List.getLast?_concat, Option.some_or]

/-- What is said of the last call of a log is said of the call that was added to it. -/
theorem exists_getLast?_concat {P : Dealing → Prop} {log : List Dealing} {d : Dealing} :
    (∃ e ∈ (log ++ [d]).getLast?, P e) ↔ P d := by
  rw [List.getLast?_concat]
  constructor
  · rintro ⟨e, ⟨⟩, h⟩
    exact h
  · exact fun h => ⟨d, rfl, h⟩

/-- A log with a call added is settled just if that was granted nothing. -/
theorem settled_concat {log : List Dealing} {d : Dealing} : Settled (log ++ [d]) ↔ d.granted? = none := by
  rw [Settled, List.getLast?_concat]
  constructor
  · exact fun h => h d rfl
  · rintro h e ⟨⟩
    exact h

/-- After a call the next may be for a handle just if that call was refused one, or its handle is not known. -/
theorem mayCreate_concat {first : Option UInt64} {log : List Dealing} {d : Dealing} :
    MayCreate first (log ++ [d]) ↔ d.IsRefused ∨ d.IsStale := by
  rw [MayCreate, exists_getLast?_concat]
  exact or_iff_right fun h => List.append_ne_nil_of_right_ne_nil log (List.cons_ne_nil d []) h.2

/-! ## The invariant -/

/-- Where a pump stands at the end of its log, by what it is doing. -/
def Stands (first : Option UInt64) (topic : Topic) (log : List Dealing) : Phase → Prop
  | .obtaining .attempting => ∃ before t, log = before ++ [⟨t, .creation, none⟩]
  | .obtaining _ => MayCreate first log
  | .subscribing id =>
    ∃ before t, log = before ++ [⟨t, .addition id topic.subscription, none⟩] ∧ handle? first before = some id
  | .opening id .attempting =>
    ∃ before t, log = before ++ [⟨t, .notificationStream id, none⟩] ∧ handle? first before = some id
  | .opening id _ | .receiving id | .backingOff id _ => handle? first log = some id
  | .stale _ => ∃ d ∈ log.getLast?, d.IsStale
  | .stopped => True

/-- **A pump is disciplined** if its log follows the law and does not end with a grant, and the pump stands at
its end. -/
structure Disciplined (first : Option UInt64) (topic : Topic) (log : List Dealing) (phase : Phase) :
    Prop where
  /-- Each call was one that the pump may make. -/
  lawful : Lawful (fun before d => Admits first topic before d.request) log
  /-- A grant is followed by the call that puts the topic on the handle. -/
  settled : Settled log
  /-- What the pump is doing. -/
  stands : Stands first topic log phase

section Disciplined

variable {first : Option UInt64} {topic : Topic} {log : List Dealing} {phase next : Phase}

/-- A pump is disciplined after an event that brings no answer, if it makes no call and stands at the end of the
same log. -/
theorem Disciplined.silent {t : Nat} {e : Event} (h : Disciplined first topic log phase)
    (he : Dealing.settle log e = log) (hs : Stands first topic log next) :
    Disciplined first topic (Dealing.extend log t e []) next := by
  rw [Dealing.extend_nil, he]
  exact ⟨h.lawful, h.settled, hs⟩

/-- A pump is disciplined after a call that the law allows. -/
theorem disciplined_call {t : Nat} {r : Request}
    (hl : Lawful (fun before d => Admits first topic before d.request) log) (hr : Admits first topic log r)
    (hs : Stands first topic (log ++ [⟨t, r, none⟩]) next) :
    Disciplined first topic (log ++ [⟨t, r, none⟩]) next where
  lawful := lawful_concat.2 ⟨hl, hr⟩
  settled := settled_concat.2 (ite_self none)
  stands := hs

/-- The answer to the last call leaves the log lawful: the law is about what was asked. -/
theorem Disciplined.lawful_answered {t : Nat} {r : Request} {a : Answer}
    (h : Disciplined first topic (log ++ [⟨t, r, none⟩]) phase) :
    Lawful (fun before d => Admits first topic before d.request) (log ++ [⟨t, r, some a⟩]) := by
  obtain ⟨hl, hr⟩ := lawful_concat.1 h.lawful
  exact lawful_concat.2 ⟨hl, hr⟩

/-- A pump is disciplined after an answer that grants nothing. -/
theorem Disciplined.answered {t t₀ : Nat} {r : Request} {a : Answer}
    (h : Disciplined first topic (log ++ [⟨t₀, r, none⟩]) phase)
    (hr : Dealing.granted? ⟨t₀, r, some a⟩ = none)
    (hs : Stands first topic (log ++ [⟨t₀, r, some a⟩]) next) :
    Disciplined first topic (Dealing.extend (log ++ [⟨t₀, r, none⟩]) t (.answered a) []) next := by
  rw [Dealing.extend_nil, Dealing.settle_answered]
  exact ⟨h.lawful_answered, settled_concat.2 hr, hs⟩

end Disciplined

/-- **A move keeps a pump disciplined.** -/
theorem disciplined_move {first : Option UInt64} {log : List Dealing} {listened : Bool} {t : Nat}
    {p q : Pump} {e : Event} {outputs : List (Output α)} (h : Disciplined first sel.topic log p.phase)
    (hm : Move sel delay listened t p e q outputs) :
    Disciplined first sel.topic (Dealing.extend log t e (outputs.filterMap Output.request?)) q.phase := by
  cases hm with
  | ask => exact disciplined_call h.lawful (.create h.stands) ⟨log, t, rfl⟩
  | @granted b a id hg =>
      -- the answer settles the last call, and the call for the topic is made at once
      obtain ⟨before, t₀, rfl⟩ := h.stands
      have hd : Dealing.granted? ⟨t₀, .creation, some a⟩ = some id := (if_pos rfl).trans hg
      rw [Dealing.extend, Dealing.settle_answered]
      exact disciplined_call h.lawful_answered
        (.subscribe (exists_getLast?_concat.2 (Dealing.granted?_eq_some_iff.1 hd)) sel.topic.topic_subscription)
        ⟨_, t, rfl, handle?_concat_granted hd⟩
  | @refused b a hg =>
      obtain ⟨before, t₀, rfl⟩ := h.stands
      have hd : Dealing.granted? ⟨t₀, .creation, some a⟩ = none := (if_pos rfl).trans hg
      exact h.answered hd (mayCreate_concat.2 (Or.inl ⟨rfl, rfl, Dealing.granted?_eq_none_iff.1 hd⟩))
  | askAgain => exact h.silent rfl h.stands
  | @subscribed b id a =>
      obtain ⟨before, t₀, rfl, hid⟩ := h.stands
      -- a success here has the form of a grant, but is none
      have hd : Dealing.granted? ⟨t₀, .addition id sel.topic.subscription, some a⟩ = none :=
        Dealing.granted?_of_ne (Request.addition_ne_creation id sel.topic.subscription)
      have hnone : (if b then [] else [Output.started (α := α) id]).filterMap Output.request? = [] := by
        cases b <;> rfl
      rw [hnone]
      exact h.answered hd ((handle?_concat hd).trans hid)
  | connect => exact disciplined_call h.lawful (.stream h.stands h.settled) ⟨log, t, rfl, h.stands⟩
  | @opened b id r =>
      obtain ⟨before, t₀, rfl, hid⟩ := h.stands
      have hd : Dealing.granted? ⟨t₀, .notificationStream id, some (.response r)⟩ = none :=
        Dealing.granted?_of_ne (Request.stream_ne_creation id)
      exact h.answered hd ((handle?_concat hd).trans hid)
  | @rejected b id s hs =>
      obtain ⟨before, t₀, rfl, hid⟩ := h.stands
      have hd : Dealing.granted? ⟨t₀, .notificationStream id, some (.failed s)⟩ = none :=
        Dealing.granted?_of_ne (Request.stream_ne_creation id)
      exact h.answered hd (exists_getLast?_concat.2 ⟨id, s, rfl, rfl, Opening.ofAnswer?_failed_iff.1 hs⟩)
  | @failed b id s hs =>
      obtain ⟨before, t₀, rfl, hid⟩ := h.stands
      have hd : Dealing.granted? ⟨t₀, .notificationStream id, some (.failed s)⟩ = none :=
        Dealing.granted?_of_ne (Request.stream_ne_creation id)
      exact h.answered hd ((handle?_concat hd).trans hid)
  | connectAgain => exact h.silent rfl h.stands
  | obtainAgain =>
      -- the log still ends with the call that failed
      obtain ⟨d, hd, hs⟩ := h.stands
      exact h.silent rfl (Or.inr ⟨d, hd, Or.inr hs⟩)
  | @deliver b id r hl =>
      have hnone : ((sel.extractAll r).map Output.deliver).filterMap Output.request? = [] := by
        rw [List.filterMap_map]
        exact List.filterMap_eq_nil_iff.2 fun _ _ => rfl
      rw [hnone]
      exact h.silent rfl h.stands
  | skip hl hr => exact h.silent rfl h.stands
  | desert hl hr => exact h.silent rfl trivial
  | broken hi => exact h.silent rfl h.stands
  | reopen => exact h.silent rfl h.stands
  | stop => exact h.silent rfl trivial

/-! ## The log of a pump -/

/-- A pump that opens the stream of a handle, or has to obtain one. -/
def begin : Option UInt64 → Pump
  | none => .new
  | some id => .ofHandle id

/-- A pump that has called nothing is disciplined. -/
theorem disciplined_begin (first : Option UInt64) (topic : Topic) :
    Disciplined first topic [] (begin first).phase where
  lawful := lawful_nil
  settled _ hd := absurd hd (Option.not_mem_none _)
  stands := match first with
    | none => Or.inl ⟨rfl, rfl⟩
    | some _ => rfl

/-- A pump is disciplined in every reachable course. -/
theorem disciplined_of_reachable {first : Option UInt64} {script : Script} {c : Course Pump (Output α)}
    (h : Course.Reachable (activity sel delay) (Course.start (begin first) script) c) :
    Disciplined first sel.topic (c.log (activity sel delay)) c.state.phase := by
  refine h.invariant (P := fun c => Disciplined first sel.topic (c.log (activity sel delay)) c.state.phase)
    (disciplined_begin first sel.topic) ?_
  intro c d hc hs
  rcases step_cases hs with ⟨t, e, p, outputs, -, -, hm, rfl⟩ | ⟨-, hs, -, hp, -⟩
  · rw [Course.log_record]
    exact disciplined_move hc hm
  · rw [Course.log, hp, hs]
    exact hc

/-! ## What the law says -/

section Reading

variable {first : Option UInt64} {topic : Topic} {log : List Dealing} {d : Dealing}

/-- A call for the stream of a handle is for the handle in use. -/
theorem handle?_of_admits {id : UInt64} (h : Admits first topic log (.notificationStream id)) :
    handle? first log = some id := by
  cases h with
  | stream h hl => exact h

/-- A call for a handle is made at the start, after a refusal, or in place of a handle that is not known. -/
theorem mayCreate_of_admits (h : Admits first topic log .creation) : MayCreate first log := by
  -- only a variable can be split by the constructors of the law
  generalize hr : Request.creation = r at h
  cases h with
  | create h => exact h
  | subscribe h hs => exact absurd hr.symm (Request.addition_ne_creation _ _)
  | stream h hl => cases hr

/-- After a grant only a call is made that puts a subscription to the topic on the handle. -/
theorem subscribe_of_admits {id : UInt64} {r : Request} (hd : d.Grants id)
    (h : Admits first topic (log ++ [d]) r) : ∃ s : Subscription, s.topic = topic ∧ r = .addition id s := by
  cases h with
  | create h =>
      rcases mayCreate_concat.1 h with hrefused | ⟨i, s, hr, -⟩
      · exact absurd hd (hrefused.2.2 id)
      · cases hd.1.symm.trans hr
  | @subscribe i s h hs =>
      have hid : some i = some id :=
        (Dealing.granted?_eq_some_iff.2 (exists_getLast?_concat.1 h)).symm.trans (Dealing.granted?_eq_some_iff.2 hd)
      exact ⟨s, hs, congrArg (Request.addition · s) (Option.some.inj hid)⟩
  | stream h hl => exact absurd hd (Dealing.granted?_eq_none_iff.1 (settled_concat.1 hl) id)

/-- After the call that puts a subscription on a handle only the call for a stream is made. -/
theorem stream_of_admits {id : UInt64} {s : Subscription} {r : Request} (hd : d.request = .addition id s)
    (h : Admits first topic (log ++ [d]) r) : ∃ i, r = .notificationStream i := by
  have hne : d.request ≠ .creation := hd ▸ Request.addition_ne_creation id s
  cases h with
  | create h =>
      rcases mayCreate_concat.1 h with hrefused | ⟨i, s, hr, -⟩
      · exact absurd hrefused.1 hne
      · cases hd.symm.trans hr
  | subscribe h hs => exact absurd (exists_getLast?_concat.1 h).1 hne
  | stream h hl => exact ⟨_, rfl⟩

end Reading

/-- **The handles of a pump.** Whether the pump is to obtain its first handle or has one, whatever the services
answer or leave unanswered, whenever, and whether or not its consumer leaves or the session is cancelled, each call
in the log of a reachable course obeys this:
a call for a stream is for the handle of the latest grant, or for the first handle if there was no grant;
a call for a handle is the first call of all, or comes right after one that was refused, or right after a call
for a stream that failed because the handle is not known;
a grant is followed at once by one call that puts a subscription to the topic on the new handle, and whatever that is
answered the next call is for a stream;
and any other call about handles comes right after a grant, and is that one. -/
theorem handles_of_reachable {first : Option UInt64} {script : Script} {c : Course Pump (Output α)}
    (h : Course.Reachable (activity sel delay) (Course.start (begin first) script) c)
    {before after : List Dealing} {d : Dealing}
    (hlog : c.log (activity sel delay) = before ++ d :: after) :
    (∀ id, d.request = .notificationStream id → handle? first before = some id)
      ∧ (d.request = .creation →
        (first = none ∧ before = []) ∨ ∃ e ∈ before.getLast?, e.IsRefused ∨ e.IsStale)
      ∧ (∀ id, d.Grants id → ∃ e rest, after = e :: rest ∧
        (∃ s : Subscription, s.topic = sel.topic ∧ e.request = .addition id s) ∧
        ∀ f ∈ rest.head?, ∃ i, f.request = .notificationStream i)
      ∧ (∀ r, d.request = .notificationRegister r → d.request ≠ .creation →
        ∃ e ∈ before.getLast?, ∃ (id : UInt64) (s : Subscription), e.Grants id ∧ s.topic = sel.topic ∧
          d.request = .addition id s) := by
  obtain ⟨hlaw, hsettled, -⟩ := disciplined_of_reachable h
  rw [hlog] at hlaw hsettled
  have hd : Admits first sel.topic before d.request := hlaw before d after rfl
  refine ⟨?_, ?_, ?_, ?_⟩
  · intro id hr
    rw [hr] at hd
    exact handle?_of_admits hd
  · intro hr
    rw [hr] at hd
    exact mayCreate_of_admits hd
  · intro id hid
    -- the log does not end with a grant
    cases after with
    | nil => exact absurd hid (Dealing.granted?_eq_none_iff.1 (settled_concat.1 hsettled) id)
    | cons e rest =>
        obtain ⟨s, hs, he⟩ := subscribe_of_admits hid (hlaw (before ++ [d]) e rest (List.append_cons ..))
        refine ⟨e, rest, rfl, ⟨s, hs, he⟩, fun f hf => ?_⟩
        obtain ⟨tail, rfl⟩ := List.head?_eq_some_iff.1 hf
        refine stream_of_admits he (hlaw (before ++ [d] ++ [e]) f tail ?_)
        simp only [List.append_assoc, List.cons_append, List.nil_append]
  · intro r hr hne
    generalize hq : d.request = q at hd hr hne
    cases hd with
    | create h => exact absurd rfl hne
    | subscribe h hs =>
        obtain ⟨e, he, hg⟩ := h
        exact ⟨e, he, _, _, hg, hs, rfl⟩
    | stream h hl => cases hr

/-- A script by which the daemon does not know a handle, grants another, and does not take the topic on that. -/
def fickle : Script :=
  [(.notificationStream, [{ answer := some (.failed ⟨.notFound, "gone"⟩) }]),
   (.notificationRegister,
    [{ answer := some (.response (.stream { streamId := 8 })) },
     { answer := some (.response (.stream { status := 1 })) }])]

/-- The events of a pump to which `fickle` happens. -/
def fickleSchedule : List (Nat × Event) :=
  [(0, .turn), (0, .answered (.failed ⟨.notFound, "gone"⟩)), (5, .elapsed),
   (5, .turn), (5, .answered (.response (.stream { streamId := 8 }))),
   (5, .answered (.response (.stream { status := 1 }))), (5, .turn)]

/-- The pump of a fickle daemon asks for another handle, puts its topic on that once, and asks for the stream of
that. -/
theorem handles_fickle :
    ∃ (c : Course Pump (Output ConfigNotification)) (stale create subscribe stream : Dealing),
      Course.Reachable (activity .config 5) (Course.start (begin (some 7)) fickle) c ∧
        c.log (activity .config 5) = [stale, create, subscribe, stream] ∧
        [stale, create, subscribe, stream].map (·.request) =
          [.notificationStream 7, .notificationRegister ⟨0, 0, 0, none⟩, .notificationRegister ⟨2, 8, 0, some .config⟩,
            .notificationStream 8] ∧
        (stale.IsRefused ∨ stale.IsStale) ∧
        (∃ s : Subscription, s.topic = .config ∧ subscribe.request = .addition 8 s) ∧
        handle? (some 7) [stale, create, subscribe] = some 8 := by
  have hs : (Course.start (begin (some 7)) fickle).Suits (activity Selector.config 5) fickleSchedule :=
    ⟨Nat.le_refl _, .turn rfl rfl, Nat.le_refl _, .answered rfl rfl rfl,
      Nat.zero_le _, .elapsed rfl rfl (Nat.le_refl _), Nat.le_refl _, .turn rfl rfl,
      Nat.le_refl _, .answered rfl rfl rfl, Nat.le_refl _, .answered rfl rfl rfl,
      Nat.le_refl _, .turn rfl rfl, trivial⟩
  have hr := Course.reachable_follow hs
  let stale : Dealing := ⟨0, .notificationStream 7, some (.failed ⟨.notFound, "gone"⟩)⟩
  let create : Dealing := ⟨5, .creation, some (.response (.stream { streamId := 8 }))⟩
  let subscribe : Dealing := ⟨5, .addition 8 .config, some (.response (.stream { status := 1 }))⟩
  let stream : Dealing := ⟨5, .notificationStream 8, none⟩
  let c := (Course.start (begin (some 7)) fickle).follow (activity Selector.config 5) fickleSchedule
  have hcreate : c.log (activity .config 5) = [stale] ++ create :: [subscribe, stream] := rfl
  have hstream : c.log (activity .config 5) = [stale, create, subscribe] ++ stream :: [] := rfl
  have hgrants : create.Grants 8 := ⟨rfl, _, rfl, rfl, rfl⟩
  obtain ⟨-, hmay, hnext, -⟩ := handles_of_reachable hr hcreate
  refine ⟨c, stale, create, subscribe, stream, hr, rfl, rfl, ?_, ?_, ?_⟩
  · rcases hmay rfl with ⟨-, hnil⟩ | ⟨e, he, h⟩
    · cases hnil
    · cases he
      exact h
  · obtain ⟨e, rest, hafter, hsubscribe, -⟩ := hnext 8 hgrants
    cases hafter
    exact hsubscribe
  · exact (handles_of_reachable hr hstream).1 8 rfl

end Pump

end NetworkAgent
