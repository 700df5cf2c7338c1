import NetworkAgent.Proofs.Stream.Moves

/-! # A pump delivers what its streams yield

Across streams that end, fail and are opened anew, across refused calls and new handles, a pump delivers the
notifications of its topic exactly as the daemon sent them.

* **`Topic.carried`** — the notifications of a topic in a response, said without selectors: what its
  envelopes carry under that topic, in order. `map_wrap_extractAll` says that the selector of the topic's own
  type takes just these.
* **`Pump.InOrder`** — the invariant of a pump's course: what has been delivered is what all streams have
  yielded so far, and no stream was left before it was over.
* **`Pump.map_wrap_sent_of_reachable`** — the notifications delivered in any reachable course are those that the
  responses of all streams carry, in the order in which they were yielded. -/

namespace NetworkAgent

open Message

/-! ## The notifications of a topic -/

/-- The notifications that a response carries of a topic, in order. -/
def Topic.carried (t : Topic) (r : StreamResponse) : List Payload :=
  (r.notifications.filterMap (·.payload)).filter (·.topic = t)

/-- The type of the notifications of a topic. -/
def Topic.Content : Topic → Type
  | .config => ConfigNotification
  | .interface => InterfaceNotification
  | .route => RouteNotification
  | .nextHopGroup => NextHopGroupNotification
  | .networkInstance => NetworkInstanceNotification
  | .lldpNeighbor => LldpNeighborNotification
  | .bfdSession => BfdSessionNotification
  | .appId => AppIdNotification

/-- A notification of a topic, with its topic. -/
def Topic.wrap : (t : Topic) → t.Content → Payload
  | .config => .config
  | .interface => .interface
  | .route => .route
  | .nextHopGroup => .nextHopGroup
  | .networkInstance => .networkInstance
  | .lldpNeighbor => .lldpNeighbor
  | .bfdSession => .bfdSession
  | .appId => .appId

/-- The selector of a topic's own type of notification. -/
def Topic.typed : (t : Topic) → Selector t.Content
  | .config => .config
  | .interface => .interface
  | .route => .route
  | .nextHopGroup => .nextHopGroup
  | .networkInstance => .networkInstance
  | .lldpNeighbor => .lldpNeighbor
  | .bfdSession => .bfdSession
  | .appId => .appId

/-- The typed selector takes from an envelope what it carries under the topic. -/
theorem Topic.map_wrap_extract (t : Topic) (n : Notification) :
    (t.typed.extract n).map t.wrap = n.payload.filter (·.topic = t) := by
  obtain ⟨sub, payload⟩ := n
  cases payload with
  | none => cases t <;> rfl
  | some p => cases t <;> cases p <;> rfl

/-- **The typed selector takes from a response just the notifications of the topic**, in order. -/
theorem Topic.map_wrap_extractAll (t : Topic) (r : StreamResponse) :
    (t.typed.extractAll r).map t.wrap = t.carried r := by
  rw [Selector.extractAll, carried, List.map_filterMap, List.filter_filterMap]
  have h : (fun n => (t.typed.extract n).map t.wrap)
      = fun n : Notification => n.payload.filter (·.topic = t) := by
    funext n
    exact t.map_wrap_extract n
  rw [h]

namespace Pump

variable {α : Type} {sel : Selector α} {delay : Nat}

/-! ## The invariant -/

/-- The notifications that a pump has delivered, in order. -/
def delivered (c : Course Pump (Output α)) : List α := c.outputs.filterMap Output.delivered?

/-- **A pump is in order** if it has delivered all that its streams have yielded, unless its consumer has left,
and no stream was left before it was over. -/
structure InOrder (sel : Selector α) (c : Course Pump (Output α)) : Prop where
  /-- What was delivered is what was yielded. -/
  delivered_eq : c.listened = true → delivered c = c.services.responses.flatMap sel.extractAll
  /-- A stream that has made way for another was over. -/
  over_of_left : ∀ s ∈ c.services.left, s.IsOver
  /-- A stream that is not received from any more is over, unless the pump has stopped. -/
  over_of_current : (∀ id, c.state.phase ≠ .receiving id) → c.state.phase ≠ .stopped →
    ∀ s ∈ c.services.current, s.IsOver

/-- A pump that has received nothing is in order. -/
theorem inOrder_start (p : Pump) (script : Script) : InOrder sel (Course.start p script) where
  delivered_eq _ := rfl
  over_of_left _ hs := absurd hs List.not_mem_nil
  over_of_current _ _ _ hs := absurd hs (Option.not_mem_none _)

/-- What has been delivered grows by what is delivered with an event. -/
theorem delivered_record (t : Nat) (e : Event) (p : Pump) (outputs : List (Output α))
    (c : Course Pump (Output α)) :
    delivered (c.record (activity sel delay) t e p outputs)
      = delivered c ++ outputs.filterMap Output.delivered? := by
  rw [delivered, Course.outputs_record, List.filterMap_append, ← delivered]

/-- A move delivers what the response carries that the event brings, if it brings one. -/
theorem delivered_move {now : Nat} {p q : Pump} {e : Event} {outputs : List (Output α)}
    (hm : Move sel delay true now p e q outputs) :
    outputs.filterMap Output.delivered? = e.response?.toList.flatMap sel.extractAll := by
  -- only a move that receives delivers; without its consumer the pump would not make some of them
  cases hm with
  | @deliver b id r hl =>
      show ((sel.extractAll r).map Output.deliver).filterMap Output.delivered?
        = [r].flatMap sel.extractAll
      rw [List.filterMap_map, List.flatMap_singleton]
      exact List.filterMap_some
  | skip hl hr => cases hl
  | desert hl hr => cases hl
  | broken h =>
      rw [Event.response?, h]
      rfl
  | @subscribed b id a => cases b <;> rfl
  | _ => rfl

/-- Unless a stream is opened or yields an item, the services keep their streams. -/
theorem settle_keeps {c : Course Pump (Output α)} {listened : Bool} {t : Nat} {e : Event} {p : Pump}
    {outputs : List (Output α)} (ha : Attends sel c)
    (hm : Move sel delay listened t c.state e p outputs) (hp : ∀ id, p.phase ≠ .receiving id)
    (he : ∀ i, e ≠ .yielded i) :
    (c.services.settle e).left = c.services.left ∧
      (c.services.settle e).current = c.services.current := by
  obtain ⟨state, services, inbox, now, cancelled, listened, past⟩ := c
  -- the other calls of a pump are for a handle and for a topic on it
  have hrpc : Rpc.notificationRegister ≠ Rpc.notificationStream := by decide
  cases hm with
  | granted h =>
      obtain ⟨reply, hr⟩ := ha _ rfl
      rw [Services.settle, Services.conclude_other hr hrpc]
      exact ⟨rfl, rfl⟩
  | refused h =>
      obtain ⟨reply, hr⟩ := ha _ rfl
      rw [Services.settle, Services.conclude_other hr hrpc]
      exact ⟨rfl, rfl⟩
  | subscribed =>
      obtain ⟨reply, hr⟩ := ha _ rfl
      rw [Services.settle, Services.conclude_other hr hrpc]
      exact ⟨rfl, rfl⟩
  | opened => exact absurd rfl (hp _)
  | rejected h =>
      rw [Services.settle, Services.conclude_failed]
      exact ⟨rfl, rfl⟩
  | failed h =>
      rw [Services.settle, Services.conclude_failed]
      exact ⟨rfl, rfl⟩
  | deliver hl => exact absurd rfl (he _)
  | skip hl hr => exact absurd rfl (he _)
  | desert hl hr => exact absurd rfl (he _)
  | broken h => exact absurd rfl (he _)
  | _ => exact ⟨rfl, rfl⟩

/-- Out of the phase in which a pump receives, only items and the cancellation lead. -/
theorem not_receiving_of_move {listened : Bool} {now : Nat} {p q : Pump} {e : Event}
    {outputs : List (Output α)} (hm : Move sel delay listened now p e q outputs)
    (hq : ∀ id, q.phase ≠ .receiving id) (hs : q.phase ≠ .stopped) (he : ∀ i, e ≠ .yielded i) :
    (∀ id, p.phase ≠ .receiving id) ∧ p.phase ≠ .stopped := by
  cases hm with
  | deliver hl => exact absurd rfl (he _)
  | skip hl hr => exact absurd rfl (he _)
  | desert hl hr => exact absurd rfl (he _)
  | broken h => exact absurd rfl (he _)
  | stop => exact absurd rfl hs
  | _ => exact ⟨fun _ => nofun, nofun⟩

/-- A move leaves no stream before it is over. -/
theorem over_of_left_move {c : Course Pump (Output α)} {listened : Bool} {t : Nat} {e : Event}
    {p : Pump} {outputs : List (Output α)} (hc : InOrder sel c) (ha : Attends sel c)
    (hm : Move sel delay listened t c.state e p outputs) :
    ∀ s ∈ (c.services.settle e).left, s.IsOver := by
  by_cases hy : ∃ i, e = .yielded i
  · obtain ⟨i, rfl⟩ := hy
    exact hc.over_of_left
  by_cases hp : ∃ id, p.phase = .receiving id
  · -- a stream is opened: the one before it was not received from any more
    obtain ⟨state, services, inbox, now, cancelled, listened', past⟩ := c
    obtain ⟨id, hid⟩ := hp
    cases hm with
    | opened =>
        obtain ⟨reply, hr⟩ := ha _ rfl
        rw [Services.settle, Services.conclude_opened hr]
        intro s hs
        rcases List.mem_append.1 hs with hs | hs
        · exact hc.over_of_left s hs
        · refine hc.over_of_current ?_ ?_ s (Option.mem_toList.1 hs)
          · intro i hi
            cases hi
          · intro hi
            cases hi
    | deliver hl => exact absurd ⟨_, rfl⟩ hy
    | skip hl hr => exact absurd ⟨_, rfl⟩ hy
    | _ => cases hid
  · rw [(settle_keeps ha hm (not_exists.1 hp) (not_exists.1 hy)).1]
    exact hc.over_of_left

/-- A move goes on from a stream only when it is over. -/
theorem over_of_current_move {c : Course Pump (Output α)} {t : Nat} {e : Event} {p : Pump}
    {outputs : List (Output α)} (hc : InOrder sel c) (ha : Attends sel c)
    (he : c.Offers (activity sel delay) t e) (hm : Move sel delay c.listened t c.state e p outputs)
    (hp : ∀ id, p.phase ≠ .receiving id) (hq : p.phase ≠ .stopped) :
    ∀ s ∈ (c.services.settle e).current, s.IsOver := by
  by_cases hy : ∃ i, e = .yielded i
  · obtain ⟨i, rfl⟩ := hy
    cases he with
    | yielded hc hw hi =>
        -- the pump does not go on receiving, so what it received was no response
        obtain ⟨stream, hs, hn⟩ := Option.bind_eq_some_iff.1 hi
        have hb : i.response? = none := by
          generalize c.state = q at hm
          cases hm with
          | deliver hl => exact absurd rfl (hp _)
          | skip hl hr => exact absurd rfl (hp _)
          | desert hl hr => exact absurd rfl hq
          | broken h => exact h
        rw [Services.settle, Services.advance, hs]
        intro s hs
        cases hs
        exact OpenStream.isOver_advance hn hb
  · -- no item was received, so the pump had gone on from the stream before
    rw [(settle_keeps ha hm hp (not_exists.1 hy)).2]
    obtain ⟨hr, hs⟩ := not_receiving_of_move hm hp hq (not_exists.1 hy)
    exact hc.over_of_current hr hs

/-- **A step keeps a pump in order.** -/
theorem inOrder_step {c d : Course Pump (Output α)} (hc : InOrder sel c) (ha : Attends sel c)
    (h : Course.Step (activity sel delay) c d) : InOrder sel d := by
  rcases step_cases h with ⟨t, e, p, outputs, -, he, hm, rfl⟩ | ⟨-, hs, hv, hp, hl⟩
  · refine ⟨?_, ?_, ?_⟩
    · intro hl
      -- delivered and yielded notifications grow by the same, those of the event
      have hm' : Move sel delay true t c.state e p outputs := by
        rw [← show c.listened = true from hl]
        exact hm
      rw [delivered_record, hc.delivered_eq hl, delivered_move hm']
      rw [Course.record, Services.responses_calls, Course.responses_settle he, List.flatMap_append]
    · rw [Course.record, Services.left_calls]
      exact over_of_left_move hc ha hm
    · rw [Course.record, Services.current_calls]
      exact over_of_current_move hc ha he hm
  · refine ⟨?_, ?_, ?_⟩
    · intro hd
      rw [delivered, Course.outputs, hp, hv]
      exact hc.delivered_eq (hl hd)
    · rw [hv]
      exact hc.over_of_left
    · rw [hs, hv]
      exact hc.over_of_current

/-- A pump is in order, and attends to its services, in every reachable course. -/
theorem inOrder_of_reachable {script : Script} {c : Course Pump (Output α)}
    (h : Course.Reachable (activity sel delay) (Course.start .new script) c) :
    InOrder sel c ∧ Attends sel c := by
  refine h.invariant (P := fun c => InOrder sel c ∧ Attends sel c) ?_ ?_
  · exact ⟨inOrder_start .new script, nofun⟩
  · intro c d hc hs
    exact ⟨inOrder_step hc.1 hc.2 hs, attends_step hc.2 hs⟩

/-! ## What is delivered -/

/-- The queue of a consumer that has taken nothing yet. -/
def sent (c : Course Pump (Output α)) : Queue α := (delivered c).foldl (fun q a => q.push a) {}

/-- The queue holds what has been delivered. -/
theorem items_sent (c : Course Pump (Output α)) : (sent c).items = delivered c := by
  have h : (sent c).Holds (delivered c) := Queue.holds_new.pushes (delivered c)
  have hd : (sent c).dropped = false := Queue.dropped_pushes (delivered c) _
  exact h.items_of_not_dropped hd

/-- **A pump delivers what its streams yield.** Whatever the services answer, and whenever, as long as its
consumer is there: the queue has received, in every reachable course, the notifications of the topic that the
responses of all streams opened so far carry, in the order in which they were yielded; and each stream but the
last has been received from to its failure or its end. -/
theorem map_wrap_sent_of_reachable (topic : Topic) (delay : Nat) (script : Script)
    {c : Course Pump (Output topic.Content)}
    (h : Course.Reachable (activity topic.typed delay) (Course.start .new script) c)
    (hl : c.listened = true) :
    (sent c).items.map topic.wrap
        = c.services.streams.flatMap (fun s => s.responses.flatMap topic.carried)
      ∧ ∀ s ∈ c.services.left, s.IsOver := by
  obtain ⟨hc, -⟩ := inOrder_of_reachable h
  refine ⟨?_, hc.over_of_left⟩
  rw [items_sent, hc.delivered_eq hl, Services.responses, List.map_flatMap, List.flatMap_assoc]
  simp only [Topic.map_wrap_extractAll]

/-- A script whose first stream fails after a response, and whose second one yields another. Some of what they
carry is empty or of another topic. -/
def brokenOnce : Script :=
  [(.notificationStream,
    [{ answer := some (.response .opened)
       stream :=
        { items :=
            [⟨0, .response ⟨0, [⟨1, some (.route {})⟩, ⟨1, some (.config { operation := 1 })⟩]⟩⟩,
             ⟨3, .failed ⟨.unavailable, "gone"⟩⟩] } },
     { answer := some (.response .opened)
       stream := { items := [⟨0, .response ⟨0, [⟨1, none⟩, ⟨2, some (.config { operation := 2 })⟩]⟩⟩] } }])]

/-- The events of a pump to which `brokenOnce` happens, up to the response of the second stream. -/
def brokenOnceSchedule : List (Nat × Event) :=
  [(0, .turn), (0, .answered (.response (.stream {}))), (0, .answered (.response (.stream {}))),
   (0, .turn), (0, .answered (.response .opened)),
   (0, .yielded (.response ⟨0, [⟨1, some (.route {})⟩, ⟨1, some (.config { operation := 1 })⟩]⟩)),
   (3, .yielded (.failed ⟨.unavailable, "gone"⟩)), (8, .elapsed),
   (8, .turn), (8, .answered (.response .opened)),
   (8, .yielded (.response ⟨0, [⟨1, none⟩, ⟨2, some (.config { operation := 2 })⟩]⟩))]

/-- The pump of a stream that breaks once delivers what came before and after. -/
theorem map_wrap_sent_brokenOnce :
    ∃ c, Course.Reachable (activity Topic.config.typed 5) (Course.start .new brokenOnce) c ∧
      c.listened = true ∧ c.services.left.length = 1 ∧
      (sent c).items.map Topic.config.wrap
        = [.config { operation := 1 }, .config { operation := 2 }] := by
  have hs : (Course.start .new brokenOnce).Suits (activity Topic.config.typed 5) brokenOnceSchedule :=
    ⟨Nat.le_refl _, .turn rfl rfl, Nat.le_refl _, .answered rfl rfl rfl,
      Nat.le_refl _, .answered rfl rfl rfl, Nat.le_refl _, .turn rfl rfl,
      Nat.le_refl _, .answered rfl rfl rfl, Nat.le_refl _, .yielded rfl rfl rfl,
      Nat.zero_le _, .yielded rfl rfl rfl, by decide, .elapsed rfl rfl (Nat.le_refl _),
      Nat.le_refl _, .turn rfl rfl, Nat.le_refl _, .answered rfl rfl rfl,
      Nat.le_refl _, .yielded rfl rfl rfl, trivial⟩
  have hr := Course.reachable_follow hs
  exact ⟨_, hr, rfl, rfl, (map_wrap_sent_of_reachable .config 5 brokenOnce hr rfl).1⟩

end Pump

end NetworkAgent
