import NetworkAgent.Proofs.Log
import NetworkAgent.Proofs.Session.Registration

/-! # Windows

Routes, and next hop groups, are replaced within a window, which one call opens and another closes. Any number of
operations may be under way in one session. Each waits for its answers by itself: an answer may come at any time or
never, may be anything, and the operation goes on with it at any time after that.

* **`Dialogues`** — the operations of a session, each with what it waits for, and a log of all that has happened;
  `Dialogues.Step` is what can happen next.
* **`Dialogues.IsOpen`** — that a window of a kind is open after a log: the call that opens it was granted, and since
  then none that closes one was made. **`Dialogues.Balanced`** — that no window is opened while one of its kind is open.
* `Session.resume_closes_or_keepsOpen` — an operation closes a window just when it goes on with the success of the call
  within one. **`Dialogues.Orderly`** is the invariant that comes of it, `orderly_step` its step.
* **`Dialogues.windows_of_reachable`** — a window is open until a call within one of its kind has succeeded, and so
  windows are balanced if and only if none is opened before that. -/

namespace NetworkAgent

/-! ## Calls that keep windows open -/

/-- The window that a request opens, if it opens one. -/
def Request.opens? : Request → Option Window
  | .routeSyncStart => some .routes
  | .nextHopGroupSyncStart => some .nextHopGroups
  | _ => none

/-- The window that a request closes, if it closes one. -/
def Request.closes? : Request → Option Window
  | .routeSyncEnd => some .routes
  | .nextHopGroupSyncEnd => some .nextHopGroups
  | _ => none

/-- Whether an operation closes no window with the call that it has in store: one that opens a window has the call to
make within it. -/
def Conversation.keepsOpen : Conversation → Bool
  | .openingWindow _ add => add.closes?.isNone
  | _ => true

/-- **Whether a call keeps windows open**, and so does the one that its operation has in store. -/
def Call.keepsOpen (c : Call) : Bool := c.request.closes?.isNone && c.conversation.keepsOpen

namespace Session

variable {s : Session} {d : Call}

/-- A call that keeps windows open may be made. -/
theorem keepsOpen_call {r : Request} {c : Conversation} (hd : d ∈ (s.call r c).2.call?)
    (h : Call.keepsOpen ⟨r, c⟩ = true) : d.keepsOpen = true := by
  rw [call?_call] at hd
  split at hd
  · cases hd
    exact h
  · cases hd

/-- So may a delete. -/
theorem keepsOpen_deleteNext {paths : List String} (hd : d ∈ (s.deleteNext paths).2.call?) : d.keepsOpen = true := by
  rcases s.deleteNext_cases paths with ⟨-, path, rest, -, -, -, he⟩ | ⟨-, he⟩
  · rw [he] at hd
    exact keepsOpen_call hd rfl
  · rw [he] at hd
    cases hd

/-- **An operation begins** with a call that keeps windows open, if with any. -/
theorem keepsOpen_begin {op : Operation} (hd : d ∈ (s.begin op).2.call?) : d.keepsOpen = true := by
  cases op with
  | start link =>
      rw [begin] at hd
      rcases s.beginStart_cases link with ⟨e, he, -⟩ | ⟨-, he⟩
      · rw [he] at hd
        cases hd
      · rw [he] at hd
        cases hd
        rfl
  | stop =>
      rw [begin] at hd
      split at hd
      · cases hd
        rfl
      · cases hd
  | deleteState path =>
      rw [begin] at hd
      split at hd
      · exact keepsOpen_call hd rfl
      · cases hd
  | deleteAllState => exact keepsOpen_deleteNext hd
  | deleteRoutes networkInstance destinations =>
      rw [begin] at hd
      split at hd
      · cases hd
      · exact keepsOpen_call hd rfl
  | acknowledge infos =>
      rw [begin, beginAcknowledge] at hd
      split at hd
      · cases hd
      · split at hd
        · cases hd
        · exact keepsOpen_call hd rfl
  | receive topic =>
      rw [begin] at hd
      split at hd <;> cases hd
  | _ => exact keepsOpen_call hd rfl

/-- **An operation goes on** with the call that closes a window just when it does so with the success of the call within
one; any other call with which it goes on keeps windows open. -/
theorem resume_closes_or_keepsOpen (hs : s.connected = true) {c : Conversation} (hc : c.keepsOpen = true) (a : Answer) :
    (∃ w, c = .fillingWindow w ∧ a.succeeded = true ∧
        (s.resume c a).2.call? = some ⟨closeCall w, .closingWindow w⟩)
      ∨ (∀ w, c = .fillingWindow w → a.succeeded = false) ∧
        ∀ d ∈ (s.resume c a).2.call?, d.keepsOpen = true := by
  cases c with
  | fillingWindow w =>
      rw [resume]
      split
      · next ha =>
          refine Or.inl ⟨w, rfl, ha, ?_⟩
          rw [call?_call, if_pos hs]
      · next ha => exact Or.inr ⟨fun _ _ => Bool.eq_false_iff.2 ha, fun d hd => absurd hd (Option.not_mem_none d)⟩
  | openingWindow w add =>
      refine Or.inr ⟨fun _ h => Conversation.noConfusion h, fun d hd => ?_⟩
      rw [resume] at hd
      split at hd
      · -- the call that was in store
        refine keepsOpen_call hd ?_
        rw [Call.keepsOpen, Bool.and_eq_true]
        exact ⟨hc, rfl⟩
      · cases hd
  | deleting path rest =>
      refine Or.inr ⟨fun _ h => Conversation.noConfusion h, fun d hd => ?_⟩
      rw [resume, deleted] at hd
      split at hd
      · cases rest with
        | none => cases hd
        | some rest => exact keepsOpen_deleteNext hd
      · cases hd
  | registering =>
      refine Or.inr ⟨fun _ h => Conversation.noConfusion h, fun d hd => ?_⟩
      rw [resume] at hd
      unfold registered at hd
      repeat' split at hd
      all_goals cases hd
  | unregistering => exact Or.inr ⟨fun _ h => Conversation.noConfusion h, fun d hd => absurd hd (Option.not_mem_none d)⟩
  | _ =>
      refine Or.inr ⟨fun _ h => Conversation.noConfusion h, fun d hd => ?_⟩
      simp only [resume] at hd
      split at hd <;> cases hd

end Session

/-! ## Operations with their answers -/

/-- Something that has happened to the operation of a number. -/
inductive Dialogues.Entry where
  /-- It made a call. -/
  | called (i : Nat) (c : Call)
  /-- Its call was answered. -/
  | answered (i : Nat) (c : Call) (a : Answer)
  /-- It went on with the answer to its call. -/
  | resumed (i : Nat) (c : Call) (a : Answer)

/-- **The operations of a session**, with what has happened. -/
structure Dialogues where
  /-- The session. -/
  session : Session
  /-- What each operation has come to, with the answer to its call if there is one, in the order in which they began. -/
  operations : List (Stage × Option Answer) := []
  /-- What has happened, in order. -/
  log : List Dialogues.Entry := []

namespace Dialogues

/-- A session of which nothing was asked. -/
def start (s : Session) : Dialogues := { session := s }

/-- Something that may happen. -/
inductive Happening where
  /-- an operation begins -/
  | begin (op : Operation)
  /-- the call of the operation of a number is answered -/
  | answer (i : Nat) (a : Answer)
  /-- the operation of a number goes on with its answer -/
  | goOn (i : Nat)

/-- The dialogues after something has happened, if it may happen. -/
def after? (d : Dialogues) : Happening → Option Dialogues
  | .begin op =>
    some
      { session := (d.session.begin op).1
        operations := d.operations ++ [((d.session.begin op).2, none)]
        log := d.log ++ (d.session.begin op).2.call?.toList.map (.called d.operations.length) }
  | .answer i a =>
    match d.operations[i]? with
    | some (.waiting r c, none) =>
      some
        { d with
          operations := d.operations.set i (.waiting r c, some a)
          log := d.log ++ [.answered i ⟨r, c⟩ a] }
    | _ => none
  | .goOn i =>
    match d.operations[i]? with
    | some (.waiting r c, some a) =>
      some
        { session := (d.session.resume c a).1
          operations := d.operations.set i ((d.session.resume c a).2, none)
          log := d.log ++ [.resumed i ⟨r, c⟩ a] ++ (d.session.resume c a).2.call?.toList.map (.called i) }
    | _ => none

/-- **What can happen next.** -/
def Step (d e : Dialogues) : Prop := ∃ h, d.after? h = some e

/-- **What can have happened** after any number of steps. -/
def Reachable : Dialogues → Dialogues → Prop := Relation.ReflTransGen Step

/-- The dialogues after things have happened one after another, if they may happen. -/
def follow? (d : Dialogues) : List Happening → Option Dialogues
  | [] => some d
  | h :: rest => (d.after? h).bind fun e => e.follow? rest

/-- What happenings lead to is reachable. -/
theorem reachable_of_follow? {d e : Dialogues} {hs : List Happening} (h : d.follow? hs = some e) :
    Reachable d e := by
  induction hs generalizing d with
  | nil =>
      cases h
      exact .refl
  | cons a rest ih =>
      obtain ⟨f, hf, hrest⟩ := Option.bind_eq_some_iff.1 h
      exact .head ⟨a, hf⟩ (ih hrest)

/-! ## Open windows -/

namespace Entry

variable (w : Window)

/-- Whether a window of a kind is opened. -/
def opens : Entry → Bool
  | .called _ c => c.request.opens? == some w
  | _ => false

/-- Whether a window of a kind is closed. -/
def closes : Entry → Bool
  | .called _ c => c.request.closes? == some w
  | _ => false

/-- Whether an operation goes on with the success of its call within a window of a kind. -/
def fills : Entry → Bool
  | .resumed _ c a => decide (c.conversation = .fillingWindow w) && a.succeeded
  | _ => false

/-- Whether the opening of a window is answered with success. -/
def grants (i : Nat) : Entry → Bool
  | .answered j c a => i == j && c.request.opens? == some w && a.succeeded
  | _ => false

/-- Whether a window is opened, which is granted later on. -/
def opensGranted (later : List Entry) : Entry → Bool
  | .called i c => c.request.opens? == some w && later.any (grants w i)
  | _ => false

end Entry

/-- **Whether a window of a kind was opened** and granted, and nothing of a sort has happened since it was opened. -/
def stands (ends : Entry → Bool) (w : Window) : List Entry → Bool
  | [] => false
  | e :: later => (e.opensGranted w later && !later.any ends) || stands ends w later

/-- **Whether a window is open**: since it was opened, which was granted, no window of its kind was closed. -/
def IsOpen (w : Window) (log : List Entry) : Prop := stands (Entry.closes w) w log = true

/-- **Whether a window is unfilled**: since it was opened, which was granted, no operation went on with the success of
its call within a window of its kind. -/
def IsUnfilled (w : Window) (log : List Entry) : Prop := stands (Entry.fills w) w log = true

/-- **Windows of a kind are balanced** if none is opened while one is open. -/
def Balanced (w : Window) (log : List Entry) : Prop :=
  Lawful (fun before x => x.opens w = true → ¬IsOpen w before) log

instance (w : Window) (log : List Entry) : Decidable (IsOpen w log) := inferInstanceAs (Decidable (_ = true))

instance (w : Window) (log : List Entry) : Decidable (IsUnfilled w log) := inferInstanceAs (Decidable (_ = true))

instance (w : Window) (log : List Entry) : Decidable (Balanced w log) := inferInstanceAs (Decidable (Lawful _ log))

/-! ## What closes a window -/

/-- **A window is closed just after it was filled**, and when it was filled it is closed. -/
def ClosesFilled (before : List Entry) (x : Entry) : Prop := ∀ w, x.closes w = before.getLast?.any (Entry.fills w)

/-- From an entry on a window of a kind is filled if and only if one is closed after it. -/
theorem fills_or_any_fills {w : Window} {before later : List Entry} {e : Entry}
    (h : Lawful ClosesFilled (before ++ e :: later))
    (hlast : (e :: later).getLast?.any (Entry.fills w) = false) :
    (e.fills w || later.any (Entry.fills w)) = later.any (Entry.closes w) := by
  induction later generalizing before e with
  | nil =>
      have he : e.fills w = false := hlast
      rw [he]
      rfl
  | cons y later ih =>
      -- the next entry closes a window just if this one filled it
      have hy : y.closes w = e.fills w := by
        have hlaw := h (before ++ [e]) y later (by rw [List.append_assoc]; rfl) w
        rwa [List.getLast?_concat] at hlaw
      have hlaw : Lawful ClosesFilled (before ++ [e] ++ y :: later) := by rwa [List.append_assoc]
      rw [List.any_cons, List.any_cons, ih hlaw (by rwa [List.getLast?_cons_cons] at hlast), hy]

/-- **A window is open if and only if it is unfilled**, unless the last thing that has happened is that one was
filled. -/
theorem stands_closes_eq {w : Window} {before log : List Entry} (h : Lawful ClosesFilled (before ++ log))
    (hlast : log.getLast?.any (Entry.fills w) = false) :
    stands (Entry.closes w) w log = stands (Entry.fills w) w log := by
  induction log generalizing before with
  | nil => rfl
  | cons e later ih =>
      have hlater : stands (Entry.closes w) w later = stands (Entry.fills w) w later := by
        cases later with
        | nil => rfl
        | cons y later =>
            have hlaw : Lawful ClosesFilled (before ++ [e] ++ y :: later) := by rwa [List.append_assoc]
            exact ih hlaw (by rwa [List.getLast?_cons_cons] at hlast)
      rw [stands, stands, hlater]
      cases e with
      | called i c =>
          -- a call that opens a window fills none
          have hany : later.any (Entry.fills w) = later.any (Entry.closes w) := fills_or_any_fills h hlast
          rw [hany]
      | answered i c a => rfl
      | resumed i c a => rfl

/-- What closes a window does not open one. -/
theorem closes_eq_false_of_opens {w v : Window} {x : Entry} (h : x.opens w = true) : x.closes v = false := by
  cases x with
  | called i c =>
      obtain ⟨r, conversation⟩ := c
      cases r with
      | routeSyncStart | nextHopGroupSyncStart => rfl
      | _ => cases h
  | answered i c a => cases h
  | resumed i c a => cases h

/-! ## The invariant -/

/-- **A log is settled** if windows were closed just when they were filled, and none was filled that is not closed. -/
structure Settled (log : List Entry) : Prop where
  /-- Windows were closed just when they were filled. -/
  lawful : Lawful ClosesFilled log
  /-- The last thing that has happened is not that one was filled. -/
  last : ∀ w, log.getLast?.any (Entry.fills w) = false

/-- After a settled log a window is open if and only if it is unfilled. -/
theorem Settled.isOpen_iff {log : List Entry} (h : Settled log) (w : Window) : IsOpen w log ↔ IsUnfilled w log := by
  have hlaw : Lawful ClosesFilled ([] ++ log) := h.lawful
  rw [IsOpen, IsUnfilled, stands_closes_eq hlaw (h.last w)]

/-- A log is settled when a window is opened, which closes none. -/
theorem settled_of_opens {log before after : List Entry} {x : Entry} {w : Window} (h : Lawful ClosesFilled log)
    (hlog : log = before ++ x :: after) (hx : x.opens w = true) : Settled before where
  lawful := fun b y a hb => by
    refine h b y (a ++ x :: after) ?_
    rw [hlog, hb, List.append_assoc, List.cons_append]
  last v := (h before x after hlog v).symm.trans (closes_eq_false_of_opens hx)

/-- What neither closes nor fills a window leaves a log settled. -/
theorem Settled.concat {log : List Entry} {x : Entry} (h : Settled log) (hcloses : ∀ w, x.closes w = false)
    (hfills : ∀ w, x.fills w = false) : Settled (log ++ [x]) where
  lawful := lawful_concat.2 ⟨h.lawful, fun w => (hcloses w).trans (h.last w).symm⟩
  last w := by
    rw [List.getLast?_concat]
    exact hfills w

/-- So does a call that keeps windows open, if one is made. -/
theorem Settled.called {log : List Entry} (h : Settled log) (i : Nat) {next : Option Call}
    (hnext : ∀ c ∈ next, c.keepsOpen = true) : Settled (log ++ next.toList.map (.called i)) := by
  cases next with
  | none =>
      rw [Option.toList_none, List.map_nil, List.append_nil]
      exact h
  | some c =>
      obtain ⟨hrequest, -⟩ := Bool.and_eq_true_iff.1 (hnext c rfl)
      refine h.concat (fun w => ?_) fun _ => rfl
      rw [Entry.closes, Option.isNone_iff_eq_none.1 hrequest]
      rfl

/-- **A window that is filled is closed**, and a log is settled after that. -/
theorem Settled.close {log : List Entry} {r : Request} {w : Window} {a : Answer} (h : Settled log)
    (ha : a.succeeded = true) (i : Nat) :
    Settled (log ++ [.resumed i ⟨r, .fillingWindow w⟩ a] ++ [.called i ⟨Session.closeCall w, .closingWindow w⟩]) where
  lawful := by
    refine lawful_concat.2 ⟨lawful_concat.2 ⟨h.lawful, fun v => (h.last v).symm⟩, fun v => ?_⟩
    rw [List.getLast?_concat, Option.any_some, Entry.fills, Entry.closes, ha]
    cases w <;> cases v <;> rfl
  last _ := by
    rw [List.getLast?_concat]
    rfl

/-- **A session and its log are in order.** -/
structure Orderly (d : Dialogues) : Prop where
  /-- An operation that waits for the answer to a call does so in a connected session, and has in store no call that
  closes a window, unless it is within one. -/
  waiting : ∀ o ∈ d.operations, ∀ c ∈ o.1.call?, d.session.connected = true ∧ c.conversation.keepsOpen = true
  /-- The log is settled. -/
  settled : Settled d.log

/-- At first all is in order. -/
theorem orderly_start (s : Session) : Orderly (start s) where
  waiting _ h := absurd h List.not_mem_nil
  settled := ⟨lawful_nil, fun _ => rfl⟩

variable {d e : Dialogues}

/-- All stays in order if an operation comes to a stage at which it has in store no call that closes a window, unless it
is within one. -/
theorem Orderly.enter {u : Session} {stage : Stage} {operations : List (Stage × Option Answer)} {log : List Entry}
    (h : Orderly d) (hstays : d.session.connected = true → u.connected = true)
    (hcalls : ∀ c ∈ stage.call?, u.connected = true ∧ c.conversation.keepsOpen = true)
    (hoperations : ∀ o ∈ operations, o ∈ d.operations ∨ o.1 = stage) (hlog : Settled log) :
    Orderly ⟨u, operations, log⟩ := by
  refine ⟨fun o ho c hc => ?_, hlog⟩
  rcases hoperations o ho with ho | rfl
  · exact (h.waiting o ho c hc).imp_left hstays
  · exact hcalls c hc

/-- A call that keeps windows open has none in store that closes one. -/
theorem keepsOpen_conversation {c : Call} (h : c.keepsOpen = true) : c.conversation.keepsOpen = true :=
  (Bool.and_eq_true_iff.1 h).2

/-- **What keeps all in order**: any step. -/
theorem orderly_step (h : Orderly d) (hs : Step d e) : Orderly e := by
  obtain ⟨happening, he⟩ := hs
  cases happening with
  | begin op =>
      cases he
      obtain ⟨hstays, hconnected⟩ := d.session.connected_begin op
      refine h.enter hstays (fun c hc => ⟨hconnected c hc, ?_⟩) (fun o ho => ?_) ?_
      · exact keepsOpen_conversation (Session.keepsOpen_begin hc)
      · rcases List.mem_append.1 ho with ho | ho
        · exact Or.inl ho
        · exact Or.inr (by rw [List.mem_singleton.1 ho])
      · exact h.settled.called _ fun c => Session.keepsOpen_begin
  | answer i a =>
      rw [after?] at he
      split at he
      · next r c hi =>
          cases he
          refine h.enter id (fun d hd => h.waiting _ (List.mem_of_getElem? hi) d hd) (fun o ho => ?_) ?_
          · rcases List.mem_or_eq_of_mem_set ho with ho | rfl
            · exact Or.inl ho
            · exact Or.inr rfl
          · exact h.settled.concat (fun _ => rfl) fun _ => rfl
      · cases he
  | goOn i =>
      rw [after?] at he
      split at he
      · next r c a hi =>
          cases he
          obtain ⟨hconnected, hkeeps⟩ := h.waiting _ (List.mem_of_getElem? hi) ⟨r, c⟩ rfl
          have hstays : (d.session.resume c a).1.connected = true := (d.session.connected_resume c a).trans hconnected
          have hoperations : ∀ o ∈ d.operations.set i ((d.session.resume c a).2, none),
              o ∈ d.operations ∨ o.1 = (d.session.resume c a).2 := fun o ho =>
            (List.mem_or_eq_of_mem_set ho).imp_right fun he => by rw [he]
          rcases Session.resume_closes_or_keepsOpen hconnected hkeeps a with ⟨w, rfl, ha, hnext⟩ | ⟨hfills, hnext⟩
          · -- a window is filled, and closed in the same step
            refine h.enter (fun _ => hstays) (fun f hf => ⟨hstays, ?_⟩) hoperations ?_
            · rw [hnext] at hf
              cases hf
              rfl
            · rw [hnext]
              exact h.settled.close ha i
          · refine h.enter (fun _ => hstays) (fun f hf => ⟨hstays, keepsOpen_conversation (hnext f hf)⟩) hoperations ?_
            refine (h.settled.concat (fun _ => rfl) fun w => ?_).called i hnext
            by_cases hc : c = .fillingWindow w
            · rw [Entry.fills, hfills w hc, Bool.and_false]
            · rw [Entry.fills, decide_eq_false hc, Bool.false_and]
      · cases he

/-- Whatever has happened, all is in order. -/
theorem orderly_of_reachable {s : Session} (h : Reachable (start s) d) : Orderly d := by
  induction h with
  | refl => exact orderly_start s
  | tail _ hs ih => exact orderly_step ih hs

/-! ## When windows are balanced -/

/-- **Open windows.** Let any operations be asked of a session, among them those that replace routes and next hop
groups; they may overlap in any way, and their calls may be answered in any way or never. Then:
a window of a kind is closed just when an operation has gone on with the success of its call within one, and at once;
it is open if and only if none has since it was opened, which was granted;
and windows are balanced if and only if, whenever one is opened, some operation has gone on so since every opening of
its kind that was granted. -/
theorem windows_of_reachable {s : Session} (h : Reachable (start s) d) (w : Window) :
    Lawful (fun before x => x.closes w = before.getLast?.any (Entry.fills w)) d.log
      ∧ (IsOpen w d.log ↔ IsUnfilled w d.log)
      ∧ (Balanced w d.log ↔ Lawful (fun before x => x.opens w = true → ¬IsUnfilled w before) d.log) := by
  have hsettled : Settled d.log := (orderly_of_reachable h).settled
  refine ⟨fun before x after hlog => hsettled.lawful before x after hlog w, hsettled.isOpen_iff w, ?_⟩
  refine forall₄_congr fun before x after hlog => imp_congr_right fun hopens => ?_
  rw [(settled_of_opens hsettled.lawful hlog hopens).isOpen_iff w]

/-- An agent that has not been started. -/
def greeter : Dialogues := start (.new { name := "greeter" })

/-- A success. -/
def granted : Answer := .response (.outcome {})

/-- A failure. -/
def refused : Answer := .response (.outcome { status := 1, errorText := "full" })

/-- An agent is started, and is to replace routes: it opens a window. -/
def opening : List Happening :=
  [.begin (.start .direct), .answer 0 (.response (.registration {})), .goOn 0, .begin (.replaceRoutes []),
    .answer 1 granted, .goOn 1]

/-- It closes the window, opens one for routes and one for next hop groups, and is refused the routes. -/
def windowsInTurn : List Happening :=
  opening ++ [.answer 1 granted, .goOn 1, .begin (.replaceRoutes []), .begin (.replaceGroups []), .answer 2 granted,
    .goOn 2, .answer 2 refused, .goOn 2]

/-- Windows have been balanced, and the last one of routes is open, though the operation that opened it is over. -/
theorem windows_windowsInTurn :
    ∃ d, greeter.follow? windowsInTurn = some d ∧ (∀ w, Balanced w d.log) ∧ IsOpen .routes d.log ∧
      d.operations[2]? = some (.finished (.error (Session.fillError .routes)) [], none) := by
  have hr : Reachable greeter _ := reachable_of_follow? (show greeter.follow? windowsInTurn = some _ from rfl)
  refine ⟨_, rfl, fun w => (windows_of_reachable hr w).2.2.2 ?_, (windows_of_reachable hr .routes).2.1.2 ?_, rfl⟩
  · cases w <;> decide +kernel
  · decide +kernel

/-- **A window that is not filled is found open**: an operation is refused its routes, and the next one opens a window
all the same; so does one that overlaps with another, though nothing is refused. -/
theorem not_balanced_refused :
    (∃ d, greeter.follow? (opening ++ [.answer 1 refused, .goOn 1, .begin (.replaceRoutes [])]) = some d ∧
        ¬Balanced .routes d.log) ∧
      ∃ d, greeter.follow? (opening ++ [.begin (.replaceRoutes [])]) = some d ∧ ¬Balanced .routes d.log :=
  ⟨⟨_, rfl, by decide +kernel⟩, ⟨_, rfl, by decide +kernel⟩⟩

end Dialogues

end NetworkAgent
