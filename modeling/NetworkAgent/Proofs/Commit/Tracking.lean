import Mathlib.Data.List.Basic
import NetworkAgent.Commit.Tracker
import NetworkAgent.Simulation.Schedule

/-! # Tracking commits, one notification after another

A tracker handles a notification to its end before it takes the next one: if the notification closes a commit it
reads the configuration, and goes on when that has been answered. This file follows a tracker, and the feed of the
application that it fills, through any list of notifications.

* **`Tracker.handle`** — a notification handled to its end by the steps of the tracker.
* **`Tracker.Feed`** — what the application sees: the current snapshot and the two queues. `World.feed_perform`
  says that a world lets the outputs of a tracker happen as `Feed.apply` does.
* **`Tracker.Tracking`** — a tracker with its feed and everything that it has done. Between notifications the
  application may leave either queue.
* **`Tracker.carried?`** — the sequence number that comes with a notification; **`Tracker.IsCommit`** — the
  notifications after which an aggregating tracker reads the configuration; `fullConfig?`, what it then hands over.
* **`Tracker.tracking_aggregate`** — the law of a whole run in aggregate mode. -/

namespace NetworkAgent

open Message

namespace Tracker

/-! ## Handling a notification -/

/-- The result of reading the configuration: what there is of it, or why the call failed. -/
abbrev Reading := Except Status (Option String)

/-- The answer that brings a result. -/
def Reading.answer : Reading → Answer
  | .ok json => .response (.config json)
  | .error s => .failed s

/-- **Handles a notification to its end**, `reading` being the result of the configuration if it is read. -/
def handle (t : Tracker) (n : ConfigNotification) (reading : Reading) : Tracker × List Output :=
  match t.step (.received (some n)) with
  | (t', outputs) =>
    if t'.wait = .answer then
      ((t'.step (.answered reading.answer)).1, outputs ++ (t'.step (.answered reading.answer)).2)
    else (t', outputs)

/-- The call that an output makes, if it makes one. -/
def Output.request? : Output → Option Request
  | .call r => some r
  | _ => none

/-- The configuration that an output keeps as the current snapshot, if it keeps one. -/
def Output.stored? : Output → Option (Option String)
  | .store json => some json
  | _ => none

/-- The snapshot that an output hands over, if it hands over one. -/
def Output.snapshot? : Output → Option FullConfig
  | .snapshot c => some c
  | _ => none

/-- The change that an output hands over, if it hands over one. -/
def Output.delta? : Output → Option Delta
  | .delta d => some d
  | _ => none

/-! ## The feed -/

/-- **What the application sees of a tracker.** -/
structure Feed where
  /-- The configuration that is kept as the current snapshot. -/
  snapshot : Option String
  /-- The snapshots that were handed over. -/
  full : Queue FullConfig := {}
  /-- The changes that were handed over. -/
  deltas : Queue Delta := {}

/-- Lets an output of a tracker happen. -/
def Feed.apply (f : Feed) : Output → Feed
  | .call _ => f
  | .store json => { f with snapshot := json }
  | .snapshot c => { f with full := f.full.push c }
  | .delta d => { f with deltas := f.deltas.push d }

/-- **A feed shows what a tracker has done**: the current snapshot is what was kept last, and each queue holds
what was handed over, unless the application has left it. -/
structure Feed.Shows (snapshot : Option String) (log : List Output) (f : Feed) : Prop where
  snapshot_eq : f.snapshot = (log.filterMap Output.stored?).getLast?.getD snapshot
  full : f.full.Holds (log.filterMap Output.snapshot?)
  deltas : f.deltas.Holds (log.filterMap Output.delta?)

/-- A feed goes on showing what a tracker has done. -/
theorem Feed.Shows.apply {snapshot : Option String} {log : List Output} {f : Feed}
    (h : f.Shows snapshot log) (o : Output) : (f.apply o).Shows snapshot (log ++ [o]) := by
  obtain ⟨hs, hf, hd⟩ := h
  -- each part of the feed changes with one kind of output, and its side of the log does too
  refine ⟨?_, ?_, ?_⟩ <;> rw [List.filterMap_append]
  · cases o with
    | store json =>
        show json = _
        rw [List.filterMap_cons_some (show Output.stored? (.store json) = some json from rfl),
          List.filterMap_nil, List.getLast?_concat, Option.getD_some]
    | _ => exact hs.trans (by rw [List.filterMap_cons_none rfl, List.filterMap_nil, List.append_nil])
  · cases o with
    | snapshot c => exact hf.push c
    | _ => exact (List.append_nil _).symm ▸ hf
  · cases o with
    | delta d => exact hd.push d
    | _ => exact (List.append_nil _).symm ▸ hd

/-- A feed shows several outputs that happen one after another. -/
theorem Feed.Shows.applies {snapshot : Option String} {log : List Output} {f : Feed}
    (h : f.Shows snapshot log) (outputs : List Output) :
    (outputs.foldl Feed.apply f).Shows snapshot (log ++ outputs) := by
  induction outputs generalizing f log with
  | nil => rwa [List.append_nil]
  | cons o outputs ih =>
      have hi := ih (h.apply o)
      rwa [List.append_assoc, List.singleton_append] at hi

end Tracker

/-- The feed of a world. -/
def World.feed (w : World) : Tracker.Feed := ⟨w.session.snapshot, w.full, w.deltas⟩

/-- A turn that is given leaves the feed alone. -/
@[simp] theorem World.feed_enqueue (a : Actor) (w : World) : (w.enqueue a).feed = w.feed := by
  unfold World.enqueue
  split <;> rfl

/-- A task that turns away from its call leaves the feed alone. -/
@[simp] theorem World.feed_leaveCall (id : Nat) (w : World) : (w.leaveCall id).feed = w.feed := by
  unfold World.leaveCall
  split
  · rfl
  · unfold World.leavePassage
    split
    · rfl
    · split <;> exact World.feed_enqueue _ _

/-- A call that a task makes leaves the feed alone. -/
theorem World.feed_callFor (id : Nat) (r : Request) (w : World) : (w.callFor id r).1.feed = w.feed := by
  unfold World.callFor
  split
  · have hs : ((w.leaveCall id).send (some id) r).1.feed = (w.leaveCall id).feed :=
      World.feed_enqueue _ _
    exact hs.trans (World.feed_leaveCall id w)
  · rfl

/-- **A world lets the outputs of a tracker happen as its feed says.** -/
theorem World.feed_perform (id : Nat) (w : World) (reply : Option (World.Delivery Event))
    (o : Tracker.Output) :
    (World.perform id (w, reply) (Task.trackerEffect o)).1.feed = w.feed.apply o := by
  cases o with
  | call r => exact World.feed_callFor id r w
  | _ => rfl

namespace Tracker

/-! ## Runs -/

/-- What can happen to a tracker and its feed. -/
inductive Occurrence where
  /-- A notification is handled, with the result of the configuration if it is read. -/
  | handle (n : ConfigNotification) (reading : Reading)
  /-- The application leaves the queue of snapshots. -/
  | leaveFull
  /-- The application leaves the queue of changes. -/
  | leaveDeltas

/-- **A tracker with its feed** and everything that it has done, in order. -/
structure Tracking where
  /-- The tracker. -/
  tracker : Tracker
  /-- The feed that it fills. -/
  feed : Feed
  /-- What it has done. -/
  log : List Output := []

namespace Tracking

/-- A tracker that has not handled anything, its feed holding a snapshot. -/
def start (mode : CommitMode) (appRoot : String) (snapshot : Option String) : Tracking :=
  { tracker := .new mode appRoot, feed := { snapshot := snapshot } }

/-- Lets something happen. -/
def occur (k : Tracking) : Occurrence → Tracking
  | .handle n reading =>
    { tracker := (k.tracker.handle n reading).1
      feed := (k.tracker.handle n reading).2.foldl Feed.apply k.feed
      log := k.log ++ (k.tracker.handle n reading).2 }
  | .leaveFull => { k with feed := { k.feed with full := k.feed.full.drop } }
  | .leaveDeltas => { k with feed := { k.feed with deltas := k.feed.deltas.drop } }

/-- **A run**: one thing happens after another. -/
def run (k : Tracking) (os : List Occurrence) : Tracking := os.foldl occur k

/-- **A tracker that is ready again after everything that happens** does in a run what it does with each of the things
that happen, one after another. -/
theorem log_run {t : Tracker} {done : Occurrence → List Output}
    (h : ∀ k : Tracking, k.tracker = t → ∀ o, (k.occur o).tracker = t ∧ (k.occur o).log = k.log ++ done o)
    {k : Tracking} (hk : k.tracker = t) (os : List Occurrence) : (k.run os).log = k.log ++ os.flatMap done := by
  induction os generalizing k with
  | nil => exact (List.append_nil k.log).symm
  | cons o os ih =>
      obtain ⟨ht, hl⟩ := h k hk o
      have hi : ((k.occur o).run os).log = k.log ++ done o ++ os.flatMap done := by rw [ih ht, hl]
      rw [List.flatMap_cons, ← List.append_assoc]
      exact hi

/-- The calls that were made, in order. -/
def calls (k : Tracking) : List Request := k.log.filterMap Output.request?

/-- The snapshots that were handed over, in order, whether or not anybody was there to take them. -/
def produced (k : Tracking) : List FullConfig := k.log.filterMap Output.snapshot?

/-- The changes that were handed over, in order, whether or not anybody was there to take them. -/
def changes (k : Tracking) : List Delta := k.log.filterMap Output.delta?

end Tracking

/-! ## What closes a commit -/

/-- **The sequence number that comes with a notification**, if there is data with it that can be read. -/
def carried? (n : ConfigNotification) : Option UInt64 := n.data.bind fun d => Marker.sequence? d.json

/-- Absent data is empty, and empty data cannot be read. -/
theorem carried?_eq (n : ConfigNotification) : carried? n = Marker.sequence? (data n) := by
  obtain ⟨kind, key, data⟩ := n
  cases data with
  | none => rfl
  | some d => rfl

/-- **A notification is a commit** if it carries the path of the marker and does not come with the sequence zero. Data
that cannot be read is that of a commit. -/
def IsCommit (n : ConfigNotification) : Prop :=
  (∃ k, n.key = some k ∧ k.jsPath = ".commit.end") ∧ carried? n ≠ some 0

/-- The configuration that a result brings; an empty object counts as none. -/
def configuration (json : Option String) : Option String :=
  json.filter fun text => !Marker.isEmptyObject text

/-- What is handed over for a commit with a result of reading the configuration. -/
def fullConfig? (n : ConfigNotification) : Reading → Option FullConfig
  | .ok json => some ⟨carried? n, configuration json⟩
  | .error _ => none

/-- A notification with the path of the marker is one that has a key with that path. -/
theorem isMarker_iff (n : ConfigNotification) :
    isMarker n = true ↔ ∃ k, n.key = some k ∧ k.jsPath = commitEnd := by
  obtain ⟨op, key, data⟩ := n
  cases key with
  | none =>
      constructor
      · intro h
        cases h
      · rintro ⟨k, hk, -⟩
        cases hk
  | some key =>
      constructor
      · intro h
        exact ⟨key, rfl, eq_of_beq h⟩
      · rintro ⟨k, hk, h⟩
        cases hk
        exact beq_iff_eq.2 h

/-- The test of an aggregating tracker is that for a commit. -/
theorem isCommit_iff (n : ConfigNotification) :
    IsCommit n ↔ (isMarker n && !Marker.isZero (data n)) = true := by
  rw [Bool.and_eq_true, Bool.not_eq_true', Marker.isZero, beq_eq_false_iff_ne, ← carried?_eq]
  exact and_congr_left' (isMarker_iff n).symm

instance (n : ConfigNotification) : Decidable (IsCommit n) :=
  decidable_of_iff _ (isCommit_iff n).symm

/-- What an answer says about the configuration is what its result says. -/
theorem config?_answer (reading : Reading) :
    config? reading.answer
      = match reading with
        | .ok json => some (configuration json)
        | .error _ => none := by
  cases reading with
  | error s => rfl
  | ok json =>
      cases json with
      | none => rfl
      | some text =>
          show some (if Marker.isEmptyObject text = true then none else some text)
            = some (Option.filter _ (some text))
          cases h : Marker.isEmptyObject text <;> simp [Option.filter, h]

/-- What a tracker does with a snapshot: it keeps its configuration, and hands it over. -/
def handOver (c : FullConfig) : List Output := [.store c.json, .snapshot c]

/-- **What an aggregating tracker does after a commit**: it reads the configuration, and hands over what it could
read. -/
def report (appRoot : String) (c : ConfigNotification × Reading) : List Output :=
  .call (.getConfig appRoot) :: (fullConfig? c.1 c.2).toList.flatMap handOver

/-- **An aggregating tracker reports a commit**, and does nothing with any other notification. -/
theorem handle_aggregate (appRoot : String) (n : ConfigNotification) (reading : Reading) :
    (new .aggregate appRoot).handle n reading
      = (new .aggregate appRoot, if IsCommit n then report appRoot (n, reading) else []) := by
  by_cases hn : IsCommit n
  · have hm := (isCommit_iff n).1 hn
    -- the step that takes the notification, and the one that takes the answer
    have ht : (new .aggregate appRoot).step (.received (some n))
        = (⟨.aggregate, appRoot, .fetching (carried? n)⟩,
            [.call (.getConfig appRoot)]) := by
      show take (new .aggregate appRoot) n = _
      rw [take, carried?_eq]
      exact if_pos hm
    have hf : (⟨.aggregate, appRoot, .fetching (carried? n)⟩ : Tracker).step
          (.answered reading.answer)
        = (new .aggregate appRoot, (fullConfig? n reading).toList.flatMap handOver) := by
      show finish _ _ _ = _
      rw [finish, config?_answer]
      cases reading <;> rfl
    have hw : (⟨.aggregate, appRoot, .fetching (carried? n)⟩ : Tracker).wait
        = .answer := rfl
    rw [handle, ht, if_pos hn]
    dsimp only
    rw [if_pos hw, hf, List.singleton_append, report]
  · have hm : (isMarker n && !Marker.isZero (data n)) ≠ true := fun h => hn ((isCommit_iff n).2 h)
    have ht : (new .aggregate appRoot).step (.received (some n)) = (new .aggregate appRoot, []) := by
      show take (new .aggregate appRoot) n = _
      rw [take]
      exact if_neg hm
    rw [handle, ht, if_neg hn]
    rfl

/-- A report makes one call. -/
theorem requests_report (appRoot : String) (c : ConfigNotification × Reading) :
    (report appRoot c).filterMap Output.request? = [.getConfig appRoot] := by
  rw [report]
  cases fullConfig? c.1 c.2 <;> rfl

/-- A report hands over what was read. -/
theorem snapshots_report (appRoot : String) (c : ConfigNotification × Reading) :
    (report appRoot c).filterMap Output.snapshot? = (fullConfig? c.1 c.2).toList := by
  rw [report]
  cases fullConfig? c.1 c.2 <;> rfl

/-- A report keeps what it hands over. -/
theorem stored_report (appRoot : String) (c : ConfigNotification × Reading) :
    (report appRoot c).filterMap Output.stored?
      = ((report appRoot c).filterMap Output.snapshot?).map (·.json) := by
  rw [report]
  cases fullConfig? c.1 c.2 <;> rfl

/-- A report hands over no change. -/
theorem deltas_report (appRoot : String) (c : ConfigNotification × Reading) :
    (report appRoot c).filterMap Output.delta? = [] := by
  rw [report]
  cases fullConfig? c.1 c.2 <;> rfl

/-! ## The law of a run -/

/-- The feed goes on showing what its tracker has done, whatever happens. -/
theorem shows_occur {snapshot : Option String} {k : Tracking} (h : k.feed.Shows snapshot k.log)
    (o : Occurrence) : (k.occur o).feed.Shows snapshot (k.occur o).log := by
  cases o with
  | handle n reading => exact h.applies _
  | leaveFull => exact ⟨h.snapshot_eq, h.full.drop, h.deltas⟩
  | leaveDeltas => exact ⟨h.snapshot_eq, h.full, h.deltas.drop⟩

/-- **The feed shows what its tracker has done** at every point of a run, in either mode. -/
theorem shows_run (mode : CommitMode) (appRoot : String) (snapshot : Option String)
    (os : List Occurrence) :
    ((Tracking.start mode appRoot snapshot).run os).feed.Shows snapshot
      ((Tracking.start mode appRoot snapshot).run os).log := by
  -- from any tracker whose feed shows what it has done, since the run starts anew after each occurrence
  have h : ∀ k : Tracking, k.feed.Shows snapshot k.log →
      (k.run os).feed.Shows snapshot (k.run os).log := by
    induction os with
    | nil => exact fun k hk => hk
    | cons o os ih => exact fun k hk => ih (k.occur o) (shows_occur hk o)
  exact h _ ⟨rfl, Queue.holds_new, Queue.holds_new⟩

/-- The commit in an occurrence, with the result of reading the configuration after it. -/
def Occurrence.commit? : Occurrence → Option (ConfigNotification × Reading)
  | .handle n reading => if IsCommit n then some (n, reading) else none
  | .leaveFull | .leaveDeltas => none

/-- The commits of a run, in order. -/
def commits (os : List Occurrence) : List (ConfigNotification × Reading) :=
  os.filterMap Occurrence.commit?

/-- An aggregating tracker that is ready reports the commit in what happens, if there is one, and is ready
again. -/
theorem occur_aggregate {appRoot : String} {k : Tracking} (hk : k.tracker = new .aggregate appRoot)
    (o : Occurrence) :
    (k.occur o).tracker = new .aggregate appRoot ∧
      (k.occur o).log = k.log ++ o.commit?.toList.flatMap (report appRoot) := by
  cases o with
  | handle n reading =>
      rw [Tracking.occur, hk, handle_aggregate, Occurrence.commit?]
      refine ⟨rfl, ?_⟩
      by_cases hn : IsCommit n
      · rw [if_pos hn, if_pos hn, Option.toList_some, List.flatMap_singleton]
      · rw [if_neg hn, if_neg hn, Option.toList_none, List.flatMap_nil]
  | leaveFull => exact ⟨hk, (List.append_nil _).symm⟩
  | leaveDeltas => exact ⟨hk, (List.append_nil _).symm⟩

/-- **An aggregating tracker reports the commits of a run**, in order, and does nothing else. -/
theorem log_run_aggregate (appRoot : String) (snapshot : Option String) (os : List Occurrence) :
    ((Tracking.start .aggregate appRoot snapshot).run os).log
      = (commits os).flatMap (report appRoot) := by
  have h : ((Tracking.start .aggregate appRoot snapshot).run os).log
      = os.flatMap fun o => o.commit?.toList.flatMap (report appRoot) :=
    Tracking.log_run (fun _ hk o => occur_aggregate hk o) rfl os
  rw [h, commits, List.filterMap_eq_flatMap_toList, List.flatMap_assoc]

/-- **The law of an aggregating tracker.** After any run, it has read the configuration of the application once
for each commit, and handed over, in the same order, what could be read; what was handed over last is the
current snapshot, and all of it is in the queue of snapshots unless the application has left that. No change
is handed over. -/
theorem tracking_aggregate (appRoot : String) (snapshot : Option String) (os : List Occurrence) :
    let k := (Tracking.start .aggregate appRoot snapshot).run os
    k.calls = (commits os).map (fun _ => .getConfig appRoot) ∧
      k.produced = (commits os).filterMap (fun c => fullConfig? c.1 c.2) ∧
      k.feed.snapshot = (k.produced.getLast?.map (·.json)).getD snapshot ∧
      k.feed.full.items = (if k.feed.full.dropped then [] else k.produced) ∧
      k.changes = [] ∧ k.feed.deltas.items = [] := by
  intro k
  have hl : k.log = (commits os).flatMap (report appRoot) := log_run_aggregate appRoot snapshot os
  have hk : k.feed.Shows snapshot k.log := shows_run .aggregate appRoot snapshot os
  -- every report keeps just what it hands over, so the two agree over the whole log
  have hs : k.log.filterMap Output.stored? = k.produced.map (·.json) := by
    rw [Tracking.produced, hl, List.filterMap_flatMap, List.filterMap_flatMap, List.map_flatMap]
    simp only [stored_report]
  have hd : k.changes = [] := by
    rw [Tracking.changes, hl, List.filterMap_flatMap]
    simp only [deltas_report]
    exact List.flatMap_eq_nil_iff.2 fun _ _ => rfl
  refine ⟨?_, ?_, ?_, hk.full.items_eq, hd, ?_⟩
  · rw [Tracking.calls, hl, List.filterMap_flatMap]
    simp only [requests_report]
    exact List.map_eq_flatMap.symm
  · rw [Tracking.produced, hl, List.filterMap_flatMap]
    simp only [snapshots_report]
    exact (List.filterMap_eq_flatMap_toList _ _).symm
  · rw [hk.snapshot_eq, hs, List.getLast?_map]
  · have hi := hk.deltas.items_eq
    rw [show k.log.filterMap Output.delta? = [] from hd] at hi
    rw [hi]
    exact ite_self []

/-- A marker, with data or without. -/
def markerOf (data : Option String) : ConfigNotification :=
  { key := some { jsPath := ".commit.end", jsPathWithKeys := ".commit.end" }, data := data.map ConfigData.mk }

/-- A change that is no marker, a marker with the sequence zero, and one without data; one with a sequence, and one
after which the configuration cannot be read. Then the application leaves, and one more comes. -/
def mixed : List Occurrence :=
  [.handle { key := some { jsPath := ".greeter" } } (.ok (some "never read")),
    .handle (markerOf (some "\x7b\"commit_seq\":0\x7d")) (.ok (some "never read")),
    .handle (markerOf none) (.ok (some "\x7b \x7d")),
    .handle (markerOf (some "\x7b\"commit_seq\":8\x7d")) (.ok (some "\x7b\"name\":\"greeter\"\x7d")),
    .handle (markerOf (some "\x7b\"commit_seq\":9\x7d")) (.error ⟨.unavailable, "gone"⟩),
    .leaveFull,
    .handle (markerOf (some "nonsense")) (.ok none)]

/-- Of such a run four markers count, and of the three configurations that could be read one is there. Before the
application leaves, what was handed over waits for it; after that nothing does. -/
theorem tracking_aggregate_mixed :
    ∃ here gone : Tracking,
      here = (Tracking.start .aggregate "/greeter" (some "old")).run (mixed.take 5) ∧
        here.calls = [.getConfig "/greeter", .getConfig "/greeter", .getConfig "/greeter"] ∧
        here.produced = [⟨none, none⟩, ⟨some 8, some "\x7b\"name\":\"greeter\"\x7d"⟩] ∧
        here.feed.snapshot = some "\x7b\"name\":\"greeter\"\x7d" ∧ here.feed.full.items = here.produced ∧
        here.feed.deltas.items = [] ∧
      gone = (Tracking.start .aggregate "/greeter" (some "old")).run mixed ∧
        gone.calls = [.getConfig "/greeter", .getConfig "/greeter", .getConfig "/greeter", .getConfig "/greeter"] ∧
        gone.produced = [⟨none, none⟩, ⟨some 8, some "\x7b\"name\":\"greeter\"\x7d"⟩, ⟨none, none⟩] ∧
        gone.feed.snapshot = none ∧ gone.feed.full.items = [] ∧ gone.feed.deltas.items = [] := by
  obtain ⟨hcalls, hproduced, hsnapshot, hfull, -, hdeltas⟩ :=
    tracking_aggregate "/greeter" (some "old") (mixed.take 5)
  obtain ⟨hcalls', hproduced', hsnapshot', hfull', -, hdeltas'⟩ := tracking_aggregate "/greeter" (some "old") mixed
  -- the law gives each side in terms of the commits of the run, which can be computed
  refine ⟨_, _, rfl, hcalls.trans (by decide +kernel), hproduced.trans (by decide +kernel), ?_, ?_, hdeltas,
    rfl, hcalls'.trans (by decide +kernel), hproduced'.trans (by decide +kernel), ?_, ?_, hdeltas'⟩
  · rw [hsnapshot, hproduced]
    decide +kernel
  · exact hfull.trans (if_neg (by decide +kernel))
  · rw [hsnapshot', hproduced']
    decide +kernel
  · exact hfull'.trans (if_pos (by decide +kernel))

end Tracker

end NetworkAgent
