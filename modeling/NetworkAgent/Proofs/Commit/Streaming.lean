import Mathlib.Data.List.Forall2
import NetworkAgent.Proofs.Commit.Boundary

/-! # Streamed changes

A streaming tracker makes a delta of every notification and does nothing else: it reads no configuration, keeps no
snapshot and hands over none.

* **`Delta.Reports`** — what a delta says about its notification. By `JsPath.toXPath_ne_commitEnd` a path that was
  translated never reads as the marker's, so that a delta closes a commit only if its notification does.
* **`Tracker.handled`** — the notifications of a run.
* **`Tracker.tracking_streaming`** — the law of a whole run in streaming mode. -/

namespace NetworkAgent

open Message

/-! ## What a delta says -/

/-- **A delta reports a notification** if it says what the notification says, with its paths translated unless they
are those of the marker. What the notification leaves out reads as empty. -/
structure Delta.Reports (n : ConfigNotification) (d : Delta) : Prop where
  /-- The same has happened. -/
  kind_eq : d.kind = n.kind
  /-- The keys are unchanged. -/
  keys_eq : d.keys = (n.key.getD {}).keys
  /-- The data is unchanged. -/
  json_eq : d.json = (n.data.getD {}).json
  /-- A marker keeps its paths. -/
  verbatim : (n.key.getD {}).jsPathWithKeys = commitEnd →
    d.path = commitEnd ∧ d.pathWithoutKeys = (n.key.getD {}).jsPath
  /-- The paths of anything else are translated. -/
  translated : (n.key.getD {}).jsPathWithKeys ≠ commitEnd →
    d.path = JsPath.toXPath (n.key.getD {}).jsPathWithKeys ∧
      d.pathWithoutKeys = JsPath.toXPath (n.key.getD {}).jsPath
  /-- It closes a commit just in case the notification carries the path of the marker. -/
  isCommitEnd_iff : d.isCommitEnd = true ↔ ∃ k, n.key = some k ∧ k.jsPathWithKeys = commitEnd

/-- The delta of a notification reports it. -/
theorem Delta.reports_ofNotification (n : ConfigNotification) : Reports n (ofNotification n) where
  kind_eq := by
    rw [ofNotification]
    split <;> rfl
  keys_eq := by
    rw [ofNotification]
    split <;> rfl
  json_eq := by
    have hdata : (n.data.map (·.json)).getD "" = (n.data.getD {}).json := by cases n.data <;> rfl
    rw [ofNotification, ← hdata]
    split <;> rfl
  verbatim h := by
    rw [ofNotification, if_pos h]
    exact ⟨h, rfl⟩
  translated h := by
    rw [ofNotification, if_neg h]
    exact ⟨rfl, rfl⟩
  isCommitEnd_iff := isCommitEnd_ofNotification n

namespace Tracker

/-! ## Runs -/

/-- The notification in an occurrence. -/
def Occurrence.notification? : Occurrence → Option ConfigNotification
  | .handle n _ => some n
  | .leaveFull | .leaveDeltas => none

/-- The notifications of a run, in order. -/
def handled (os : List Occurrence) : List ConfigNotification := os.filterMap Occurrence.notification?

/-- A streaming tracker hands over the delta of a notification, whatever it would read, and is ready again. -/
theorem occur_streaming {appRoot : String} {k : Tracking} (hk : k.tracker = new .streaming appRoot)
    (o : Occurrence) :
    (k.occur o).tracker = new .streaming appRoot ∧
      (k.occur o).log = k.log ++ o.notification?.toList.map fun n => .delta (.ofNotification n) := by
  cases o with
  | handle n reading =>
      rw [Tracking.occur, hk]
      exact ⟨rfl, rfl⟩
  | leaveFull => exact ⟨hk, (List.append_nil _).symm⟩
  | leaveDeltas => exact ⟨hk, (List.append_nil _).symm⟩

/-- **A streaming tracker hands over the deltas of a run**, in order, and does nothing else. -/
theorem log_run_streaming (appRoot : String) (snapshot : Option String) (os : List Occurrence) :
    ((Tracking.start .streaming appRoot snapshot).run os).log
      = (handled os).map fun n => .delta (.ofNotification n) := by
  have h : ((Tracking.start .streaming appRoot snapshot).run os).log
      = os.flatMap fun o => o.notification?.toList.map fun n => .delta (.ofNotification n) :=
    Tracking.log_run (fun _ hk o => occur_streaming hk o) rfl os
  rw [h, handled, List.filterMap_eq_flatMap_toList, List.map_flatMap]

/-- **The law of a streaming tracker.** After any run, it has handed over a delta for each notification, in the same
order, and the delta reports the notification; all of them are in the queue of changes unless the application has left
that. It has made no call; the snapshot is what it was at the start, and no other was handed over. And no path is
translated into that of the marker, by which a delta closes a commit. -/
theorem tracking_streaming (appRoot : String) (snapshot : Option String) (os : List Occurrence) :
    let k := (Tracking.start .streaming appRoot snapshot).run os
    List.Forall₂ Delta.Reports (handled os) k.changes ∧
      k.feed.deltas.items = (if k.feed.deltas.dropped then [] else k.changes) ∧
      k.calls = [] ∧ k.feed.snapshot = snapshot ∧ k.produced = [] ∧ k.feed.full.items = [] ∧
      ∀ path, JsPath.toXPath path ≠ commitEnd := by
  intro k
  have hl : k.log = (handled os).map fun n => .delta (.ofNotification n) := log_run_streaming appRoot snapshot os
  have hk : k.feed.Shows snapshot k.log := shows_run .streaming appRoot snapshot os
  -- the outputs of a run are deltas, so of every other kind there is none
  have hother {β : Type} {kind : Output → Option β} (hkind : ∀ d, kind (.delta d) = none) :
      k.log.filterMap kind = [] := by
    rw [hl, List.filterMap_map, List.filterMap_eq_nil_iff]
    exact fun n _ => hkind _
  have hchanges : k.changes = (handled os).map .ofNotification := by
    rw [Tracking.changes, hl, List.filterMap_map, ← List.filterMap_eq_map]
    rfl
  have hproduced : k.produced = [] := hother fun _ => rfl
  refine ⟨?_, hk.deltas.items_eq, hother fun _ => rfl, ?_, hproduced, ?_, JsPath.toXPath_ne_commitEnd⟩
  · rw [hchanges]
    exact List.forall₂_map_right_iff.2 (List.forall₂_same.2 fun n _ => Delta.reports_ofNotification n)
  · rw [hk.snapshot_eq, hother fun _ => rfl]
    rfl
  · have hfull := hk.full.items_eq
    rw [show k.log.filterMap Output.snapshot? = [] from hproduced] at hfull
    rw [hfull]
    exact ite_self []

end Tracker

end NetworkAgent
