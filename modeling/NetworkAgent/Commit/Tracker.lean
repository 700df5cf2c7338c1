import NetworkAgent.Activity
import NetworkAgent.Commit.Delta
import NetworkAgent.Commit.Marker

/-!
# Tracking commits

The tracker takes the notifications of the configuration topic and turns them into what the application
receives. In **streaming** mode every notification becomes a delta. In **aggregate** mode only the marker that
closes a commit matters: unless its sequence is zero, the agent's configuration is read, kept as the current
snapshot and handed over as a `FullConfig`. A configuration that is an empty object counts as none, and one
that cannot be read is passed over.

The tracker watches the session's cancellation while it waits for a notification, and not while it
reads the configuration.
-/

namespace NetworkAgent

open Message

/-- How committed configuration reaches the application. -/
inductive CommitMode where
  /-- one snapshot for each commit -/
  | aggregate
  /-- every change by itself -/
  | streaming
  deriving DecidableEq, Repr, Inhabited

namespace Tracker

/-- What a tracker is doing. -/
inductive Phase where
  /-- waiting for a notification -/
  | waiting
  /-- reading the configuration after a commit -/
  | fetching (sequence : Option UInt64)
  /-- nothing any more -/
  | stopped
  deriving DecidableEq, Repr

end Tracker

/-- A tracker. -/
structure Tracker where
  /-- How it reports commits. -/
  mode : CommitMode
  /-- The XPath of the configuration that it reads. -/
  appRoot : String
  /-- What it is doing. -/
  phase : Tracker.Phase
  deriving DecidableEq, Repr

namespace Tracker

/-- What a tracker does in a step. -/
inductive Output where
  /-- makes a call -/
  | call (r : Request)
  /-- keeps a configuration as the current snapshot -/
  | store (json : Option String)
  /-- hands over a snapshot -/
  | snapshot (c : FullConfig)
  /-- hands over a change -/
  | delta (d : Delta)
  deriving DecidableEq, Repr

/-- A tracker that has not taken any notification. -/
def new (mode : CommitMode) (appRoot : String) : Tracker := ⟨mode, appRoot, .waiting⟩

/-- Whether a notification closes a commit. -/
def isMarker (n : ConfigNotification) : Bool := (n.key.map fun k => k.jsPath == commitEnd).getD false

/-- The data of a notification. -/
def data (n : ConfigNotification) : String := (n.data.map (·.json)).getD ""

/-- The configuration in an answer, if it could be read: nothing if it is absent or an empty object. -/
def config? : Answer → Option (Option String)
  | .response (.config (some json)) => some (if Marker.isEmptyObject json then none else some json)
  | .response _ => some none
  | .failed _ => none

/-- What the tracker waits for. -/
def wait (t : Tracker) : Wait :=
  match t.phase with
  | .waiting => .input
  | .fetching _ => .answer
  | .stopped => .ended

/-- Whether the tracker watches the session's cancellation while it waits. -/
def watchesCancellation (t : Tracker) : Bool :=
  match t.phase with
  | .fetching _ => false
  | _ => true

/-- Takes a notification. -/
def take (t : Tracker) (n : ConfigNotification) : Tracker × List Output :=
  match t.mode with
  | .streaming => (t, [.delta (.ofNotification n)])
  | .aggregate =>
    if isMarker n && !Marker.isZero (data n) then
      ({ t with phase := .fetching (Marker.sequence? (data n)) }, [.call (.getConfig t.appRoot)])
    else (t, [])

/-- Takes the answer of a call that reads the configuration after the commit `sequence`. -/
def finish (t : Tracker) (sequence : Option UInt64) (a : Answer) : Tracker × List Output :=
  ({ t with phase := .waiting },
   match config? a with
   | none => []
   | some json => [.store json, .snapshot ⟨sequence, json⟩])

/-- Takes an event; one that the tracker does not wait for changes nothing. -/
def step (t : Tracker) (e : Event) : Tracker × List Output :=
  match t.phase, e with
  | .waiting, .received (some n) => t.take n
  | .waiting, .received none | .waiting, .cancelled => ({ t with phase := .stopped }, [])
  | .fetching sequence, .answered a => t.finish sequence a
  | _, _ => (t, [])

end Tracker

end NetworkAgent
