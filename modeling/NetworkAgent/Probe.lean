import NetworkAgent.Options
import NetworkAgent.Retry

/-!
# Probing the daemon

The daemon is probed at regular instants, the **ticks**. A probe that fails in transport is repeated until it is
answered; only answers count. A success resets the count of failures, and when as many answers in a row as the
threshold says report a failure, probing stops for good.

The next tick is one interval after the last one, unless the last one was taken more than five milliseconds late:
then it is one interval after that moment.
-/

namespace NetworkAgent

open Message

/-- How probing ended. -/
inductive ProbeExit where
  /-- The session was cancelled. -/
  | cancelled
  /-- The daemon reported too many failures in a row. -/
  | thresholdReached
  deriving DecidableEq, Repr

namespace Probe

/-- How late a tick may be taken without shifting the ticks after it, in milliseconds. -/
def tolerance : Nat := 5

/-- What a probing activity is doing. -/
inductive Phase where
  /-- about to take the first tick, which is immediate -/
  | beginning
  /-- waiting for the next tick -/
  | resting
  /-- probing -/
  | probing (r : Retry Outcome)
  /-- nothing any more -/
  | finished (exit : ProbeExit)
  deriving DecidableEq, Repr

end Probe

/-- A probing activity. -/
structure Probe where
  /-- What it is doing. -/
  phase : Probe.Phase
  /-- The next tick. -/
  tick : Nat
  /-- How many answers in a row reported a failure. -/
  failures : UInt32
  deriving DecidableEq, Repr

namespace Probe

/-- Probing that is about to begin. -/
def new : Probe := ⟨.beginning, 0, 0⟩

/-- The tick after the tick `tick`, taken at the instant `now`. -/
def nextTick (interval tick now : Nat) : Nat :=
  (if now > tick + tolerance then now else tick) + interval

/-- The outcome in an answer; a call that failed in transport has none. -/
def outcome? : Answer → Option Outcome
  | .response r => some r.report
  | .failed _ => none

/-- What the probe waits for. -/
def wait (p : Probe) : Wait :=
  match p.phase with
  | .beginning => .turn
  | .resting => .until p.tick
  | .probing r => r.wait
  | .finished _ => .ended

/-- Whether the probe watches the session's cancellation while it waits. -/
def watchesCancellation (p : Probe) : Bool :=
  match p.phase with
  | .beginning => false
  | _ => true

/-- How probing ended, if it has. -/
def result? (p : Probe) : Option ProbeExit :=
  match p.phase with
  | .finished exit => some exit
  | _ => none

/-- Counts an answered probe. -/
def count (k : KeepAlive) (p : Probe) (o : Outcome) : Probe :=
  if o.isSuccess then { p with phase := .resting, failures := 0 }
  else
    let failures := p.failures + 1
    if k.threshold ≤ failures then { p with phase := .finished .thresholdReached, failures := failures }
    else { p with phase := .resting, failures := failures }

/-- A probe in the state that an attempt has come to, with the call that it makes. -/
def proceed (k : KeepAlive) (p : Probe) : Retry Outcome → Probe × List Request
  | .done o => (p.count k o, [])
  | .cancelled => ({ p with phase := .finished .cancelled }, [])
  | .attempting => ({ p with phase := .probing .attempting }, [.keepAlive])
  | r => ({ p with phase := .probing r }, [])

/-- Takes an event at the instant `now`; one that the probe does not wait for changes nothing. -/
def step (k : KeepAlive) (delay now : Nat) (p : Probe) (e : Event) : Probe × List Request :=
  match p.phase, e with
  | .beginning, .turn => ({ p with phase := .resting, tick := now + k.interval }, [])
  | .resting, .elapsed =>
    ({ p with phase := .probing .poised, tick := nextTick k.interval p.tick now }, [])
  | .resting, .cancelled => ({ p with phase := .finished .cancelled }, [])
  | .probing r, e => p.proceed k (r.step delay now (.ofEvent outcome? e))
  | _, _ => (p, [])

end Probe

end NetworkAgent
