import NetworkAgent.Retry
import NetworkAgent.Stream.Topic

/-!
# Obtaining a stream

A stream handle is obtained by a call that is repeated until the daemon grants one; failed calls and refusals
are treated alike. A topic is then put on the stream by a single call, and what went wrong with it is reported
as a `SubscriptionError`.
-/

namespace NetworkAgent.Registry

open Message

/-- The call for a new stream handle. -/
def createCall : Request := .notificationRegister .create

/-- The call that puts a topic on a stream. -/
def subscribeCall (streamId : UInt64) (topic : Topic) : Request :=
  .notificationRegister (.subscribe streamId topic.subscription)

/-- The handle in an answer that grants one. -/
def granted? : Answer → Option UInt64
  | .response (.stream r) => if r.outcome.isSuccess then some r.streamId else none
  | _ => none

/-- Why a topic was not put on a stream, if it was not. -/
def refusal? : Answer → Option String
  | .response r =>
    if r.report.isSuccess then none
    else some ("status " ++ toString r.report.status ++ ": " ++ r.report.errorText)
  | .failed s => some s.describe

/-- The result of putting a topic on a stream. -/
def subscribed (streamId : UInt64) (topic : Topic) (a : Answer) : Except Error Unit :=
  match refusal? a with
  | none => .ok ()
  | some reason => .error (.subscription ⟨topic.name, streamId, reason⟩)

end NetworkAgent.Registry
