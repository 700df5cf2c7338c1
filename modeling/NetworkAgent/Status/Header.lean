import NetworkAgent.Status
import NetworkAgent.Text.Percent
import NetworkAgent.Text.Utf8

/-!
# Statuses in headers

A status that comes over a channel has its text in a header, in which octets may be written as percent escapes. The
text is taken as it is on one side and read with its escapes on the other, so that a text with a percent sign may
arrive changed. Escapes that spell no text leave a status of unknown kind that tells what is wrong with them.

A call that fails for no reason is not seen to fail: what is then missed is its response.
-/

namespace NetworkAgent

/-- What is wrong with octets that are no text. -/
def Utf8.Fault.describe (f : Utf8.Fault) : String :=
  match f.length with
  | some n => "invalid utf-8 sequence of " ++ toString n ++ " bytes from index " ++ toString f.offset
  | none => "incomplete utf-8 byte sequence from index " ++ toString f.offset

namespace Status

/-- The status that arrives over a channel. -/
def received (s : Status) : Status :=
  match Utf8.read? 0 (Percent.octets s.text.toList) with
  | .ok text => { s with text := String.ofList text }
  | .error f => ⟨.unknown, "Error deserializing status message header: " ++ f.describe⟩

/-- The status of a call without a response. -/
def missingResponse : Status := ⟨.internal, "Missing response message."⟩

end Status

end NetworkAgent
