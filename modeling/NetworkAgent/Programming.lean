import NetworkAgent.Address.Prefix
import NetworkAgent.Error
import NetworkAgent.Message.Programming
import NetworkAgent.Path.Notation

/-!
# Building what an agent pushes

Routes, next hops, next hop groups and acknowledgements from the texts that an application gives. Host
bits of a prefix and the family of a next hop are taken as written.
-/

namespace NetworkAgent

open Message

namespace Route

/-- Reads the destination of a route. -/
def destination (text : String) : Except Error IpPrefix :=
  match Prefix.ofString? text with
  | some p => .ok p
  | none => .error (.route (.invalidPrefix text))

/-- A route to a next hop group. -/
def make (networkInstance destinationText nextHopGroup : String) (preference metric : UInt32) :
    Except Error RouteInfo :=
  (destination destinationText).map fun p =>
    ⟨⟨networkInstance, some p⟩, ⟨preference, metric, nextHopGroup⟩⟩

/-- The keys of routes of one network instance. -/
def keys (networkInstance : String) (destinations : List String) : Except Error (List RouteKey) :=
  destinations.mapM fun text => (destination text).map fun p => ⟨networkInstance, some p⟩

end Route

namespace NextHop

/-- A next hop with a stack of labels. -/
def make (address : String) (labels : List UInt32) (resolveTo resolution : Int32) :
    Except Error Message.NextHop :=
  match Ip.ofString? address with
  | some ip => .ok ⟨some ip.toMessage, labels, resolveTo, resolution⟩
  | none => .error (.nextHopGroup (.invalidAddress address))

/-- A next hop group. -/
def group (networkInstance name : String) (hops : List Message.NextHop) : NextHopGroupInfo :=
  ⟨⟨name, networkInstance⟩, ⟨hops⟩⟩

end NextHop

/-- What an application says about one node of a commit. -/
structure Acknowledgement where
  /-- The node's XPath. -/
  path : String
  /-- What the operator is told. -/
  verdict : Verdict
  deriving DecidableEq, Repr

/-- The acknowledgement as the daemon takes it. -/
def Acknowledgement.toMessage (a : Acknowledgement) : AcknowledgeInfo :=
  ⟨XPath.toJsPath a.path, a.verdict⟩

end NetworkAgent
