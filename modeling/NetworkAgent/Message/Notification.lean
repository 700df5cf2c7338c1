import NetworkAgent.Message.Common

/-!
# Notifications

The daemon tells an agent what changed by **notifications**, each of one topic, with the change's kind, the
object's key and its data. On the wire they travel in envelopes (`Notification`), several to one
stream response; an envelope may be empty.
-/

namespace NetworkAgent.Message

/-- A change of kind `operation` to the object with a key and data. -/
structure Change (κ δ : Type) where
  /-- Number of the kind of change. -/
  operation : Int32 := 0
  /-- Which object changed. -/
  key : Option κ := none
  /-- The object after the change. -/
  data : Option δ := none
  deriving DecidableEq, Repr, Inhabited

/-- What kind of change was notified. -/
def Change.kind {κ δ : Type} (c : Change κ δ) : ChangeKind := .ofNumber c.operation

/-- A configuration node. -/
structure ConfigKey where
  /-- The node's JSPath without list keys. -/
  jsPath : String := ""
  /-- The values of the list keys. -/
  keys : List String := []
  /-- The node's JSPath with list keys. -/
  jsPathWithKeys : String := ""
  deriving DecidableEq, Repr, Inhabited

/-- The configuration of a node. -/
structure ConfigData where
  /-- Leaves and child containers, as JSON. -/
  json : String := ""
  deriving DecidableEq, Repr, Inhabited

/-- A change of the agent's configuration. -/
abbrev ConfigNotification := Change ConfigKey ConfigData

/-- An interface. -/
structure InterfaceKey where
  /-- The interface's name. -/
  name : String := ""
  deriving DecidableEq, Repr, Inhabited

/-- The state of an interface. -/
structure InterfaceData where
  /-- Whether it is enabled. -/
  adminIsUp : UInt32 := 0
  /-- Whether it is up. -/
  operIsUp : UInt32 := 0
  /-- Its maximum transmission unit. -/
  mtu : UInt32 := 0
  /-- Its hardware address. -/
  macAddress : Bytes := []
  /-- Its description. -/
  description : String := ""
  deriving DecidableEq, Repr, Inhabited

/-- A change of an interface. -/
abbrev InterfaceNotification := Change InterfaceKey InterfaceData

/-- A network instance. -/
structure NetworkInstanceKey where
  /-- The instance's name. -/
  name : String := ""
  deriving DecidableEq, Repr, Inhabited

/-- The state of a network instance. -/
structure NetworkInstanceData where
  /-- Whether it is up. -/
  operIsUp : UInt32 := 0
  /-- Its description. -/
  description : String := ""
  deriving DecidableEq, Repr, Inhabited

/-- A change of a network instance. -/
abbrev NetworkInstanceNotification := Change NetworkInstanceKey NetworkInstanceData

/-- A neighbour seen by link layer discovery. -/
structure LldpNeighborKey where
  /-- The interface that it was seen on. -/
  interfaceName : String := ""
  /-- Its chassis. -/
  chassisId : Bytes := []
  /-- Its port. -/
  portId : String := ""
  deriving DecidableEq, Repr, Inhabited

/-- What a neighbour says about itself. -/
structure LldpNeighborData where
  /-- Its name. -/
  systemName : String := ""
  /-- Its description. -/
  systemDescription : String := ""
  /-- Its port's description. -/
  portDescription : String := ""
  deriving DecidableEq, Repr, Inhabited

/-- A change of a neighbour. -/
abbrev LldpNeighborNotification := Change LldpNeighborKey LldpNeighborData

/-- A bidirectional forwarding detection session. -/
structure BfdSessionKey where
  /-- The near end. -/
  source : Option IpAddress := none
  /-- The far end. -/
  destination : Option IpAddress := none
  /-- The instance. -/
  instanceId : UInt32 := 0
  deriving DecidableEq, Repr, Inhabited

/-- The state of a forwarding detection session. -/
structure BfdSessionData where
  /-- The session's state. -/
  status : UInt32 := 0
  /-- The interface at the near end. -/
  sourceInterfaceId : UInt32 := 0
  deriving DecidableEq, Repr, Inhabited

/-- A change of a forwarding detection session. -/
abbrev BfdSessionNotification := Change BfdSessionKey BfdSessionData

/-- A route. -/
structure RouteKey where
  /-- The network instance that it belongs to. -/
  networkInstance : String := ""
  /-- Its destination. -/
  destination : Option IpPrefix := none
  deriving DecidableEq, Repr, Inhabited

/-- Where a route leads. -/
structure RouteData where
  /-- Its preference. -/
  preference : UInt32 := 0
  /-- Its metric. -/
  metric : UInt32 := 0
  /-- The next hop group that it uses. -/
  nextHopGroup : String := ""
  deriving DecidableEq, Repr, Inhabited

/-- A change of a route. -/
abbrev RouteNotification := Change RouteKey RouteData

/-- An application. -/
structure AppIdKey where
  /-- The application's name. -/
  name : String := ""
  deriving DecidableEq, Repr, Inhabited

/-- The identity of an application. -/
structure AppIdData where
  /-- The application's identifier. -/
  id : UInt32 := 0
  deriving DecidableEq, Repr, Inhabited

/-- A change of an application. -/
abbrev AppIdNotification := Change AppIdKey AppIdData

/-- A next hop group. -/
structure NextHopGroupKey where
  /-- The group's name. -/
  name : String := ""
  /-- The network instance that it belongs to. -/
  networkInstance : String := ""
  deriving DecidableEq, Repr, Inhabited

/-- One way out of a next hop group. -/
structure NextHop where
  /-- The neighbour's address. -/
  address : Option IpAddress := none
  /-- The stack of labels to push. -/
  labels : List UInt32 := []
  /-- Number of the kind of route that it may resolve to. -/
  resolveTo : Int32 := 0
  /-- Number of the kind of resolution. -/
  resolution : Int32 := 0
  deriving DecidableEq, Repr, Inhabited

/-- The ways out of a next hop group. -/
structure NextHopGroup where
  /-- The next hops. -/
  hops : List NextHop := []
  deriving DecidableEq, Repr, Inhabited

/-- A change of a next hop group. -/
abbrev NextHopGroupNotification := Change NextHopGroupKey NextHopGroup

/-- A notification with its topic. -/
inductive Payload where
  | interface (n : InterfaceNotification)
  | networkInstance (n : NetworkInstanceNotification)
  | lldpNeighbor (n : LldpNeighborNotification)
  | config (n : ConfigNotification)
  | bfdSession (n : BfdSessionNotification)
  | route (n : RouteNotification)
  | appId (n : AppIdNotification)
  | nextHopGroup (n : NextHopGroupNotification)
  deriving DecidableEq, Repr, Inhabited

/-- The envelope of a notification. -/
structure Notification where
  /-- The subscription that it answers. -/
  subscriptionId : UInt64 := 0
  /-- What it carries, if anything. -/
  payload : Option Payload := none
  deriving DecidableEq, Repr, Inhabited

/-- One message of a notification stream. -/
structure StreamResponse where
  /-- The stream. -/
  streamId : UInt64 := 0
  /-- The envelopes, in order. -/
  notifications : List Notification := []
  deriving DecidableEq, Repr, Inhabited

end NetworkAgent.Message
