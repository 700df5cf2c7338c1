import NetworkAgent.Message.Notification
import NetworkAgent.Message.Registration

/-!
# Topics

A notification stream carries the **topics** that were put on it. A topic has a name, a subscription that
asks for it, and the kind of notification that it brings. A `Selector` joins a topic with the way to take its
notifications out of their envelopes: for every topic there is the selector of its own type of notification,
and `Topic.selector` is the one that keeps the notification under its topic.
-/

namespace NetworkAgent

open Message

/-- What a stream can be subscribed to. -/
inductive Topic where
  | config
  | interface
  | route
  | nextHopGroup
  | networkInstance
  | lldpNeighbor
  | bfdSession
  | appId
  deriving DecidableEq, Repr, Inhabited

namespace Topic

/-- The topic's name. -/
def name : Topic → String
  | .config => "config"
  | .interface => "interface"
  | .route => "route"
  | .nextHopGroup => "nhg"
  | .networkInstance => "network_instance"
  | .lldpNeighbor => "lldp"
  | .bfdSession => "bfd"
  | .appId => "appid"

/-- The subscription that asks for the topic. -/
def subscription : Topic → Subscription
  | .config => .config
  | .interface => .interface
  | .route => .route
  | .nextHopGroup => .nextHopGroup
  | .networkInstance => .networkInstance
  | .lldpNeighbor => .lldpNeighbor
  | .bfdSession => .bfdSession
  | .appId => .appId

end Topic

/-- The topic of a notification. -/
def Message.Payload.topic : Payload → Topic
  | .interface _ => .interface
  | .networkInstance _ => .networkInstance
  | .lldpNeighbor _ => .lldpNeighbor
  | .config _ => .config
  | .bfdSession _ => .bfdSession
  | .route _ => .route
  | .appId _ => .appId
  | .nextHopGroup _ => .nextHopGroup

/-- A topic with the way to take its notifications out of their envelopes. -/
structure Selector (α : Type) where
  /-- The topic. -/
  topic : Topic
  /-- What an envelope carries of it; nothing if it is empty or carries another topic. -/
  extract : Notification → Option α

namespace Selector

/-- What the envelopes of a stream response carry of the topic, in order. -/
def extractAll {α : Type} (s : Selector α) (r : StreamResponse) : List α :=
  r.notifications.filterMap s.extract

/-- Configuration changes. -/
def config : Selector ConfigNotification :=
  ⟨.config, fun n => match n.payload with | some (.config p) => some p | _ => none⟩

/-- Interface changes. -/
def interface : Selector InterfaceNotification :=
  ⟨.interface, fun n => match n.payload with | some (.interface p) => some p | _ => none⟩

/-- Route changes. -/
def route : Selector RouteNotification :=
  ⟨.route, fun n => match n.payload with | some (.route p) => some p | _ => none⟩

/-- Next hop group changes. -/
def nextHopGroup : Selector NextHopGroupNotification :=
  ⟨.nextHopGroup, fun n => match n.payload with | some (.nextHopGroup p) => some p | _ => none⟩

/-- Network instance changes. -/
def networkInstance : Selector NetworkInstanceNotification :=
  ⟨.networkInstance, fun n => match n.payload with | some (.networkInstance p) => some p | _ => none⟩

/-- Neighbour changes. -/
def lldpNeighbor : Selector LldpNeighborNotification :=
  ⟨.lldpNeighbor, fun n => match n.payload with | some (.lldpNeighbor p) => some p | _ => none⟩

/-- Forwarding detection session changes. -/
def bfdSession : Selector BfdSessionNotification :=
  ⟨.bfdSession, fun n => match n.payload with | some (.bfdSession p) => some p | _ => none⟩

/-- Application changes. -/
def appId : Selector AppIdNotification :=
  ⟨.appId, fun n => match n.payload with | some (.appId p) => some p | _ => none⟩

/-- The same selection with each notification under another name. -/
def map {α β : Type} (f : α → β) (s : Selector α) : Selector β :=
  ⟨s.topic, fun n => (s.extract n).map f⟩

/-- Another name for the notifications leaves the topic. -/
@[simp] theorem topic_map {α β : Type} (f : α → β) (s : Selector α) : (s.map f).topic = s.topic := rfl

end Selector

/-- The selector of a topic that keeps each notification under its topic. -/
def Topic.selector : Topic → Selector Payload
  | .config => Selector.config.map .config
  | .interface => Selector.interface.map .interface
  | .route => Selector.route.map .route
  | .nextHopGroup => Selector.nextHopGroup.map .nextHopGroup
  | .networkInstance => Selector.networkInstance.map .networkInstance
  | .lldpNeighbor => Selector.lldpNeighbor.map .lldpNeighbor
  | .bfdSession => Selector.bfdSession.map .bfdSession
  | .appId => Selector.appId.map .appId

/-- The selector of a topic is for that topic. -/
@[simp] theorem Topic.topic_selector (t : Topic) : t.selector.topic = t := by cases t <;> rfl

end NetworkAgent
