import BroadcastLink.Event.Stream
import BroadcastLink.Hub.Topic
import BroadcastLink.Roster
import BroadcastLink.Settings

/-!
# The hub

Topics come into being with their first subscriber, and sweeping takes away those that have none
left. A subscriber reads what its topic was sent since it subscribed. Messages for nobody are
dropped. When the hub is gone, subscribers may still read what was kept for them.
-/

namespace BroadcastLink

/-- A subscription: its topic and the number of the message it reads next. -/
structure Subscription where
  topic : String
  next : Nat
  deriving DecidableEq, Repr

/-- What a subscriber receives. -/
inductive Receipt where
  | message (publication : Publication)
  | lagged (n : Nat)
  | empty
  | closed
  deriving DecidableEq, Repr

/-- The hub: its topics by name, and its subscriptions by the names their owners gave them. -/
structure Hub where
  settings : HubSettings := {}
  topics : Roster String Topic := {}
  subscriptions : Roster String Subscription := {}
  isOpen : Bool := true
  deriving DecidableEq, Repr

namespace Hub

/-- How many subscribers a topic has. -/
def subscriberCount (h : Hub) (topic : String) : Nat :=
  h.subscriptions.values.countP fun s => s.topic == topic

/-- How many topics there are. -/
def topicCount (h : Hub) : Nat := h.topics.size

/-- The topic of a name, or a new one. -/
def topicNamed (h : Hub) (topic : String) : Topic :=
  (h.topics.get? topic).getD (.ofCapacity h.settings.channelCapacity)

/-- Subscribe to what a topic is sent from now on, in place of an earlier subscription of that
name. -/
def subscribe (h : Hub) (name topic : String) : Hub :=
  let t := h.topicNamed topic
  { h with
    topics := h.topics.put topic t
    subscriptions := h.subscriptions.put name ⟨topic, t.sent⟩ }

/-- Give up a subscription. -/
def unsubscribe (h : Hub) (name : String) : Hub :=
  { h with subscriptions := h.subscriptions.erase name }

/-- Send a payload to the subscribers of a topic, and tell how many there are. -/
def send (h : Hub) (topic payload : String) : Hub × Nat :=
  match h.topics.get? topic, h.subscriberCount topic with
  | none, _ => (h, 0)
  | some _, 0 => (h, 0)
  | some t, n => ({ h with topics := h.topics.put topic (t.send payload) }, n)

/-- Send a publication. -/
def publish (h : Hub) (p : Publication) : Hub × Nat := h.send p.topic p.payload

/-- Read on in a subscription. -/
def receive (h : Hub) (name : String) : Hub × Option Receipt :=
  match h.subscriptions.get? name with
  | none => (h, none)
  | some s =>
    let (found, next) := (h.topicNamed s.topic).read s.next
    let receipt := match found with
      | .message payload => .message ⟨s.topic, payload⟩
      | .missed n => .lagged n
      | .nothing => if h.isOpen then .empty else .closed
    ({ h with subscriptions := h.subscriptions.put name { s with next := next } }, some receipt)

/-- Take away the topics without subscribers. -/
def sweep (h : Hub) : Hub :=
  { h with topics := h.topics.filter fun topic _ => 0 < h.subscriberCount topic }

/-- The hub is gone. -/
def close (h : Hub) : Hub := { h with isOpen := false }

end Hub

end BroadcastLink
