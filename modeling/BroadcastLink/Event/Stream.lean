import BroadcastLink.Packet.Framer
import BroadcastLink.Event.Decode
import BroadcastLink.Event.Payload

/-!
# From bytes to published events

Framing, decoding and publishing in a row. Packets that are no event change nothing about the
packets behind them.
-/

namespace BroadcastLink

/-- A payload on its way to the subscribers of a topic. -/
structure Publication where
  topic : String
  payload : String
  deriving DecidableEq, Repr

/-- What an event gives its subscribers. -/
def Event.publication (e : Event) : Publication := ⟨e.topic, e.payload⟩

/-- What a run of bytes brought: the framer behind it, and each packet's event, in order. -/
def Framer.feedEvents (f : Framer) (studio : String) (data : Bytes) :
    Framer × List (Except DecodeFault (Option Event)) :=
  let (f, packets) := f.feed data
  (f, packets.map (·.event studio))

/-- The publications among decoded packets, in order. -/
def publications (decoded : List (Except DecodeFault (Option Event))) : List Publication :=
  decoded.filterMap fun
    | .ok (some e) => some e.publication
    | _ => none

end BroadcastLink
