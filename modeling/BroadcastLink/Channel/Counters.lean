/-!
# What a notify channel counts

Counts of sixty-four bits that start over behind their largest value. The first connection is no
reconnection, so reconnections are one fewer than connections.
-/

namespace BroadcastLink

/-- The running counts of a channel. -/
structure Counters where
  connected : Bool := false
  connections : UInt64 := 0
  bytesReceived : UInt64 := 0
  packetsDecoded : UInt64 := 0
  packetsDropped : UInt64 := 0
  writesDropped : UInt64 := 0
  deriving DecidableEq, Repr

/-- The counts of a channel at one moment. -/
structure ChannelStats where
  connected : Bool
  bytesReceived : UInt64
  packetsDecoded : UInt64
  packetsDropped : UInt64
  reconnects : UInt64
  writesDropped : UInt64
  deriving DecidableEq, Repr

namespace Counters

/-- Note that the connection is there, or gone. -/
def setConnected (c : Counters) (connected : Bool) : Counters :=
  { c with
    connected := connected
    connections := if connected then c.connections + 1 else c.connections }

/-- Note received bytes. -/
def addBytes (c : Counters) (n : Nat) : Counters :=
  { c with bytesReceived := c.bytesReceived + UInt64.ofNat n }

/-- Note a packet that gave an event. -/
def packetDecoded (c : Counters) : Counters := { c with packetsDecoded := c.packetsDecoded + 1 }

/-- Note a packet that could not be decoded. -/
def packetDropped (c : Counters) : Counters := { c with packetsDropped := c.packetsDropped + 1 }

/-- Note a batch that could not be written. -/
def writeDropped (c : Counters) : Counters := { c with writesDropped := c.writesDropped + 1 }

/-- The counts as they stand. -/
def stats (c : Counters) : ChannelStats where
  connected := c.connected
  bytesReceived := c.bytesReceived
  packetsDecoded := c.packetsDecoded
  packetsDropped := c.packetsDropped
  reconnects := if c.connections = 0 then 0 else c.connections - 1
  writesDropped := c.writesDropped

end Counters

end BroadcastLink
