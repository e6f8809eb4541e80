/-!
# Packets of the notify stream

A packet is a type byte and a payload. On the wire it is a NUL, the type, the length of the payload
in two bytes, high byte first, and the payload.
-/

namespace BroadcastLink

/-- Bytes in the order they travel. -/
abbrev Bytes := List UInt8

/-- A complete packet. -/
structure Packet where
  kind : UInt8
  payload : Bytes
  deriving DecidableEq, Repr

/-- The byte every packet starts with. -/
def packetDelimiter : UInt8 := 0

/-- How many bytes stand before the payload. -/
def packetHeaderLength : Nat := 4

/-- The number that two bytes spell, high byte first. -/
def wordOf (high low : UInt8) : Nat := 256 * high.toNat + low.toNat

/-- The two bytes of a length, of which only the low sixteen bits fit. -/
def lengthBytes (n : Nat) : Bytes := [UInt8.ofNat (n / 256), UInt8.ofNat n]

/-- The wire form of a packet. -/
def Packet.encode (p : Packet) : Bytes :=
  packetDelimiter :: p.kind :: (lengthBytes p.payload.length ++ p.payload)

end BroadcastLink
