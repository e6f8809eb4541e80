import BroadcastLink.Event
import BroadcastLink.Fault

/-!
# From packets to events

The type byte fixes the layout of the payload. All types but the meters and the processor load start
with a reference of four bytes, high byte first; a reference whose high byte is `0xC0` addresses an
output and carries its index in the low twenty-four bits.

| type | event | value behind the reference |
|------|-------|-----------------------------|
| 0x01 | volume | single-precision number |
| 0x02 | balance | single-precision number |
| 0x03 | bus assignment | integer |
| 0x04 | player status | integer |
| 0x05 | status has to be asked for | no reference, no value |
| 0x06 | metadata of a record changed | none |
| 0x07 | recorder status has to be asked for | no reference, no value |
| 0x08 | meters | the whole payload, undecoded |
| 0x09 | recorder gain | single-precision number |
| 0x0a | position | single-precision number |
| 0x0b | record deleted | none |
| 0x0c | output delay, of outputs only | single-precision number |
| 0x10 | processor load | one byte at offset 8, no reference |
-/

namespace BroadcastLink

/-- The number that four bytes spell, high byte first. -/
def longOf (a b c d : UInt8) : UInt32 :=
  UInt32.ofNat (256 * (256 * (256 * a.toNat + b.toNat) + c.toNat) + d.toNat)

/-- Split a reference: does it address an output, and which index? -/
def splitReference (reference : UInt32) : Bool × UInt32 :=
  if reference >>> 24 = 0xC0 then (true, reference &&& 0x00FFFFFF) else (false, reference)

/-- The four bytes at the start of a payload. -/
def readReference (kind : UInt8) (payload : Bytes) : Except DecodeFault UInt32 :=
  match payload with
  | a :: b :: c :: d :: _ => .ok (longOf a b c d)
  | short => .error (.truncated kind 4 short.length)

/-- A reference and the four bytes behind it. -/
def readReferenceAndWord (kind : UInt8) (payload : Bytes) : Except DecodeFault (UInt32 × UInt32) :=
  match payload with
  | a :: b :: c :: d :: e :: f :: g :: h :: _ => .ok (longOf a b c d, longOf e f g h)
  | short => .error (.truncated kind 8 short.length)

/-- The byte at offset 8. -/
def readLoad (kind : UInt8) (payload : Bytes) : Except DecodeFault UInt8 :=
  match payload with
  | _ :: _ :: _ :: _ :: _ :: _ :: _ :: _ :: load :: _ => .ok load
  | short => .error (.truncated kind 9 short.length)

/-- The event in a packet of a studio. A packet may be understood and yet be no event: an output
delay that addresses an input. -/
def decodeEvent (studio : String) (kind : UInt8) (payload : Bytes) :
    Except DecodeFault (Option Event) :=
  let event (k : EventKind) (index : Option UInt32) (value : Option EventValue) :=
    some (Event.of studio k index value)
  match kind with
  | 0x01 => do
    let (reference, bits) ← readReferenceAndWord kind payload
    let (output, index) := splitReference reference
    return event (if output then .outputVolume else .inputVolume) (some index) (some (.float bits))
  | 0x02 => do
    let (reference, bits) ← readReferenceAndWord kind payload
    return event .balance (some reference) (some (.float bits))
  | 0x03 => do
    let (reference, n) ← readReferenceAndWord kind payload
    let (output, index) := splitReference reference
    return event (if output then .outputBus else .inputBus) (some index) (some (.uint n))
  | 0x04 => do
    let (reference, n) ← readReferenceAndWord kind payload
    return event .playerStatus (some reference) (some (.uint n))
  | 0x05 => return event .statusResync none none
  | 0x06 => do
    let reference ← readReference kind payload
    return event .metadataChanged (some reference) none
  | 0x07 => return event .recorderResync none none
  | 0x08 => return event .meters none (some (.hex (Text.Hex.encode payload)))
  | 0x09 => do
    let (reference, bits) ← readReferenceAndWord kind payload
    return event .recorderGain (some reference) (some (.float bits))
  | 0x0a => do
    let (reference, bits) ← readReferenceAndWord kind payload
    return event .position (some reference) (some (.float bits))
  | 0x0b => do
    let reference ← readReference kind payload
    return event .itemDeleted (some reference) none
  | 0x0c => do
    let (reference, bits) ← readReferenceAndWord kind payload
    let (output, index) := splitReference reference
    return if output then event .outputDelay (some index) (some (.float bits)) else none
  | 0x10 => do
    let load ← readLoad kind payload
    return event .processorLoad none (some (.uint (UInt32.ofNat load.toNat)))
  | other => .error (.unknownType other)

/-- The event in a packet of a studio. -/
def Packet.event (studio : String) (p : Packet) : Except DecodeFault (Option Event) :=
  decodeEvent studio p.kind p.payload

end BroadcastLink
