import BroadcastLink.Packet

/-!
# Studio events

What a packet of the notify stream tells: the kind of change, the channel or record it concerns, and
the new value. A single-precision value is kept as its thirty-two bits.
-/

namespace BroadcastLink

/-- The kinds of event. -/
inductive EventKind where
  | inputVolume
  | outputVolume
  | balance
  | inputBus
  | outputBus
  | playerStatus
  /-- The overall state changed; it has to be asked for. -/
  | statusResync
  | metadataChanged
  /-- The recorder state changed; it has to be asked for. -/
  | recorderResync
  | recorderGain
  | position
  | itemDeleted
  | outputDelay
  | processorLoad
  | meters
  deriving DecidableEq, Repr

namespace EventKind

/-- The name of a kind in a payload. -/
def tag : EventKind → String
  | .inputVolume => "vol"
  | .outputVolume => "outvol"
  | .balance => "bal"
  | .inputBus => "bus"
  | .outputBus => "outbus"
  | .playerStatus => "stat"
  | .statusResync => "status"
  | .metadataChanged => "meta"
  | .recorderResync => "recstatus"
  | .recorderGain => "recgain"
  | .position => "pos"
  | .itemDeleted => "delete"
  | .outputDelay => "delay"
  | .processorLoad => "cpu"
  | .meters => "vu"

/-- Does the index name a record rather than a channel? -/
def isRecordEvent : EventKind → Bool
  | .metadataChanged | .itemDeleted => true
  | _ => false

end EventKind

/-- The value of an event: the bits of a single-precision number, an integer, or raw bytes as
hexadecimal digits. -/
inductive EventValue where
  | float (bits : UInt32)
  | uint (n : UInt32)
  | hex (digits : String)
  deriving DecidableEq, Repr

/-- An event with the studio it came from and the topic it is published on. -/
structure Event where
  studio : String
  topic : String
  kind : EventKind
  index : Option UInt32
  value : Option EventValue
  deriving DecidableEq, Repr

/-- What stands before a studio's name in the topic of its meters. -/
def meterTopicMark : String := "vu_"

/-- The topic of a studio's events. -/
def eventTopic (studio : String) : String := studio

/-- The topic of a studio's meters. -/
def meterTopic (studio : String) : String := meterTopicMark ++ studio

/-- The topic on which a studio publishes events of a kind. -/
def EventKind.topic (kind : EventKind) (studio : String) : String :=
  if kind = .meters then meterTopic studio else eventTopic studio

/-- An event of a studio, on the topic of its kind. -/
def Event.of (studio : String) (kind : EventKind) (index : Option UInt32)
    (value : Option EventValue) : Event :=
  ⟨studio, kind.topic studio, kind, index, value⟩

end BroadcastLink
