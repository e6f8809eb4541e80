import BroadcastLink.Event
import BroadcastLink.Decimal.Layout
import BroadcastLink.Json.Quoted

/-!
# What subscribers are given

Meters travel as bare hexadecimal digits. Every other event is one object with the kind under
`type`, the index under `uid` if it names a record and under `num` otherwise, and the value under
`val`; what an event does not have is left out.
-/

namespace BroadcastLink

/-- A value inside a payload. -/
def EventValue.text : EventValue → String
  | .float bits => Decimal.singleText bits.toNat
  | .uint n => Decimal.natText n.toNat
  | .hex digits => Json.quote digits

namespace Event

/-- The fields of an event's object, in writing order, each with its value as text. -/
def fields (e : Event) : List (String × String) :=
  let index := match e.index with
    | some n => [(if e.kind.isRecordEvent then "uid" else "num", Decimal.natText n.toNat)]
    | none => []
  let value := match e.value with
    | some v => [("val", v.text)]
    | none => []
  ("type", Json.quote e.kind.tag) :: (index ++ value)

/-- The payload of an event. -/
def payload (e : Event) : String :=
  match e.kind, e.value with
  | .meters, some (.hex digits) => digits
  | _, _ => Json.object e.fields

end Event

end BroadcastLink
