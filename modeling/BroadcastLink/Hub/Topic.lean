/-!
# The messages of a topic

A topic numbers its messages and keeps the latest ones, as many as it has room for. A reader knows
the number of the message it wants next. Once that message is gone, the reader is told how many it
missed and goes on with the oldest one kept.
-/

namespace BroadcastLink

/-- The least power of two that is not below `n`. -/
def powerOfTwoFrom (n : Nat) : Nat := go n 1
where
  /-- Double as long as `n` is not reached. -/
  go : Nat → Nat → Nat
    | 0, p => p
    | fuel + 1, p => if n ≤ p then p else go fuel (2 * p)

/-- A topic: its room, how many messages it was sent, and the latest of them, newest first. -/
structure Topic where
  room : Nat
  sent : Nat := 0
  kept : List String := []
  deriving DecidableEq, Repr

namespace Topic

/-- What a reader finds. -/
inductive Found where
  | message (payload : String)
  | missed (n : Nat)
  | nothing
  deriving DecidableEq, Repr

/-- A topic that keeps `capacity` messages, rounded up to a power of two. -/
def ofCapacity (capacity : Nat) : Topic := { room := powerOfTwoFrom capacity }

/-- Send a message. -/
def send (t : Topic) (payload : String) : Topic :=
  { t with sent := t.sent + 1, kept := (payload :: t.kept).take t.room }

/-- The message with a number, if it is still kept. -/
def message? (t : Topic) (number : Nat) : Option String :=
  if number < t.sent then t.kept[t.sent - 1 - number]? else none

/-- The number of the oldest message kept. -/
def oldest (t : Topic) : Nat := t.sent - t.room

/-- Read the message with a number: what is found, and the number to read next. -/
def read (t : Topic) (number : Nat) : Found × Nat :=
  if number < t.oldest then (.missed (t.oldest - number), t.oldest)
  else match t.message? number with
    | some payload => (.message payload, number + 1)
    | none => (.nothing, number)

end Topic

end BroadcastLink
