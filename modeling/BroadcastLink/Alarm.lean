import BroadcastLink.Duration

/-!
# Alarms

A machine that has to wait says until when, and what the wait is for. Two waits of one machine that
end together are still two: the later one gets its alarm when it begins, and does not inherit the
place of the earlier one among those that ring at the same time.
-/

namespace BroadcastLink

/-- What a machine waits for no longer than its alarm. -/
inductive Wait where
  /-- A response on a session, when so many are still to come. -/
  | response (session left : Nat)
  /-- A connection for a session of this number. -/
  | connection (session : Nat)
  /-- The end of a pause. -/
  | pause
  /-- A session to be lent. -/
  | loan
  /-- The next round of upkeep. -/
  | round
  /-- The end of one of a drain's naps. -/
  | nap (number : Nat)
  /-- Lent sessions to come back. -/
  | returns
  /-- A write to be taken. -/
  | room
  /-- A studio to be up. -/
  | launch
  deriving DecidableEq, Repr

/-- The end of a machine's patience. -/
structure Alarm where
  due : Instant
  wait : Wait
  deriving DecidableEq, Repr

/-- Has the time of an alarm come? -/
def Alarm.hasRung (a : Alarm) (now : Instant) : Bool := a.due ≤ now

end BroadcastLink
