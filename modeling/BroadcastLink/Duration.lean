import BroadcastLink.Decimal.Layout

/-!
# Durations

A duration counts nanoseconds. Its text uses the largest unit with a nonzero whole part and carries
the rest as a fraction without trailing zeros.
-/

namespace BroadcastLink

/-- A span of time. -/
structure Duration where
  nanos : Nat
  deriving DecidableEq, Repr, Inhabited

/-- A point of the clock, in nanoseconds since the clock started. -/
abbrev Instant := Nat

namespace Duration

/-- Whole milliseconds. -/
def ofMillis (n : Nat) : Duration := ⟨n * 1000000⟩

/-- Whole seconds. -/
def ofSecs (n : Nat) : Duration := ⟨n * 1000000000⟩

/-- The whole milliseconds in a duration. -/
def millis (d : Duration) : Nat := d.nanos / 1000000

/-- The point a duration after another point. -/
def after (d : Duration) (start : Instant) : Instant := start + d.nanos

/-- Digits behind the point: `width` of them, the trailing zeros dropped; nothing if all are zero.
-/
def fractionChars (width rest : Nat) : List Char :=
  let digits := Decimal.digitChars rest
  let padded := Decimal.zeros (width - digits.length) ++ digits
  match (padded.reverse.dropWhile (· == '0')).reverse with
  | [] => []
  | kept => '.' :: kept

/-- A count of a unit worth `10 ^ width` nanoseconds. -/
def inUnit (d : Duration) (width : Nat) (unit : String) : String :=
  Decimal.natText (d.nanos / Nat.pow 10 width)
    ++ String.ofList (fractionChars width (d.nanos % Nat.pow 10 width)) ++ unit

/-- The text of a duration. -/
def text (d : Duration) : String :=
  if 1000000000 ≤ d.nanos then d.inUnit 9 "s"
  else if 1000000 ≤ d.nanos then d.inUnit 6 "ms"
  else if 1000 ≤ d.nanos then d.inUnit 3 "µs"
  else Decimal.natText d.nanos ++ "ns"

end Duration

end BroadcastLink
