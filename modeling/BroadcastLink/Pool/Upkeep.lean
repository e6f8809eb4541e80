import BroadcastLink.Pool

/-!
# Upkeep

Every so often, and whenever it is asked for, a pool looks through its idle sessions: those above
the maximum go, and those idle for too long as long as the minimum stays. Then it opens sessions up
to the minimum, unless connecting has to pause.
-/

namespace BroadcastLink.Pool

/-- Sift idle sessions, given how many are open: those that stay, and those that go. -/
def sift (p : Pool) (now : Instant) : Nat → List Session → List Session × List Session
  | _, [] => ([], [])
  | live, s :: rest =>
    let stale := p.settings.softIdleTimeout.nanos < (s.idleFor now).nanos
    if p.max < live || (p.min < live && stale) then
      let (kept, gone) := sift p now (live - 1) rest
      (kept, s :: gone)
    else
      let (kept, gone) := sift p now live rest
      (s :: kept, gone)

/-- Close the idle sessions that go. -/
def evict (p : Pool) (now : Instant) : Pool :=
  let (kept, gone) := p.sift now p.live p.idle
  gone.foldl destroy { p with idle := kept }

/-- Change the bounds. Growing makes places, less those owed. Shrinking forgets free places, owes
the others, and closes idle sessions. -/
def resize (p : Pool) (min max : Nat) (now : Instant) : Pool :=
  let max := Nat.max max 1
  let old := p.max
  let p := { p with min := Nat.min min max, max := max }
  let p :=
    if old < max then
      let grow := max - old
      { p with owed := p.owed - grow, places := p.places + (grow - p.owed) }.tellAll
    else if max < old then
      let shrink := old - max
      let forgotten := Nat.min p.places shrink
      { p with places := p.places - forgotten, owed := p.owed + (shrink - forgotten) }.evict now
    else p
  p.askUpkeep

/-- Change the stage of the upkeep. -/
def putUpkeep (p : Pool) (stage : UpkeepStage) : Pool :=
  { p with upkeep := { p.upkeep with stage := stage } }

/-- A round of upkeep is over. -/
def restUpkeep (p : Pool) : Pool := { p with upkeep := p.upkeep.rest }

/-- Open one more session if the minimum asks for it and nothing stands in the way; otherwise wait.
-/
def fill (p : Pool) (now : Instant) : Pool :=
  if p.isClosed || p.min ≤ p.live || (p.restUntil? now).isSome || !p.hasPlace then
    p.restUpkeep
  else
    let stage := .dialling p.nextId (p.settings.connectTimeout.after now)
    { p with places := p.places - 1 }.takeId.putUpkeep stage

/-- How late upkeep may come without losing its pace. -/
def upkeepSlack : Duration := .ofMillis 5

/-- When upkeep is due after it came at `now`: an interval later, and rounds that were missed are
left out. -/
def nextDue (p : Pool) (now : Instant) : Instant :=
  let interval := p.settings.evictionInterval
  if upkeepSlack.after p.upkeep.due < now then
    interval.after now - (now - p.upkeep.due) % interval.nanos
  else interval.after p.upkeep.due

/-- Is there upkeep to do? -/
def needsUpkeep (p : Pool) (now : Instant) : Bool :=
  match p.upkeep.stage with
  | .waiting => p.isClosed || p.upkeep.due ≤ now || p.upkeep.asked
  | _ => false

/-- One round of upkeep. In a closed pool there is none any more. -/
def tend (p : Pool) (now : Instant) : Pool :=
  match p.upkeep.stage with
  | .waiting =>
    if p.isClosed then p.putUpkeep .over
    else if p.upkeep.due ≤ now then
      ({ p with upkeep := p.upkeep.begin (p.nextDue now) }.evict now).fill now
    else if p.upkeep.asked then ({ p with upkeep := p.upkeep.meet }.evict now).fill now
    else p
  | _ => p

/-- Connecting ahead of need succeeded or failed. A session goes to the idle ones; then one more is
opened if need be. -/
def upkeepDialled (p : Pool) (now : Instant) (outcome : Except IoFault LineId) : Pool :=
  match p.upkeep.stage with
  | .dialling id _ =>
    match outcome with
    | .ok line =>
      let s := p.openedSession id line now
      let p := p.noteOpened
      { p with idle := p.idle ++ [s] }.tellOne.fill now
    | .error _ => ((p.noteFailure now).freePlace false).restUpkeep
  | _ => p

/-- What the upkeep wants. -/
def upkeepWant (p : Pool) (now : Instant) : Want :=
  match p.upkeep.stage with
  | .waiting => if p.needsUpkeep now then .nothing else .patience
  | .dialling _ _ => .dial p.host p.port
  | .sifting | .over => .patience

/-- When the stage of the upkeep runs out of time. While connecting, the alarm for the next round
stays set until it has rung. -/
def upkeepAlarms (p : Pool) (now : Instant) : List Alarm :=
  let round : Alarm := ⟨p.upkeep.due, .round⟩
  match p.upkeep.stage with
  | .waiting => [round]
  | .dialling id deadline =>
    ⟨deadline, .connection id⟩ :: if p.upkeep.isSet && now < p.upkeep.due then [round] else []
  | .sifting | .over => []

/-- Connecting ahead of need took too long. -/
def upkeepExpired (p : Pool) (now : Instant) : Pool :=
  match p.upkeep.stage with
  | .dialling _ deadline =>
    if deadline ≤ now then p.upkeepDialled now (.error (.bare .timedOut)) else p
  | _ => p

end BroadcastLink.Pool
