import BroadcastLink.Pool

/-!
# Draining

Draining closes a pool to new loans, waits for lent sessions until its deadline, and closes what is
idle. It looks again whenever the signal tells it to, and after a nap in any case.
-/

namespace BroadcastLink.Pool

/-- How long draining sleeps between two looks. -/
def drainNap : Duration := .ofMillis 50

/-- All is in, or time is up: close what is idle, and give out no more places. -/
def finishDrain (p : Pool) (call : CallId) : Pool :=
  let p := { p with drain := none }.clear
  { p with isFinished := true }.ask (.drained call)

/-- Look whether any session is still out; if so, wait. Told on arrival, draining would look again
and find the same. -/
def lookForLent (p : Pool) (d : Drain) (now : Instant) : Pool :=
  let p := p.enter .drainer
  if p.live ≤ p.idle.length then (p.leave .drainer).finishDrain d.call
  else
    let available :=
      if p.available.mayGo .drainer then (p.available.hear .drainer).enter .drainer else p.available
    let d := { d with nap := drainNap.after now, looks := d.looks + 1 }
    { p with available := available, drain := some d }

/-- A call to drain the pool. One that is closed already is left as it is. -/
def startDrain (p : Pool) (call : CallId) (now : Instant) : Pool :=
  if p.isClosed then p.ask (.drained call)
  else
    let p := { p with isClosed := true }.ask .wakeUpkeep
    p.tellAll.lookForLent ⟨call, p.settings.drainTimeout.after now, now, 0⟩ now

/-- What draining wants. -/
def drainWant (p : Pool) : Want :=
  if p.available.mayGo .drainer then .nothing else .patience

/-- When draining looks again, and when it stops waiting. -/
def drainAlarms (p : Pool) : List Alarm :=
  match p.drain with
  | some d => [⟨d.nap, .nap d.looks⟩, ⟨d.deadline, .returns⟩]
  | none => []

/-- Draining was told, or its nap is over: it looks again. -/
def resumeDrain (p : Pool) (now : Instant) : Pool :=
  match p.drain with
  | some d =>
    if p.available.mayGo .drainer then
      { p with available := p.available.hear .drainer }.lookForLent d now
    else if d.nap ≤ now then (p.leave .drainer).lookForLent d now
    else p
  | none => p

/-- Draining waited long enough. -/
def drainExpired (p : Pool) (now : Instant) : Pool :=
  match p.drain with
  | some d => if d.deadline ≤ now then (p.leave .drainer).finishDrain d.call else p
  | none => p

/-- The call to drain was given up; the pool stays closed. -/
def cancelDrain (p : Pool) (call : CallId) : Pool :=
  match p.drain with
  | some d => if d.call = call then { p.leave .drainer with drain := none } else p
  | none => p

/-- A pool that nobody holds any more and whose upkeep is over lets its idle sessions go. -/
def abandon (p : Pool) : Pool := p.idle.foldl discard { p with idle := [] }

end BroadcastLink.Pool
