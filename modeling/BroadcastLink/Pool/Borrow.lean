import BroadcastLink.Pool

/-!
# Borrowing a session

A caller gets in line for the signal before it looks, so that nothing that comes free while it looks
is missed. It takes the session idle longest and checks it; without one it takes a free place and
connects, pausing first if connecting failed shortly before; without either it waits. Whatever
fails, it starts over, until its deadline.
-/

namespace BroadcastLink.Pool

/-- Where a caller stands, with its stage changed. -/
def putBorrow (p : Pool) (call : CallId) (b : Borrow) : Pool :=
  { p with borrows := p.borrows.put call b }

/-- A caller is done: it leaves the line and is a caller no more. -/
def endBorrow (p : Pool) (call : CallId) : Pool :=
  let p := p.leave (.caller call)
  { p with borrows := p.borrows.erase call }

/-- A caller goes without a session. -/
def refuse (p : Pool) (call : CallId) (fault : Fault) : Pool :=
  (p.endBorrow call).ask (.refused call fault)

/-- A caller gets a session. -/
def lend (p : Pool) (call : CallId) (s : Session) : Pool :=
  let p := p.endBorrow call
  { p with loans := p.loans.put call s }.ask (.lent call s.id)

/-- Connect a session on a place already taken. -/
def dial (p : Pool) (call : CallId) (b : Borrow) (now : Instant) : Pool :=
  let stage := .dialling p.nextId (p.settings.connectTimeout.after now)
  p.takeId.putBorrow call { b with stage := stage }

/-- Wait for the signal. Told on arrival, the caller would look again, find the same and get in line
anew. -/
def park (p : Pool) (call : CallId) (b : Borrow) : Pool :=
  let available :=
    if p.available.mayGo (.caller call) then (p.available.hear (.caller call)).enter (.caller call)
    else p.available
  { p with available := available }.putBorrow call { b with stage := .parked, counts := true }

/-- Without an idle session: connect on a free place, or wait unless too many wait already. -/
def connectOrPark (p : Pool) (call : CallId) (b : Borrow) (now : Instant) : Pool :=
  if p.hasPlace then
    let p := { p with places := p.places - 1 }
    match p.restUntil? now with
    | some wakeAt => p.putBorrow call { b with stage := .resting wakeAt }
    | none => p.dial call b now
  else if !b.counts && 0 < p.settings.maxWaiting && p.settings.maxWaiting ≤ p.waiting then
    p.refuse call (.poolExhausted p.waiting)
  else p.park call b

/-- Look for a session among the idle ones, then for a place. -/
def seekAmong (p : Pool) (call : CallId) (b : Borrow) (now : Instant) : List Session → Pool
  | [] => ({ p with idle := [] }.enter (.caller call)).connectOrPark call b now
  | s :: rest =>
    let p := { p with idle := rest }.enter (.caller call)
    match s.check p.settings.validationTimeout with
    | .inFlight s => p.putBorrow call { b with stage := .checking s }
    | .over _ => ((p.destroy s).leave (.caller call)).seekAmong call b now rest

/-- Start over, unless the pool was closed. -/
def seek (p : Pool) (call : CallId) (b : Borrow) (now : Instant) : Pool :=
  if p.isClosed then p.refuse call .poolClosed else p.seekAmong call b now p.idle

/-- A call for a session. -/
def acquire (p : Pool) (call : CallId) (now : Instant) : Pool :=
  if p.isClosed then p.ask (.refused call .poolClosed)
  else
    let b : Borrow := ⟨.parked, p.settings.acquireTimeout.after now, false⟩
    (p.putBorrow call b).seek call b now

/-! ## Going on -/

/-- The session under check moved on: it is lent if it passes, replaced if it fails. -/
def hearCheck (p : Pool) (call : CallId) (now : Instant) (stimulus : Stimulus) : Pool :=
  match p.borrows.get? call with
  | some ⟨.checking s, deadline, counts⟩ =>
    let b : Borrow := ⟨.parked, deadline, counts⟩
    match s.react now stimulus with
    | (s, none) => p.putBorrow call { b with stage := .checking s }
    | (s, some (.ok _)) => p.lend call s
    | (s, some (.error _)) => ((p.destroy s).leave (.caller call)).seek call b now
  | _ => p

/-- The pause before connecting is over. -/
def rested (p : Pool) (call : CallId) (now : Instant) : Pool :=
  match p.borrows.get? call with
  | some ⟨.resting wakeAt, deadline, counts⟩ =>
    if wakeAt ≤ now then p.dial call ⟨.parked, deadline, counts⟩ now else p
  | _ => p

/-- Connecting succeeded or failed. -/
def dialled (p : Pool) (call : CallId) (now : Instant) (outcome : Except IoFault LineId) : Pool :=
  match p.borrows.get? call with
  | some ⟨.dialling id _, deadline, counts⟩ =>
    match outcome with
    | .ok line => p.noteOpened.lend call (p.openedSession id line now)
    | .error _ =>
      let p := ((p.noteFailure now).freePlace false).leave (.caller call)
      p.seek call ⟨.parked, deadline, counts⟩ now
  | _ => p

/-- A parked caller who was told goes on. -/
def resume (p : Pool) (call : CallId) (now : Instant) : Pool :=
  match p.borrows.get? call with
  | some ⟨.parked, deadline, counts⟩ =>
    if p.available.mayGo (.caller call) then
      let p := { p with available := p.available.hear (.caller call) }
      p.seek call ⟨.parked, deadline, counts⟩ now
    else p
  | _ => p

/-- Let go of what a caller holds: its session first, or its place. -/
def letGo (p : Pool) : BorrowStage → Pool
  | .checking s => p.discard s
  | .resting _ | .dialling _ _ => p.freePlace false
  | .parked => p

/-- A caller is gone, whatever it was at. -/
def cancelBorrow (p : Pool) (call : CallId) : Pool :=
  match p.borrows.get? call with
  | some b => (p.letGo b.stage).endBorrow call
  | none => p

/-- A caller's time ran out. -/
def borrowExpired (p : Pool) (call : CallId) (now : Instant) : Pool :=
  match p.borrows.get? call with
  | some b =>
    if b.deadline ≤ now then
      (p.cancelBorrow call).ask (.refused call (.acquireTimeout p.settings.acquireTimeout))
    else p
  | none => p

/-- What a caller wants. -/
def borrowWant (p : Pool) (call : CallId) : Want :=
  match p.borrows.get? call with
  | some ⟨.checking s, _, _⟩ => s.want
  | some ⟨.dialling _ _, _, _⟩ => .dial p.host p.port
  | some ⟨.parked, _, _⟩ => if p.available.mayGo (.caller call) then .nothing else .patience
  | _ => .patience

/-- When a caller runs out of time, at its stage and altogether. -/
def borrowAlarms (p : Pool) (call : CallId) : List Alarm :=
  match p.borrows.get? call with
  | some b => b.stage.alarm?.toList ++ [⟨b.deadline, .loan⟩]
  | none => []

/-- The stage of a caller ran out of time. -/
def stageExpired (p : Pool) (call : CallId) (now : Instant) : Pool :=
  match p.borrows.get? call with
  | some ⟨.checking _, _, _⟩ => p.hearCheck call now .expired
  | some ⟨.resting _, _, _⟩ => p.rested call now
  | some ⟨.dialling _ deadline, _, _⟩ =>
    if deadline ≤ now then p.dialled call now (.error (.bare .timedOut)) else p
  | _ => p

end BroadcastLink.Pool
