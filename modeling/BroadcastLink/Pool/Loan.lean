import BroadcastLink.Pool

/-!
# Lent sessions

Whoever borrowed a session runs exchanges on it and gives it back. A session that is not idle is not
taken back but closed, and so is one that takes up no place of any pool, and any that comes back to
a closed pool or to one that has too many open.
-/

namespace BroadcastLink.Pool

/-- Change a lent session. -/
def putLoan (p : Pool) (call : CallId) (s : Session) : Pool :=
  { p with loans := p.loans.put call s }

/-- Take a session back. -/
def takeBack (p : Pool) (s : Session) : Pool :=
  if s.pool.isNone then p.destroy s
  else if p.isClosed || !s.state.isReusable || p.max < p.live then p.destroy s
  else { p with idle := p.idle ++ [s] }.tellOne

/-- The loan of a call is over. -/
def endLoan (p : Pool) (call : CallId) : Pool := { p with loans := p.loans.erase call }

/-- Give a lent session back. -/
def release (p : Pool) (call : CallId) : Pool :=
  match p.loans.get? call with
  | some s => (p.endLoan call).takeBack s
  | none => p

/-- Give a lent session back to be closed. -/
def destroyLoan (p : Pool) (call : CallId) : Pool :=
  match p.loans.get? call with
  | some s => (p.endLoan call).destroy s
  | none => p

/-- A lent session is lost. -/
def loseLoan (p : Pool) (call : CallId) : Pool :=
  match p.loans.get? call with
  | some s => (p.endLoan call).discard s
  | none => p

/-- Begin an exchange on a lent session, unless it is over at once. -/
def beginOn (p : Pool) (call : CallId) (begin : Session → Begun) :
    Pool × Option (Except Fault String) :=
  match p.loans.get? call with
  | some s =>
    match begin s with
    | .over outcome => (p, some outcome)
    | .inFlight s => (p.putLoan call s, none)
  | none => (p, none)

/-- The exchange on a lent session moved on. -/
def hearLoan (p : Pool) (call : CallId) (now : Instant) (stimulus : Stimulus) :
    Pool × Option (Except Fault String) :=
  match p.loans.get? call with
  | some s =>
    let (s, outcome) := s.react now stimulus
    (p.putLoan call s, outcome)
  | none => (p, none)

/-- The exchange on a lent session was given up. -/
def abandonLoan (p : Pool) (call : CallId) : Pool :=
  match p.loans.get? call with
  | some s => p.putLoan call s.abandon
  | none => p

/-- A lent session may only be destroyed. -/
def invalidateLoan (p : Pool) (call : CallId) : Pool :=
  match p.loans.get? call with
  | some s => p.putLoan call s.invalidate
  | none => p

end BroadcastLink.Pool
