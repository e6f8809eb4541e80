/-!
# Where a session stands

A session is idle, has an exchange in flight, or is invalid. There is no way back from invalid, so a
session that lost step with its connection can never be used again.
-/

namespace BroadcastLink

/-- Where a session stands. -/
inductive SessionState where
  | idle
  | awaitingResponse
  | invalid
  deriving DecidableEq, Repr

namespace SessionState

/-- May an exchange begin? -/
def canSend : SessionState → Bool
  | .idle => true
  | _ => false

/-- May the session be lent again? -/
def isReusable (s : SessionState) : Bool := s.canSend

/-- Begin an exchange, if one may begin. -/
def begin? : SessionState → Option SessionState
  | .idle => some .awaitingResponse
  | _ => none

/-- The exchange in flight got its response. -/
def complete : SessionState → SessionState
  | .awaitingResponse => .idle
  | s => s

/-- The session may only be destroyed. -/
def invalidate (_ : SessionState) : SessionState := .invalid

end SessionState

end BroadcastLink
