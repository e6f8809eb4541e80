import BroadcastLink.Fault
import BroadcastLink.Ident
import BroadcastLink.Packet
import BroadcastLink.Studio

/-!
# What the machines want of the world

A machine that cannot go on by itself says what it wants: bytes written or read on a connection, a
new connection, a studio launched. Whoever runs it answers with what came of it.
-/

namespace BroadcastLink

/-- What a machine wants next. -/
inductive Want where
  /-- Write these bytes, or as many as the connection takes. -/
  | write (line : LineId) (bytes : Bytes)
  /-- Push out what was written. -/
  | flush (line : LineId)
  /-- Read what has arrived, at most `limit` bytes if there is a limit. -/
  | read (line : LineId) (limit : Option Nat)
  | dial (host : String) (port : UInt16)
  | launch (studio : Studio)
  /-- Nothing: it can go on by itself. -/
  | nothing
  /-- To be woken, or for time to pass. -/
  | patience
  deriving DecidableEq, Repr

end BroadcastLink
