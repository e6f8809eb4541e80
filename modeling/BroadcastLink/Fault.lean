import BroadcastLink.Duration
import BroadcastLink.Text.Hex

/-!
# What can go wrong

Each fault is named for its cause and carries what its message tells. Faults that the link repairs
by itself, such as a lost notify connection, are faults too, but never reach a caller.
-/

namespace BroadcastLink

/-- The kinds of input and output failure. -/
inductive IoKind where
  | connectionReset
  | brokenPipe
  | timedOut
  | unexpectedEnd
  | invalidData
  | permissionDenied
  | connectionRefused
  | connectionAborted
  | notConnected
  | writeZero
  | other
  deriving DecidableEq, Repr

/-- The description of a kind. -/
def IoKind.describe : IoKind → String
  | .connectionReset => "connection reset"
  | .brokenPipe => "broken pipe"
  | .timedOut => "timed out"
  | .unexpectedEnd => "unexpected end of file"
  | .invalidData => "invalid data"
  | .permissionDenied => "permission denied"
  | .connectionRefused => "connection refused"
  | .connectionAborted => "connection aborted"
  | .notConnected => "not connected"
  | .writeZero => "write zero"
  | .other => "other error"

/-- An input or output failure: a bare kind, a text of its own, or a code of the operating system
with the text that belongs to it. -/
inductive IoFault where
  | bare (kind : IoKind)
  | custom (text : String)
  | system (text : String) (code : Nat)
  deriving DecidableEq, Repr

/-- The text of a failure. -/
def IoFault.message : IoFault → String
  | .bare kind => kind.describe
  | .custom text => text
  | .system text code => text ++ " (os error " ++ Decimal.natText code ++ ")"

/-- The answer to a connection attempt at a port where nobody listens. -/
def IoFault.refused : IoFault := .system "Connection refused" 111

/-- Why a configuration document could not be read: it breaks the grammar, it ends too early, or a
value has the wrong shape. -/
inductive ReadFault where
  | malformed
  | cutShort
  | mismatch (text : String)
  deriving DecidableEq, Repr

/-- Why a framed packet is no event. -/
inductive DecodeFault where
  | unknownType (kind : UInt8)
  | truncated (kind : UInt8) (needed actual : Nat)
  deriving DecidableEq, Repr

/-- The text of a decoding fault. -/
def DecodeFault.message : DecodeFault → String
  | .unknownType kind => "unknown packet type " ++ Text.Hex.marked kind
  | .truncated kind needed actual =>
    "packet type " ++ Text.Hex.marked kind ++ " needs " ++ Decimal.natText needed
      ++ " bytes, got " ++ Decimal.natText actual

/-- The faults that an operation of the link can end with. -/
inductive Fault where
  /-- Connecting to a studio failed. -/
  | connect (addr : String) (source : IoFault)
  /-- The end of a response never arrived. -/
  | responseTimeout (limit : Duration)
  /-- An idle session failed its liveness check. -/
  | validationFailure
  /-- A command that must not travel on a command session. -/
  | protocolMisuse (command : String)
  /-- No studio of this name is configured. -/
  | unknownStudio (name : String)
  /-- The notify channel has no live connection. -/
  | notifyChannelDown (name : String)
  /-- Too many callers are waiting already. -/
  | poolExhausted (waiting : Nat)
  /-- No session became available in time. -/
  | acquireTimeout (limit : Duration)
  /-- The pool was drained. -/
  | poolClosed
  /-- The session has an exchange in flight. -/
  | sessionBusy (id : Nat)
  /-- The session may only be destroyed. -/
  | sessionInvalid (id : Nat)
  /-- The studio ended the connection. -/
  | connectionClosed
  /-- Input or output failed. -/
  | io (source : IoFault)
  /-- Starting a local studio failed. -/
  | launch (studio reason : String)
  /-- The studio has no launch command. -/
  | noLaunchCommand (name : String)
  /-- A configuration was rejected. -/
  | invalidConfig (studio reason : String)
  /-- A configuration document could not be read. -/
  | parse (cause : ReadFault)
  deriving DecidableEq, Repr

namespace Fault

/-- The text of a fault. -/
def message : Fault → String
  | .connect addr source => "connect to " ++ addr ++ " failed: " ++ source.message
  | .responseTimeout limit => "no response within " ++ limit.text
  | .validationFailure => "session failed validation"
  | .protocolMisuse command => "command `" ++ command ++ "` is reserved for the notify channel"
  | .unknownStudio name => "unknown studio: " ++ name
  | .notifyChannelDown name => "notify channel for " ++ name ++ " is down"
  | .poolExhausted waiting =>
    "pool exhausted: " ++ Decimal.natText waiting ++ " callers already waiting"
  | .acquireTimeout limit => "no session available within " ++ limit.text
  | .poolClosed => "pool is closed"
  | .sessionBusy id => "session " ++ Decimal.natText id ++ " is already awaiting a response"
  | .sessionInvalid id => "session " ++ Decimal.natText id ++ " is invalid"
  | .connectionClosed => "connection closed by studio"
  | .io source => "I/O error: " ++ source.message
  | .launch studio reason => "launch of " ++ studio ++ " failed: " ++ reason
  | .noLaunchCommand name => "studio " ++ name ++ " has no launch command"
  | .invalidConfig studio reason => "invalid configuration for " ++ studio ++ ": " ++ reason
  | .parse (.mismatch text) => "configuration parse error: " ++ text
  | .parse .malformed => "configuration parse error: malformed document"
  | .parse .cutShort => "configuration parse error: document ends early"

/-- The input or output failure behind a fault. -/
def source? : Fault → Option IoFault
  | .connect _ source => some source
  | .io source => some source
  | _ => none

end Fault

end BroadcastLink
