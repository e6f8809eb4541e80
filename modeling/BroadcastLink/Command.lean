import BroadcastLink.Fault
import BroadcastLink.Packet
import BroadcastLink.Text.Blank
import BroadcastLink.Text.Utf8

/-!
# Commands

A command is one line. Two words would switch a connection into push mode and are kept off command
sessions; a command with a line break would be more than one line and is kept off every connection.
-/

namespace BroadcastLink

/-- The word that switches a connection to pushing events. -/
def notifyWord : String := "notify"

/-- The word that switches a connection to pushing meters. -/
def meterWord : String := "vu"

/-- The words that belong to the notify channel. -/
def reservedWords : List String := [notifyWord, meterWord]

/-- Does the first word of a command belong to the notify channel, in any case of its letters? -/
def isReserved (command : String) : Bool :=
  let word := Text.firstWord command.toList
  reservedWords.any fun r => Text.sameIgnoringCase r.toList word

/-- Would the command be more than one line? -/
def breaksLine (command : String) : Bool := command.toList.any fun c => c == '\n' || c == '\r'

/-- The bytes of commands, each ended by a line break. -/
def lineBytes (commands : List String) : Bytes :=
  commands.flatMap fun c => Text.encode c ++ [0x0A]

/-- The bytes of a batch for a command session, or the first command it may not contain. -/
def sessionPayload (commands : List String) : Except Fault Bytes :=
  match commands.find? fun c => isReserved c || breaksLine c with
  | some c => .error (.protocolMisuse c)
  | none => .ok (lineBytes commands)

/-- The bytes of a batch for the notify channel, or the first command it may not contain. -/
def realtimePayload (commands : List String) : Except Fault Bytes :=
  match commands.find? breaksLine with
  | some c => .error (.protocolMisuse c)
  | none => .ok (lineBytes commands)

/-- One command or a batch for the same session. -/
inductive Commands where
  | single (command : String)
  | batch (commands : List String)
  deriving DecidableEq, Repr

/-- The commands in sending order. -/
def Commands.toList : Commands → List String
  | .single c => [c]
  | .batch cs => cs

/-- How commands are sent and their response returned: over the notify channel without waiting, or
with the response as it is instead of written for markup. -/
structure ExecuteOptions where
  realtime : Bool := false
  raw : Bool := false
  deriving DecidableEq, Repr

namespace ExecuteOptions

/-- Over the notify channel. -/
def fireAndForget : ExecuteOptions := ⟨true, false⟩

/-- With the response as it is. -/
def unescaped : ExecuteOptions := ⟨false, true⟩

end ExecuteOptions

end BroadcastLink
