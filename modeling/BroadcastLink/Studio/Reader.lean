import BroadcastLink.Json.Shape
import BroadcastLink.Studio.Fleet

/-!
# Reading a configuration

A document is an object whose member `studios` maps keys to studios. Fields may stand in any order
and unknown ones are skipped; host and port have to be there. A studio's name is its key.
-/

namespace BroadcastLink

open Json (Reading Reader)

/-- The fields of a studio met so far. -/
structure StudioDraft where
  name : Option String := none
  host : Option String := none
  port : Option UInt16 := none
  minPool : Option UInt64 := none
  maxPool : Option UInt64 := none
  launchCommand : Option (Option String) := none
  autoStart : Option Bool := none

namespace StudioDraft

/-- A port. -/
def readPort (cs : List Char) : Except ReadFault (Reading UInt16) := do
  let (n, rest) ← Json.readNatural UInt16.size "u16" cs
  return (UInt16.ofNat n, rest)

/-- A pool size. -/
def readSize (cs : List Char) : Except ReadFault (Reading UInt64) := do
  let (n, rest) ← Json.readNatural UInt64.size "usize" cs
  return (UInt64.ofNat n, rest)

/-- The value of a field that may be given once. -/
def field {α : Type} (old : Option α) (key : String) (read : Reader α) (cs : List Char) :
    Except ReadFault (Reading α) :=
  if old.isSome then .error (.mismatch ("duplicate field `" ++ key ++ "`"))
  else do read (← Json.readColon cs)

/-- Take in a member of a studio's object. -/
def member (d : StudioDraft) (key : String) (cs : List Char) :
    Except ReadFault (Reading StudioDraft) :=
  match key with
  | "name" => do
    let (v, rest) ← field d.name key Json.readString cs
    return ({ d with name := some v }, rest)
  | "host" => do
    let (v, rest) ← field d.host key Json.readString cs
    return ({ d with host := some v }, rest)
  | "port" => do
    let (v, rest) ← field d.port key readPort cs
    return ({ d with port := some v }, rest)
  | "minPoolSize" => do
    let (v, rest) ← field d.minPool key readSize cs
    return ({ d with minPool := some v }, rest)
  | "maxPoolSize" => do
    let (v, rest) ← field d.maxPool key readSize cs
    return ({ d with maxPool := some v }, rest)
  | "launchCommand" => do
    let (v, rest) ← field d.launchCommand key Json.readOptionalString cs
    return ({ d with launchCommand := some v }, rest)
  | "autoStart" => do
    let (v, rest) ← field d.autoStart key Json.readBool cs
    return ({ d with autoStart := some v }, rest)
  | _ => do return (d, ← Json.skipValue (← Json.readColon cs))

/-- The studio of the fields met, `absent` telling the fault of a field that has to be there. -/
def finish (d : StudioDraft) (absent : String → ReadFault) : Except ReadFault Studio := do
  let host ← d.host.elim (.error (absent "host")) .ok
  let port ← d.port.elim (.error (absent "port")) .ok
  return {
    name := d.name.getD ""
    host := host
    port := port
    minPool := d.minPool.getD 1
    maxPool := d.maxPool.getD 5
    launchCommand := d.launchCommand.getD none
    autoStart := d.autoStart.getD false }

/-- The fault of a field that an object does not have. -/
def missing (key : String) : ReadFault := .mismatch ("missing field `" ++ key ++ "`")

/-- The fault of an array of `n` elements, which is too short. -/
def tooShort (n : Nat) : ReadFault :=
  .mismatch ("invalid length " ++ Decimal.natText n
    ++ ", expected struct StudioConfig with 7 elements")

/-- A studio's object, behind its opening. -/
def ofObject (cs : List Char) : Except ReadFault (Reading Studio) := do
  let (d, rest) ← Json.readMembers member (cs.length + 1) true {} cs
  return (← d.finish missing, rest)

/-- The next element of a studio's array, if there is one. -/
def element {α : Type} (first : Bool) (read : Reader α) (cs : List Char) :
    Except ReadFault (Reading (Option α)) := do
  match ← Json.readElement first cs with
  | (false, rest) => return (none, rest)
  | (true, rest) =>
    let (v, rest) ← read rest
    return (some v, rest)

/-- A studio's array, behind its opening. -/
def ofArray (cs : List Char) : Except ReadFault (Reading Studio) := do
  let (name, cs) ← element true Json.readString cs
  let (host, cs) ← element name.isNone Json.readString cs
  if host.isNone then throw (tooShort 1)
  let (port, cs) ← element false readPort cs
  if port.isNone then throw (tooShort 2)
  let (minPool, cs) ← element false readSize cs
  let (maxPool, cs) ← element false readSize cs
  let (launchCommand, cs) ← element false Json.readOptionalString cs
  let (autoStart, cs) ← element false Json.readBool cs
  let d : StudioDraft := ⟨name, host, port, minPool, maxPool, launchCommand, autoStart⟩
  return (← d.finish missing, cs)

end StudioDraft

namespace Studio

/-- A studio. -/
def read : Reader Studio :=
  Json.readStructure "StudioConfig" StudioDraft.ofObject StudioDraft.ofArray

end Studio

namespace Fleet

/-- Take in a studio under its key. -/
def member (f : Fleet) (key : String) (cs : List Char) : Except ReadFault (Reading Fleet) := do
  let (s, rest) ← Studio.read (← Json.readColon cs)
  return (f.insert key s, rest)

/-- The studios by their keys. -/
def readStudios (cs : List Char) : Except ReadFault (Reading Fleet) :=
  match Json.skipGaps cs with
  | '\x7b' :: rest => Json.readMembers member (rest.length + 1) true {} rest
  | cs => .error (Json.unexpected "a map" cs)

/-- Take in a member of the document's object. -/
def documentMember (studios : Option Fleet) (key : String) (cs : List Char) :
    Except ReadFault (Reading (Option Fleet)) :=
  match key with
  | "studios" => do
    let (f, rest) ← StudioDraft.field studios key readStudios cs
    return (some f, rest)
  | _ => do return (studios, ← Json.skipValue (← Json.readColon cs))

/-- The document's object, behind its opening. -/
def ofObject (cs : List Char) : Except ReadFault (Reading Fleet) := do
  let (studios, rest) ← Json.readMembers documentMember (cs.length + 1) true none cs
  return (studios.getD {}, rest)

/-- The document as an array, behind its opening. -/
def ofArray (cs : List Char) : Except ReadFault (Reading Fleet) := do
  let (studios, rest) ← StudioDraft.element true readStudios cs
  return (studios.getD {}, rest)

/-- The configuration of a document. -/
def ofJson (text : String) : Except Fault Fleet :=
  match Json.readDocument (Json.readStructure "StudiosConfig" ofObject ofArray) text.toList with
  | .ok f => .ok f.named
  | .error cause => .error (.parse cause)

end Fleet

end BroadcastLink
