import BroadcastLink.Packet
import BroadcastLink.Text.Utf8

/-!
# Splitting responses at their end mark

A response is everything up to `\nars>`; what follows belongs to the next exchange. The buffer
remembers how far it has searched in vain, so that a byte is looked at a bounded number of times.
-/

namespace BroadcastLink

/-- The mark at the end of every response, a line break and `ars>`. -/
def responseMark : Bytes := [0x0A, 0x61, 0x72, 0x73, 0x3E]

/-- How many bytes stand before the first end mark. -/
def findMark (bytes : Bytes) : Option Nat := go 0 bytes
where
  /-- The search behind `seen` bytes. -/
  go (seen : Nat) : Bytes → Option Nat
    | [] => none
    | b :: rest => if responseMark.isPrefixOf (b :: rest) then some seen else go (seen + 1) rest

/-- Bytes received on a command connection and not yet returned, with the offset where the next
search starts. -/
structure ResponseBuffer where
  bytes : Bytes := []
  scanned : Nat := 0
  deriving DecidableEq, Repr

namespace ResponseBuffer

/-- How many bytes are held. -/
def size (r : ResponseBuffer) : Nat := r.bytes.length

/-- Is nothing held? -/
def isEmpty (r : ResponseBuffer) : Bool := r.bytes.isEmpty

/-- Take in received bytes. -/
def extend (r : ResponseBuffer) (data : Bytes) : ResponseBuffer :=
  { r with bytes := r.bytes ++ data }

/-- Forget everything held. -/
def clear (_ : ResponseBuffer) : ResponseBuffer := {}

/-- The next complete response. Without one, the search resumes where an end mark could still
begin. -/
def take (r : ResponseBuffer) : ResponseBuffer × Option String :=
  match findMark (r.bytes.drop r.scanned) with
  | some found =>
    let pos := r.scanned + found
    (⟨r.bytes.drop (pos + responseMark.length), 0⟩,
      some (Text.decodeLossy (r.bytes.take pos)))
  | none => (⟨r.bytes, r.bytes.length - (responseMark.length - 1)⟩, none)

end ResponseBuffer

end BroadcastLink
