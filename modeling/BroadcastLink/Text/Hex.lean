/-!
# Lower-case hexadecimal

Two digits a byte, high half first, and reading them back.
-/

namespace BroadcastLink.Text.Hex

/-- The digit of a value below sixteen. -/
def digit (n : Nat) : Char :=
  if n < 10 then Char.ofNat (0x30 + n) else Char.ofNat (0x61 + (n - 10))

/-- The value of a hexadecimal digit of either case. -/
def value? (c : Char) : Option Nat :=
  if '0' ≤ c ∧ c ≤ '9' then some (c.toNat - 0x30)
  else if 'a' ≤ c ∧ c ≤ 'f' then some (c.toNat - 0x61 + 10)
  else if 'A' ≤ c ∧ c ≤ 'F' then some (c.toNat - 0x41 + 10)
  else none

/-- The two digits of a byte. -/
def pair (b : UInt8) : List Char := [digit (b.toNat / 16), digit (b.toNat % 16)]

/-- The digits of a byte string. -/
def encodeChars (bytes : List UInt8) : List Char := bytes.flatMap pair

/-- The digits of a byte string, as text. -/
def encode (bytes : List UInt8) : String := String.ofList (encodeChars bytes)

/-- The bytes gathered, newest first, from digits taken two at a time. -/
def gather (seen : List UInt8) : List Char → Option (List UInt8)
  | [] => some seen.reverse
  | [_] => none
  | hi :: lo :: rest =>
    match value? hi, value? lo with
    | some h, some l => gather (UInt8.ofNat (16 * h + l) :: seen) rest
    | _, _ => none

/-- The bytes that digits stand for; nothing for an odd count or a character that is no digit. -/
def decode? (cs : List Char) : Option (List UInt8) := gather [] cs

/-- A byte behind the marker `0x`. -/
def marked (b : UInt8) : String := "0x" ++ encode [b]

end BroadcastLink.Text.Hex
