/-!
# UTF-8 that never fails

Reading bytes as text where each maximal ill-formed run becomes one U+FFFD. The reader is a machine
with one step per byte; between characters it owes nothing, inside one it knows how many bytes are
owed and the bounds of the next one.
-/

namespace BroadcastLink.Text

/-- What stands for bytes that are no text. -/
def replacement : Char := Char.ofNat 0xFFFD

/-- Where the reader stands inside a character: the bytes still owed after the next one, the bounds
of the next byte, and the code point gathered so far. -/
structure Utf8Part where
  owed : Nat
  low : Nat
  high : Nat
  code : Nat
  deriving DecidableEq, Repr

/-- The first byte of a character: the character itself, a character begun, or neither. -/
def utf8First (b : Nat) : Option (Char ⊕ Utf8Part) :=
  if b ≤ 0x7F then some (.inl (Char.ofNat b))
  else if 0xC2 ≤ b ∧ b ≤ 0xDF then some (.inr ⟨0, 0x80, 0xBF, b - 0xC0⟩)
  else if b = 0xE0 then some (.inr ⟨1, 0xA0, 0xBF, 0⟩)
  else if b = 0xED then some (.inr ⟨1, 0x80, 0x9F, 0xD⟩)
  else if 0xE1 ≤ b ∧ b ≤ 0xEF then some (.inr ⟨1, 0x80, 0xBF, b - 0xE0⟩)
  else if b = 0xF0 then some (.inr ⟨2, 0x90, 0xBF, 0⟩)
  else if 0xF1 ≤ b ∧ b ≤ 0xF3 then some (.inr ⟨2, 0x80, 0xBF, b - 0xF0⟩)
  else if b = 0xF4 then some (.inr ⟨2, 0x80, 0x8F, 4⟩)
  else none

/-- The reader: the character begun, if any, and the text read so far, newest character first. -/
structure Utf8Reader where
  part : Option Utf8Part := none
  text : List Char := []

namespace Utf8Reader

/-- A byte between characters. -/
def start (r : Utf8Reader) (b : Nat) : Utf8Reader :=
  match utf8First b with
  | some (.inl c) => ⟨none, c :: r.text⟩
  | some (.inr p) => ⟨some p, r.text⟩
  | none => ⟨none, replacement :: r.text⟩

/-- One byte. A byte that cannot continue the character begun ends it as ill-formed, and is then
read as a first byte. -/
def step (r : Utf8Reader) (byte : UInt8) : Utf8Reader :=
  let b := byte.toNat
  match r.part with
  | none => r.start b
  | some p =>
    if p.low ≤ b ∧ b ≤ p.high then
      let code := p.code * 64 + (b - 0x80)
      match p.owed with
      | 0 => ⟨none, Char.ofNat code :: r.text⟩
      | n + 1 => ⟨some ⟨n, 0x80, 0xBF, code⟩, r.text⟩
    else start ⟨none, replacement :: r.text⟩ b

/-- The text read, a character left unfinished being ill-formed. -/
def finish (r : Utf8Reader) : List Char :=
  match r.part with
  | none => r.text.reverse
  | some _ => (replacement :: r.text).reverse

end Utf8Reader

/-- The characters of a byte string, ill-formed runs replaced. -/
def decodeLossyChars (bytes : List UInt8) : List Char :=
  (bytes.foldl Utf8Reader.step {}).finish

/-- The text of a byte string, ill-formed runs replaced. -/
def decodeLossy (bytes : List UInt8) : String := String.ofList (decodeLossyChars bytes)

/-- The bytes of a text. -/
def encodeChars (cs : List Char) : List UInt8 := cs.flatMap String.utf8EncodeChar

/-- The bytes of a text. -/
def encode (s : String) : List UInt8 := encodeChars s.toList

/-- How many bytes a text takes. -/
def byteCount (cs : List Char) : Nat := cs.foldl (fun n c => n + c.utf8Size) 0

end BroadcastLink.Text
