import BroadcastLink.Decimal.Shortest

/-!
# How a shortest decimal is laid out

Numbers whose leading digit stands at a moderate place are written positionally and keep a fraction,
the rest with an exponent that always shows its sign.
-/

namespace BroadcastLink.Decimal

/-- The places of the leading digit that are still written positionally. -/
structure Layout where
  least : Int
  most : Int
  deriving DecidableEq, Repr

/-- The digits of a natural number. -/
def digitChars (n : Nat) : List Char := Nat.toDigits 10 n

/-- The text of a natural number. -/
def natText (n : Nat) : String := String.ofList (digitChars n)

/-- Zeros, as many as asked for. -/
def zeros (n : Nat) : List Char := List.replicate n '0'

namespace Layout

/-- A decimal with all its digits before, around or behind the point. -/
def positional (digits : List Char) (exponent : Int) : List Char :=
  let leading := exponent + digits.length - 1
  if 0 ≤ exponent then digits ++ zeros exponent.toNat ++ ['.', '0']
  else if 0 ≤ leading then
    let whole := (leading + 1).toNat
    digits.take whole ++ '.' :: digits.drop whole
  else '0' :: '.' :: (zeros (-leading - 1).toNat ++ digits)

/-- A decimal with one digit before the point and an exponent. -/
def scientific (digits : List Char) (exponent : Int) : List Char :=
  let leading := exponent + digits.length - 1
  let fraction := match digits.drop 1 with
    | [] => []
    | more => '.' :: more
  digits.take 1 ++ fraction ++ 'e' :: (if leading < 0 then '-' else '+')
    :: digitChars leading.natAbs

/-- The text of a decimal without sign. -/
def unsigned (l : Layout) (d : Digits) : List Char :=
  let digits := digitChars d.coefficient
  let leading := d.exponent + digits.length - 1
  if l.least ≤ leading ∧ leading ≤ l.most then positional digits d.exponent
  else scientific digits d.exponent

/-- The text of a value of the format; infinities and undefined values have none. -/
def text? (l : Layout) (f : BinaryFormat) : BinaryValue → Option (List Char)
  | .finite negative m q =>
    let sign := if negative then ['-'] else []
    some (sign ++ if m = 0 then ['0', '.', '0'] else l.unsigned (shortest f m q))
  | _ => none

end Layout

/-- Single-precision numbers are positional from the sixth place behind the point to the thirteenth
before it. -/
def singleLayout : Layout := ⟨-6, 12⟩

/-- Double-precision numbers are positional from the fifth place behind the point to the sixteenth
before it. -/
def doubleLayout : Layout := ⟨-5, 15⟩

/-- The text of a single-precision bit pattern, `null` where it is no number. -/
def singleText (bits : Nat) : String :=
  match singleLayout.text? single (single.decode bits) with
  | some cs => String.ofList cs
  | none => "null"

end BroadcastLink.Decimal
