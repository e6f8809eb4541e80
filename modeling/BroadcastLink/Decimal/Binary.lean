/-!
# Binary floating-point numbers, exactly

A format is a width of fraction and a width of exponent. A bit pattern stands for a number `m · 2 ^
q` with natural `m`, for an infinity or for no number; a quotient of naturals is rounded to the
nearest number of the format, a half going to the even neighbour.
-/

namespace BroadcastLink.Decimal

/-- A binary interchange format: how many bits hold the fraction and how many the exponent. -/
structure BinaryFormat where
  fraction : Nat
  exponent : Nat
  deriving DecidableEq, Repr

/-- Thirty-two bits. -/
def single : BinaryFormat := ⟨23, 8⟩

/-- Sixty-four bits. -/
def double : BinaryFormat := ⟨52, 11⟩

/-- What a bit pattern stands for; the finite value is `magnitude · 2 ^ power`. -/
inductive BinaryValue where
  | undefined
  | infinite (negative : Bool)
  | finite (negative : Bool) (magnitude : Nat) (power : Int)
  deriving DecidableEq, Repr

namespace BinaryFormat

/-- The largest stored exponent, which marks infinities and undefined values. -/
def topExponent (f : BinaryFormat) : Nat := Nat.pow 2 f.exponent - 1

/-- The power of two that belongs to the least stored exponent. -/
def leastPower (f : BinaryFormat) : Int :=
  2 - Int.ofNat (Nat.pow 2 (f.exponent - 1)) - Int.ofNat f.fraction

/-- The least magnitude with a full fraction. -/
def leastFull (f : BinaryFormat) : Nat := Nat.pow 2 f.fraction

/-- The value of a bit pattern. -/
def decode (f : BinaryFormat) (bits : Nat) : BinaryValue :=
  let negative := bits / Nat.pow 2 (f.fraction + f.exponent) % 2 == 1
  let stored := bits / Nat.pow 2 f.fraction % Nat.pow 2 f.exponent
  let low := bits % Nat.pow 2 f.fraction
  if stored = f.topExponent then
    if low = 0 then .infinite negative else .undefined
  else if stored = 0 then .finite negative low f.leastPower
  else .finite negative (low + f.leastFull) (f.leastPower + (stored - 1))

/-- `num / den` rounded to the nearest integer, a half to the even one. -/
def roundQuotient (num den : Nat) : Nat :=
  let whole := num / den
  let twice := 2 * (num % den)
  if twice < den then whole
  else if den < twice then whole + 1
  else whole + whole % 2

/-- `2 ^ z` as a numerator and a denominator. -/
def powerOfTwo (z : Int) : Nat × Nat := (Nat.pow 2 z.toNat, Nat.pow 2 (-z).toNat)

/-- The number of the format nearest to `num / den`. -/
def round (f : BinaryFormat) (negative : Bool) (num den : Nat) : BinaryValue :=
  if num = 0 then .finite negative 0 f.leastPower else
  -- The quotient lies between two powers of two; one of two candidate scales fills the fraction.
  let rough : Int := (Nat.log2 num : Int) - Nat.log2 den - f.fraction
  let scaled (power : Int) : Nat :=
    let p := powerOfTwo (-power)
    roundQuotient (num * p.1) (den * p.2)
  let floorAt (power : Int) : Nat :=
    let p := powerOfTwo (-power)
    num * p.1 / (den * p.2)
  let power := max f.leastPower (if floorAt rough < f.leastFull then rough - 1 else rough)
  let magnitude := scaled power
  let (magnitude, power) :=
    if magnitude = 2 * f.leastFull then (f.leastFull, power + 1) else (magnitude, power)
  if f.leastPower + (f.topExponent - 2 : Nat) < power then .infinite negative
  else .finite negative magnitude power

end BinaryFormat

namespace BinaryValue

/-- The product of two values, rounded to the format. -/
def mul (f : BinaryFormat) : BinaryValue → BinaryValue → BinaryValue
  | .finite s m p, .finite t n q =>
    let scale := BinaryFormat.powerOfTwo (p + q)
    f.round (s != t) (m * n * scale.1) scale.2
  | .infinite s, .finite t n _ => if n = 0 then .undefined else .infinite (s != t)
  | .finite s m _, .infinite t => if m = 0 then .undefined else .infinite (s != t)
  | .infinite s, .infinite t => .infinite (s != t)
  | _, _ => .undefined

/-- The quotient of two values, rounded to the format. -/
def div (f : BinaryFormat) : BinaryValue → BinaryValue → BinaryValue
  | .finite s m p, .finite t n q =>
    if n = 0 then (if m = 0 then .undefined else .infinite (s != t))
    else
      let scale := BinaryFormat.powerOfTwo (p - q)
      f.round (s != t) (m * scale.1) (n * scale.2)
  | .infinite s, .finite t _ _ => .infinite (s != t)
  | .finite s _ _, .infinite t => .finite (s != t) 0 f.leastPower
  | _, _ => .undefined

/-- The value with the other sign. -/
def negate : BinaryValue → BinaryValue
  | .finite s m p => .finite (!s) m p
  | .infinite s => .infinite (!s)
  | .undefined => .undefined

end BinaryValue

end BroadcastLink.Decimal
