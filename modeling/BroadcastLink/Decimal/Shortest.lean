import BroadcastLink.Decimal.Binary

/-!
# The fewest digits that read back

Every number of a binary format is the nearest one to a whole interval of reals. Of the decimals in
that interval the ones with the fewest digits lie on the coarsest grid that meets it, and of these
the nearest to the number is taken.
-/

namespace BroadcastLink.Decimal

/-- A decimal `coefficient · 10 ^ exponent`. -/
structure Digits where
  coefficient : Nat
  exponent : Int
  deriving DecidableEq, Repr

/-- A number with the interval of reals that round to it, all over one denominator. The ends belong
to the interval exactly when the number's magnitude is even. -/
structure Neighbourhood where
  value : Nat
  low : Nat
  high : Nat
  den : Nat
  ends : Bool

/-- The reals that round to `m · 2 ^ q`. Below the least full magnitude of a scale the numbers lie
twice as close. -/
def neighbourhood (f : BinaryFormat) (m : Nat) (q : Int) : Neighbourhood :=
  let scale := BinaryFormat.powerOfTwo q
  let below := if m = f.leastFull ∧ f.leastPower < q then 1 else 2
  { value := 4 * m * scale.1, low := (4 * m - below) * scale.1, high := (4 * m + 2) * scale.1,
    den := 4 * scale.2, ends := m % 2 == 0 }

namespace Neighbourhood

/-- The multiples of `10 ^ k` next to the value that lie in the interval; of two the nearer one, the
even one at equal distance. -/
def onGrid (n : Neighbourhood) (k : Int) : Option Nat :=
  let up := Nat.pow 10 (-k).toNat
  let unit := n.den * Nat.pow 10 k.toNat
  let inside (c : Nat) : Bool :=
    if n.ends then n.low * up ≤ c * unit && c * unit ≤ n.high * up
    else n.low * up < c * unit && c * unit < n.high * up
  let c := n.value * up / unit
  match inside c, inside (c + 1) with
  | false, false => none
  | true, false => some c
  | false, true => some (c + 1)
  | true, true =>
    let twice := 2 * (n.value * up)
    let middle := (2 * c + 1) * unit
    if twice < middle then some c
    else if middle < twice then some (c + 1)
    else some (if c % 2 = 0 then c else c + 1)

/-- The first grid from `10 ^ k` downwards that meets the interval, at most `steps` grids away. -/
def search (n : Neighbourhood) : Nat → Int → Digits
  | 0, k => ⟨n.value / n.den, k⟩
  | steps + 1, k =>
    match n.onGrid k with
    | some c => ⟨c, k⟩
    | none => search n steps (k - 1)

end Neighbourhood

/-- The shortest decimal that rounds to `m · 2 ^ q`, nearest of the shortest, for `m ≠ 0`. The first
grid tried is coarser than the number, by the logarithm of its leading bit. -/
def shortest (f : BinaryFormat) (m : Nat) (q : Int) : Digits :=
  let leading : Int := (Nat.log2 m : Int) + 1 + q
  (neighbourhood f m q).search (f.fraction + 8) (leading * 30103 / 100000 + 2)

end BroadcastLink.Decimal
