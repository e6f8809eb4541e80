import BroadcastLink.Decimal.Layout
import BroadcastLink.Json.Scan

/-!
# Numbers of a document

A number without fraction and exponent is an integer as long as it fits sixty-four bits; any other
is a double-precision number, computed from at most the leading digits that fit sixty-four bits and
one power of ten.
-/

namespace BroadcastLink.Json

open Decimal (BinaryValue double)

/-- A number of a document: a natural, the negative of a positive natural, or a real. -/
inductive Number where
  | natural (n : Nat)
  | negative (n : Nat)
  | real (v : BinaryValue)
  deriving DecidableEq, Repr

/-- The text of a number in a diagnostic. -/
def Number.shown : Number → String
  | .natural n => "integer `" ++ Decimal.natText n ++ "`"
  | .negative n => "integer `-" ++ Decimal.natText n ++ "`"
  | .real v =>
    let text := ((Decimal.doubleLayout.text? double v).map String.ofList).getD "inf"
    "floating point `" ++ text ++ "`"

/-- The least natural that does not fit sixty-four bits. -/
def wordLimit : Nat := Nat.pow 2 64

/-- The largest exponent that is still counted. -/
def exponentLimit : Nat := Nat.pow 2 31 - 1

/-- The value of a decimal digit. -/
def digitValue (c : Char) : Nat := c.toNat - 0x30

/-- A power of ten as a double-precision number. -/
def tenTo (n : Nat) : BinaryValue := double.round false (Nat.pow 10 n) 1

/-- The largest power of ten that double precision has. -/
def topTen : Nat := 308

/-- Scale down by powers of ten until the exponent is in reach. Nothing but zero is left after a few
rounds. -/
def scaleDown : Nat → BinaryValue → Nat → BinaryValue
  | 0, f, _ => f
  | rounds + 1, f, e =>
    if e ≤ topTen then f.div double (tenTo e)
    else scaleDown rounds (f.div double (tenTo topTen)) (e - topTen)

/-- The number `± significand · 10 ^ exponent`, or nothing if it is out of range. -/
def scaled? (negative : Bool) (significand : Nat) (exponent : Int) : Option BinaryValue :=
  let f := double.round false significand 1
  let value : Option BinaryValue :=
    if exponent < 0 then some (scaleDown 5 f exponent.natAbs)
    else if exponent.natAbs ≤ topTen then
      match f.mul double (tenTo exponent.natAbs) with
      | .finite s m q => some (.finite s m q)
      | _ => none
    else if significand = 0 then some f
    else none
  value.map fun v => if negative then v.negate else v

/-- A real with its remaining document, or the fault of a number out of range. -/
def realAt (negative : Bool) (significand : Nat) (exponent : Int) (rest : List Char) :
    Except ReadFault (Reading Number) :=
  match scaled? negative significand exponent with
  | some v => .ok (.real v, rest)
  | none => .error .malformed

/-- The digits of an exponent behind the first, as long as the exponent is counted; otherwise the
document behind all its digits. -/
def exponentDigits (e : Nat) : List Char → Option Nat × List Char
  | [] => (some e, [])
  | c :: rest =>
    if c.isDigit then
      let e' := 10 * e + digitValue c
      if exponentLimit < e' then (none, skipDigits rest) else exponentDigits e' rest
    else (some e, c :: rest)

/-- An exponent, behind its letter. -/
def exponentAt (negative : Bool) (significand : Nat) (start : Int) (cs : List Char) :
    Except ReadFault (Reading Number) :=
  let (down, cs) := match cs with
    | '+' :: rest => (false, rest)
    | '-' :: rest => (true, rest)
    | _ => (false, cs)
  match cs with
  | [] => .error .cutShort
  | c :: rest =>
    if c.isDigit then
      match exponentDigits (digitValue c) rest with
      | (some e, rest) => realAt negative significand (if down then start - e else start + e) rest
      | (none, rest) =>
        if significand ≠ 0 ∧ !down then .error .malformed
        else realAt negative 0 0 rest
    else .error .malformed

/-- What follows the digits of a number: an exponent or nothing. -/
def exponentOrEnd (negative : Bool) (significand : Nat) (start : Int) (cs : List Char) :
    Except ReadFault (Reading Number) :=
  match cs with
  | 'e' :: rest | 'E' :: rest => exponentAt negative significand start rest
  | _ => realAt negative significand start cs

/-- The digits of a fraction. Once the significand is full the remaining ones are ignored. -/
def fractionDigits (significand count : Nat) : List Char → Nat × Nat × List Char
  | [] => (significand, count, [])
  | c :: rest =>
    if c.isDigit then
      let s := 10 * significand + digitValue c
      if wordLimit ≤ s then (significand, count, skipDigits (c :: rest))
      else fractionDigits s (count + 1) rest
    else (significand, count, c :: rest)

/-- A fraction, behind its point. -/
def fractionAt (negative : Bool) (significand : Nat) (start : Int) (cs : List Char) :
    Except ReadFault (Reading Number) :=
  match cs with
  | [] => .error .cutShort
  | c :: _ =>
    if c.isDigit then
      let (s, count, rest) := fractionDigits significand 0 cs
      exponentOrEnd negative s (start - count) rest
    else .error .malformed

/-- What follows the whole part of a number. -/
def numberEnd (negative : Bool) (significand : Nat) (cs : List Char) :
    Except ReadFault (Reading Number) :=
  match cs with
  | '.' :: rest => fractionAt negative significand 0 rest
  | 'e' :: rest | 'E' :: rest => exponentAt negative significand 0 rest
  | _ =>
    if !negative then .ok (.natural significand, cs)
    else if 0 < significand ∧ significand ≤ Nat.pow 2 63 then .ok (.negative significand, cs)
    else .ok (.real (double.round true significand 1), cs)

/-- The digits of a whole part; once the significand is full, the remaining ones only count. -/
def wholeDigits (significand : Nat) : List Char → Nat × Nat × List Char
  | [] => (significand, 0, [])
  | c :: rest =>
    if c.isDigit then
      let s := 10 * significand + digitValue c
      if wordLimit ≤ s then
        let more := (c :: rest).takeWhile Char.isDigit
        (significand, more.length, skipDigits (c :: rest))
      else wholeDigits s rest
    else (significand, 0, c :: rest)

/-- A number, behind its sign. -/
def numberAt (negative : Bool) (cs : List Char) : Except ReadFault (Reading Number) :=
  match cs with
  | [] => .error .cutShort
  | '0' :: rest =>
    match rest with
    | c :: _ => if c.isDigit then .error .malformed else numberEnd negative 0 rest
    | [] => numberEnd negative 0 []
  | c :: rest =>
    if c.isDigit then
      match wholeDigits (digitValue c) rest with
      | (s, 0, rest) => numberEnd negative s rest
      | (s, extra, rest) =>
        match rest with
        | '.' :: rest => fractionAt negative s extra rest
        | _ => exponentOrEnd negative s extra rest
    else .error .malformed

end BroadcastLink.Json
