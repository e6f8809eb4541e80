import BroadcastLink.Roster
import BroadcastLink.Bench.Shell.Word

/-!
# Sums

Whole numbers of 64 bits, the variables that hold them, and the operators on them.
-/

namespace BroadcastLink.Bench.Shell

/-- An expression. -/
inductive Sum where
  | number (n : Int)
  | variable (name : String)
  | unary (op : String) (body : Sum)
  | binary (op : String) (first second : Sum)
  | choice (condition first second : Sum)
  | assign (name op : String) (value : Sum)
  deriving Repr

/-- A piece of an expression. -/
inductive SumToken where
  | number (n : Int)
  | name (name : String)
  | op (op : String)
  deriving DecidableEq, Repr

/-- The number that digits of a base stand for. -/
def ofDigits? (base : Nat) (cs : List Char) : Option Nat :=
  if cs.isEmpty then none
  else cs.foldlM (fun n c =>
    let digit :=
      if c.isDigit then c.toNat - 48
      else if 'a' ≤ c ∧ c ≤ 'f' then c.toNat - 87
      else if 'A' ≤ c ∧ c ≤ 'F' then c.toNat - 55
      else base
    if digit < base then some (n * base + digit) else none) 0

/-- A number as it is written: octal behind a zero, hexadecimal behind an x. -/
def literal? : List Char → Option Nat
  | '0' :: 'x' :: cs | '0' :: 'X' :: cs => ofDigits? 16 cs
  | '0' :: c :: cs => ofDigits? 8 (c :: cs)
  | cs => ofDigits? 10 cs

/-- The number in a text, with a sign if need be. A text without any is zero. -/
def integer? (text : String) : Option Int :=
  match text.toList.filter fun c => !isGap c with
  | [] => some 0
  | '-' :: cs => (literal? cs).map fun n => -(n : Int)
  | '+' :: cs | cs => (literal? cs).map Int.ofNat

/-- The operators, the longer of two that begin alike first. -/
def operators : List String :=
  ["<<=", ">>=", "<<", ">>", "<=", ">=", "==", "!=", "&&", "||", "+=", "-=", "*=", "/=", "%=", "&=",
    "|=", "^=", "+", "-", "*", "/", "%", "<", ">", "=", "!", "~", "&", "|", "^", "?", ":", "(", ")"]

namespace Sum

/-- The pieces of an expression. -/
def tokens : Nat → List Char → Option (List SumToken)
  | 0, _ => none
  | _ + 1, [] => some []
  | fuel + 1, c :: rest =>
    let cs := c :: rest
    if isGap c then tokens fuel rest
    else if c.isDigit then do
      let n ← literal? (cs.takeWhile insideName)
      return .number n :: (← tokens fuel (cs.dropWhile insideName))
    else if startsName c then do
      let name := String.ofList (cs.takeWhile insideName)
      return .name name :: (← tokens fuel (cs.dropWhile insideName))
    else do
      let op ← operators.find? fun op => op.toList.isPrefixOf cs
      return .op op :: (← tokens fuel (cs.drop op.length))

/-- The operators with two sides, those that bind least first. -/
def levels : List (List String) :=
  [["||"], ["&&"], ["|"], ["^"], ["&"], ["==", "!="], ["<=", ">=", "<", ">"], ["<<", ">>"],
    ["+", "-"], ["*", "/", "%"]]

/-- The operators that assign. -/
def assigning : List String := ["=", "+=", "-=", "*=", "/=", "%=", "<<=", ">>=", "&=", "|=", "^="]

mutual

/-- An expression, and the rest. -/
def read : Nat → List SumToken → Option (Sum × List SumToken)
  | 0, _ => none
  | fuel + 1, ts => do
    if let .name name :: .op op :: rest := ts then
      if assigning.contains op then
        let (value, rest) ← read fuel rest
        return (.assign name (op.dropEnd 1).toString value, rest)
    let (condition, rest) ← readLevel fuel levels ts
    match rest with
    | .op "?" :: rest =>
      let (first, rest) ← read fuel rest
      match rest with
      | .op ":" :: rest =>
        let (second, rest) ← read fuel rest
        return (.choice condition first second, rest)
      | _ => none
    | rest => return (condition, rest)

/-- An expression whose operators bind at least as much as the levels say. -/
def readLevel : Nat → List (List String) → List SumToken → Option (Sum × List SumToken)
  | 0, _, _ => none
  | fuel + 1, [], ts =>
    match ts with
    | .number n :: rest => some (.number n, rest)
    | .name name :: rest => some (.variable name, rest)
    | .op "(" :: rest => do
      match ← read fuel rest with
      | (body, .op ")" :: rest) => return (body, rest)
      | _ => none
    | .op op :: rest => do
      if !(["+", "-", "!", "~"].contains op) then none
      let (body, rest) ← readLevel fuel [] rest
      return (.unary op body, rest)
    | [] => none
  | fuel + 1, ops :: higher, ts => do
    let (first, rest) ← readLevel fuel higher ts
    readMore fuel ops higher first rest

/-- What follows on a level, from left to right. -/
def readMore : Nat → List String → List (List String) → Sum → List SumToken →
    Option (Sum × List SumToken)
  | 0, _, _, _, _ => none
  | fuel + 1, ops, higher, first, ts =>
    match ts with
    | .op op :: rest =>
      if ops.contains op then do
        let (second, rest) ← readLevel fuel higher rest
        readMore fuel ops higher (.binary op first second) rest
      else some (first, ts)
    | ts => some (first, ts)

end

/-- The expression of a text. Without any it is zero. -/
def ofText (text : String) : Option Sum := do
  match ← tokens (text.length + 1) text.toList with
  | [] => return .number 0
  | ts =>
    match ← read (16 * ts.length + 16) ts with
    | (s, []) => return s
    | _ => none

/-- A number as 64 bits hold it. -/
def wrap (n : Int) : Int := (BitVec.ofInt 64 n).toInt

/-- One for yes, and zero for no. -/
def truth (b : Bool) : Int := if b then 1 else 0

/-- What an operator makes of two numbers. -/
def combine (op : String) (a b : Int) : Option Int :=
  let bits (f : BitVec 64 → BitVec 64 → BitVec 64) : Int :=
    (f (BitVec.ofInt 64 a) (BitVec.ofInt 64 b)).toInt
  match op with
  | "+" => some (wrap (a + b))
  | "-" => some (wrap (a - b))
  | "*" => some (wrap (a * b))
  | "/" => if b = 0 then none else some (wrap (Int.tdiv a b))
  | "%" => if b = 0 then none else some (Int.tmod a b)
  | "<" => some (truth (a < b))
  | ">" => some (truth (b < a))
  | "<=" => some (truth (a ≤ b))
  | ">=" => some (truth (b ≤ a))
  | "==" => some (truth (a = b))
  | "!=" => some (truth (a ≠ b))
  | "&" => some (bits (· &&& ·))
  | "|" => some (bits (· ||| ·))
  | "^" => some (bits (· ^^^ ·))
  | "<<" => some (wrap (a * Int.ofNat (Nat.pow 2 (b.toNat % 64))))
  | ">>" => some (a / Int.ofNat (Nat.pow 2 (b.toNat % 64)))
  | _ => some b

/-- The value of an expression, and the values of the variables after it. A division by zero has
none. -/
def eval : Sum → Roster String String → Option (Int × Roster String String)
  | .number n, vs => some (wrap n, vs)
  | .variable name, vs => do return (← integer? ((vs.get? name).getD ""), vs)
  | .unary op body, vs => do
    let (n, vs) ← body.eval vs
    let value := match op with
      | "-" => wrap (-n)
      | "!" => truth (n = 0)
      | "~" => -n - 1
      | _ => n
    return (value, vs)
  | .binary op first second, vs => do
    let (a, vs) ← first.eval vs
    if op = "&&" && a = 0 then return (0, vs)
    if op = "||" && a ≠ 0 then return (1, vs)
    let (b, vs) ← second.eval vs
    if op = "&&" || op = "||" then return (truth (b ≠ 0), vs)
    return (← combine op a b, vs)
  | .choice condition first second, vs => do
    let (n, vs) ← condition.eval vs
    if n = 0 then second.eval vs else first.eval vs
  | .assign name op value, vs => do
    let (b, vs) ← value.eval vs
    let n ← if op.isEmpty then some b
      else do combine op (← integer? ((vs.get? name).getD "")) b
    return (n, vs.put name (toString n))

end Sum

end BroadcastLink.Bench.Shell
