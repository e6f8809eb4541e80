import BroadcastLink.Bench.Shell.Arithmetic

/-!
# Conditions

What the command `test` finds true of its arguments. An argument too many or too few, or a number
that is none, makes no condition.
-/

namespace BroadcastLink.Bench.Shell

/-- What stands at a path. -/
inductive PathKind where
  | nothing
  | file
  | directory
  deriving DecidableEq, Repr

/-- The number in an argument. -/
def argumentNumber? (text : String) : Option Int :=
  let digits (cs : List Char) : Option Int := (ofDigits? 10 cs).map Int.ofNat
  match text.toList.filter fun c => !isGap c with
  | '-' :: cs => (digits cs).map fun n => -n
  | '+' :: cs | cs => digits cs

namespace Condition

/-- The operators with one side. -/
def unaryOperators : List String :=
  ["-n", "-z", "-e", "-f", "-d", "-r", "-w", "-x", "-s", "-L", "-h", "-p", "-S", "-b", "-c", "-t",
    "-u", "-g", "-k", "-O", "-G"]

/-- The operators with two sides. -/
def binaryOperators : List String :=
  ["=", "!=", "<", ">", "-eq", "-ne", "-gt", "-ge", "-lt", "-le", "-nt", "-ot", "-ef"]

/-- What an operator finds of one argument. -/
def unary (kindOf : String → PathKind) (op arg : String) : Bool :=
  match op with
  | "-n" => !arg.isEmpty
  | "-z" => arg.isEmpty
  | "-d" => kindOf arg = .directory
  | "-f" => kindOf arg = .file && !arg.startsWith "/dev/"
  | "-c" => kindOf arg = .file && arg.startsWith "/dev/"
  | "-e" | "-r" | "-w" => kindOf arg ≠ .nothing
  | "-x" => kindOf arg = .directory || (kindOf arg = .file && (arg.splitOn "bin/").length = 2)
  | "-s" => kindOf arg = .directory || (kindOf arg = .file && !arg.startsWith "/dev/")
  | _ => false

/-- What an operator finds of two arguments. -/
def binary (op a b : String) : Option Bool :=
  let numbers (holds : Int → Int → Bool) : Option Bool := do
    return holds (← argumentNumber? a) (← argumentNumber? b)
  match op with
  | "=" => some (a = b)
  | "!=" => some (a ≠ b)
  | "<" => some (a < b)
  | ">" => some (b < a)
  | "-eq" => numbers (· == ·)
  | "-ne" => numbers (· != ·)
  | "-gt" => numbers fun m n => n < m
  | "-ge" => numbers fun m n => n ≤ m
  | "-lt" => numbers fun m n => m < n
  | "-le" => numbers fun m n => m ≤ n
  | _ => some false

variable (kindOf : String → PathKind)

mutual

/-- One condition or another. -/
def either : Nat → List String → Option (Bool × List String)
  | 0, _ => none
  | fuel + 1, args => do
    let (first, rest) ← both fuel args
    match rest with
    | "-o" :: rest =>
      let (second, rest) ← either fuel rest
      return (first || second, rest)
    | rest => return (first, rest)

/-- One condition and another. -/
def both : Nat → List String → Option (Bool × List String)
  | 0, _ => none
  | fuel + 1, args => do
    let (first, rest) ← single fuel args
    match rest with
    | "-a" :: rest =>
      let (second, rest) ← both fuel rest
      return (first && second, rest)
    | rest => return (first, rest)

/-- One condition. -/
def single : Nat → List String → Option (Bool × List String)
  | 0, _ => none
  | fuel + 1, args =>
    match args with
    | a :: op :: b :: rest =>
      if binaryOperators.contains op then do return (← binary op a b, rest)
      else prefixed fuel args
    | args => prefixed fuel args

/-- A condition that begins with a sign, or an argument by itself. -/
def prefixed : Nat → List String → Option (Bool × List String)
  | 0, _ => none
  | fuel + 1, args =>
    match args with
    | "!" :: a :: rest => do
      let (body, rest) ← single fuel (a :: rest)
      return (!body, rest)
    | "(" :: a :: rest => do
      match ← either fuel (a :: rest) with
      | (body, ")" :: rest) => return (body, rest)
      | _ => none
    | op :: arg :: rest =>
      if unaryOperators.contains op then some (unary kindOf op arg, rest)
      else some (!op.isEmpty, arg :: rest)
    | [arg] => some (!arg.isEmpty, [])
    | [] => none

end

/-- Is what the arguments say true? -/
def holds? (args : List String) : Option Bool :=
  if args.isEmpty then some false
  else match either kindOf (6 * args.length + 6) args with
    | some (found, []) => some found
    | _ => none

end Condition

end BroadcastLink.Bench.Shell
