/-!
# Patterns

A star stands for any text, a question mark for any character, and brackets for one of the
characters in them. A character that is quoted stands for itself.
-/

namespace BroadcastLink.Bench.Shell

/-- A piece of a pattern. -/
inductive PatternPiece where
  | one (c : Char)
  | anyOne
  | anyText
  /-- One of the characters of some ranges, or none of them. -/
  | among (wanted : Bool) (ranges : List (Char × Char))
  deriving DecidableEq, Repr

/-- The ranges that characters between brackets name. -/
def bracketRanges : List Char → List (Char × Char)
  | a :: '-' :: b :: rest => (a, b) :: bracketRanges rest
  | a :: rest => (a, a) :: bracketRanges rest
  | [] => []

/-- The pieces of a pattern, of which each character is quoted or not. -/
def patternPieces : Nat → List (Char × Bool) → List PatternPiece
  | 0, _ | _ + 1, [] => []
  | fuel + 1, (c, true) :: rest => .one c :: patternPieces fuel rest
  | fuel + 1, ('*', false) :: rest => .anyText :: patternPieces fuel rest
  | fuel + 1, ('?', false) :: rest => .anyOne :: patternPieces fuel rest
  | fuel + 1, ('[', false) :: rest =>
    let (sign, inside) := match rest with
      | ('!', _) :: rest => (false, rest)
      | rest => (true, rest)
    let (first, others) := inside.splitAt 1
    let body := first ++ others.takeWhile (·.1 ≠ ']')
    match others.dropWhile (·.1 ≠ ']') with
    | _ :: behind => .among sign (bracketRanges (body.map (·.1))) :: patternPieces fuel behind
    | [] => .one '[' :: patternPieces fuel rest
  | fuel + 1, (c, false) :: rest => .one c :: patternPieces fuel rest

/-- Does a piece stand for the character? -/
def PatternPiece.admits : PatternPiece → Char → Bool
  | .one c, d => c = d
  | .anyOne, _ | .anyText, _ => true
  | .among wanted ranges, d => (ranges.any fun r => r.1 ≤ d && d ≤ r.2) == wanted

/-- Does a pattern stand for the text? -/
def patternAdmits : List PatternPiece → List Char → Bool
  | [], cs => cs.isEmpty
  | .anyText :: ps, [] => patternAdmits ps []
  | .anyText :: ps, c :: cs => patternAdmits ps (c :: cs) || patternAdmits (.anyText :: ps) cs
  | p :: ps, c :: cs => p.admits c && patternAdmits ps cs
  | _ :: _, [] => false
termination_by ps cs => (ps.length, cs.length)

/-- A text that a pattern's characters, quoted or not, stand for. -/
def matchesPattern (pattern : List (Char × Bool)) (text : List Char) : Bool :=
  patternAdmits (patternPieces (pattern.length + 1) pattern) text

end BroadcastLink.Bench.Shell
