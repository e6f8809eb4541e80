import BroadcastLink.Fault
import BroadcastLink.Text.Utf8

/-!
# Reading JSON, piece by piece

Readers of the parts of a document over the characters still unread: blanks, words, strings and
values that nobody asked for. Each says whether a document breaks the grammar or merely ends too
early.
-/

namespace BroadcastLink.Json

/-- A value read, and the characters behind it. -/
abbrev Reading (α : Type) := α × List Char

/-- What reads a value off the front of a document, or tells the first fault. -/
abbrev Reader (α : Type) := List Char → Except ReadFault (Reading α)

/-- A blank between the parts of a document. -/
def isGap (c : Char) : Bool := c == ' ' || c == '\n' || c == '\t' || c == '\r'

/-- The document behind its leading blanks. -/
def skipGaps (cs : List Char) : List Char := cs.dropWhile isGap

/-- The rest of a word. -/
def word : List Char → List Char → Except ReadFault (List Char)
  | [], cs => .ok cs
  | _ :: _, [] => .error .cutShort
  | w :: ws, c :: cs => if w = c then word ws cs else .error .malformed

/-- The fault of a `\u` escape that is not followed by four hexadecimal digits: it ends too early if
not even four bytes are left. -/
def badEscape (cs : List Char) : ReadFault :=
  if Text.byteCount cs < 4 then .cutShort else .malformed

/-- The value of four hexadecimal digits. -/
def hexValue? (a b c d : Char) : Option Nat := do
  let a ← Text.Hex.value? a
  let b ← Text.Hex.value? b
  let c ← Text.Hex.value? c
  let d ← Text.Hex.value? d
  return 16 * (16 * (16 * a + b) + c) + d

/-- The character that a one-letter escape stands for. -/
def unescape? (c : Char) : Option Char :=
  if c = '\x22' then some '\x22'
  else if c = '\\' then some '\\'
  else if c = '/' then some '/'
  else if c = 'b' then some '\x08'
  else if c = 'f' then some '\x0c'
  else if c = 'n' then some '\n'
  else if c = 'r' then some '\r'
  else if c = 't' then some '\t'
  else none

/-- The first half of a character outside the basic plane. -/
def isHighHalf (n : Nat) : Bool := 0xD800 ≤ n && n ≤ 0xDBFF

/-- The second half of such a character. -/
def isLowHalf (n : Nat) : Bool := 0xDC00 ≤ n && n ≤ 0xDFFF

/-- The character of two halves. -/
def joinHalves (high low : Nat) : Char :=
  Char.ofNat ((high - 0xD800) * 0x400 + (low - 0xDC00) + 0x10000)

/-- The rest of a string behind its opening quote, given the characters read so far, newest first.
Halves of characters have to come in pairs. -/
def stringRest (seen : List Char) : Reader String
  | [] => .error .cutShort
  | '\\' :: 'u' :: a :: b :: c :: d :: rest =>
    match hexValue? a b c d with
    | none => .error (badEscape (a :: b :: c :: d :: rest))
    | some n =>
      if isLowHalf n then .error .malformed
      else if isHighHalf n then
        match rest with
        | '\\' :: 'u' :: e :: f :: g :: h :: rest =>
          match hexValue? e f g h with
          | none => .error (badEscape (e :: f :: g :: h :: rest))
          | some m =>
            if isLowHalf m then stringRest (joinHalves n m :: seen) rest else .error .malformed
        | '\\' :: 'u' :: short => .error (badEscape short)
        | ['\\'] => .error .cutShort
        | [] => .error .cutShort
        | _ => .error .malformed
      else stringRest (Char.ofNat n :: seen) rest
  | '\\' :: 'u' :: short => .error (badEscape short)
  | '\\' :: c :: rest =>
    match unescape? c with
    | some e => stringRest (e :: seen) rest
    | none => .error .malformed
  | c :: rest =>
    if c = '\x22' then .ok (String.ofList seen.reverse, rest)
    else if c = '\\' then .error .cutShort
    else if c.toNat < 0x20 then .error .malformed
    else stringRest (c :: seen) rest

/-- The rest of a string whose value nobody asked for: halves need no partner. -/
def skipString : List Char → Except ReadFault (List Char)
  | [] => .error .cutShort
  | '\\' :: 'u' :: a :: b :: c :: d :: rest =>
    match hexValue? a b c d with
    | none => .error (badEscape (a :: b :: c :: d :: rest))
    | some _ => skipString rest
  | '\\' :: 'u' :: short => .error (badEscape short)
  | '\\' :: c :: rest => if (unescape? c).isSome then skipString rest else .error .malformed
  | c :: rest =>
    if c = '\x22' then .ok rest
    else if c = '\\' then .error .cutShort
    else if c.toNat < 0x20 then .error .malformed
    else skipString rest

/-- The document behind leading digits. -/
def skipDigits (cs : List Char) : List Char := cs.dropWhile Char.isDigit

/-- An exponent nobody asked for, behind its letter. -/
def skipExponent (cs : List Char) : Except ReadFault (List Char) :=
  let cs := match cs with
    | '+' :: rest | '-' :: rest => rest
    | _ => cs
  match cs with
  | c :: rest => if c.isDigit then .ok (skipDigits rest) else .error .malformed
  | [] => .error .malformed

/-- What may follow the whole part of a number nobody asked for. -/
def skipFraction (cs : List Char) : Except ReadFault (List Char) :=
  match cs with
  | '.' :: c :: rest =>
    if c.isDigit then
      match skipDigits rest with
      | 'e' :: more | 'E' :: more => skipExponent more
      | more => .ok more
    else .error .malformed
  | ['.'] => .error .malformed
  | 'e' :: rest | 'E' :: rest => skipExponent rest
  | _ => .ok cs

/-- A number nobody asked for, behind its sign. -/
def skipNumber (cs : List Char) : Except ReadFault (List Char) :=
  match cs with
  | '0' :: c :: rest => if c.isDigit then .error .malformed else skipFraction (c :: rest)
  | c :: rest => if c.isDigit then skipFraction (skipDigits rest) else .error .malformed
  | [] => .error .malformed

/-- An array or an object that was opened and not yet closed. -/
inductive Frame where
  | array
  | object
  deriving DecidableEq, Repr

/-- The character that closes a frame. -/
def Frame.closing : Frame → Char
  | .array => ']'
  | .object => '\x7d'

/-- The key in front of a member nobody asked for, and its colon. -/
def skipKey (cs : List Char) : Except ReadFault (List Char) :=
  match skipGaps cs with
  | [] => .error .cutShort
  | c :: rest =>
    if c = '\x22' then do
      let rest ← skipString rest
      match skipGaps rest with
      | ':' :: rest => .ok rest
      | [] => .error .cutShort
      | _ => .error .malformed
    else .error .malformed

/-- The start of the next member of a frame: a key if the frame is an object. -/
def skipToMember (frame : Frame) (cs : List Char) : Except ReadFault (List Char) :=
  match frame with
  | .array => .ok cs
  | .object => skipKey cs

mutual

/-- A value nobody asked for, inside the frames opened so far. -/
def skipIn : Nat → List Frame → List Char → Except ReadFault (List Char)
  | 0, _, _ => .error .cutShort
  | fuel + 1, frames, cs =>
    match skipGaps cs with
    | [] => .error .cutShort
    | c :: rest =>
      if c = 'n' then do skipBehind fuel frames (← word ['u', 'l', 'l'] rest)
      else if c = 't' then do skipBehind fuel frames (← word ['r', 'u', 'e'] rest)
      else if c = 'f' then do skipBehind fuel frames (← word ['a', 'l', 's', 'e'] rest)
      else if c = '-' then do skipBehind fuel frames (← skipNumber rest)
      else if c.isDigit then do skipBehind fuel frames (← skipNumber (c :: rest))
      else if c = '\x22' then do skipBehind fuel frames (← skipString rest)
      else if c = '[' then skipOpened fuel .array frames rest
      else if c = '\x7b' then skipOpened fuel .object frames rest
      else .error .malformed

/-- Behind the opening of a frame: its end, or its first member. -/
def skipOpened : Nat → Frame → List Frame → List Char → Except ReadFault (List Char)
  | 0, _, _, _ => .error .cutShort
  | fuel + 1, frame, frames, cs =>
    match skipGaps cs with
    | [] => .error .cutShort
    | c :: rest =>
      if c = frame.closing then skipBehind fuel frames rest
      else do skipIn fuel (frame :: frames) (← skipToMember frame (c :: rest))

/-- Behind a value: the document goes on in the innermost frame. -/
def skipBehind : Nat → List Frame → List Char → Except ReadFault (List Char)
  | 0, _, _ => .error .cutShort
  | _ + 1, [], cs => .ok cs
  | fuel + 1, frame :: frames, cs =>
    match skipGaps cs with
    | [] => .error .cutShort
    | c :: rest =>
      if c = ',' then do skipIn fuel (frame :: frames) (← skipToMember frame rest)
      else if c = frame.closing then skipBehind fuel frames rest
      else .error .malformed

end

/-- A value nobody asked for, at any depth of nesting. Every two steps use up a character. -/
def skipValue (cs : List Char) : Except ReadFault (List Char) := skipIn (2 * cs.length + 2) [] cs

end BroadcastLink.Json
