import BroadcastLink.Text.Hex

/-!
# Writing JSON

Compact text: strings with the shortest escapes, objects without blanks.
-/

namespace BroadcastLink.Json

/-- The short escape of a character, if it has one. -/
def shortEscape? (c : Char) : Option Char :=
  if c = '\x22' then some '\x22'
  else if c = '\\' then some '\\'
  else if c = '\x08' then some 'b'
  else if c = '\x0c' then some 'f'
  else if c = '\n' then some 'n'
  else if c = '\r' then some 'r'
  else if c = '\t' then some 't'
  else none

/-- How one character is written inside a string. Only the quote, the backslash and the control
characters below the blank need an escape. -/
def escapeChar (c : Char) : List Char :=
  match shortEscape? c with
  | some e => ['\\', e]
  | none =>
    if c.toNat < 0x20 then
      ['\\', 'u', '0', '0', Text.Hex.digit (c.toNat / 16), Text.Hex.digit (c.toNat % 16)]
    else [c]

/-- A string between quotes. -/
def quoteChars (cs : List Char) : List Char := '\x22' :: (cs.flatMap escapeChar ++ ['\x22'])

/-- A string between quotes. -/
def quote (s : String) : String := String.ofList (quoteChars s.toList)

/-- Texts one after another with a comma between. -/
def commas : List String → String
  | [] => ""
  | [s] => s
  | s :: rest => s ++ "," ++ commas rest

/-- An object of fields whose values are written already. -/
def object (fields : List (String × String)) : String :=
  "\x7b" ++ commas (fields.map fun f => quote f.1 ++ ":" ++ f.2) ++ "\x7d"

end BroadcastLink.Json
