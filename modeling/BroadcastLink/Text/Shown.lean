import BroadcastLink.Text.Unprintable

/-!
# Text shown in a diagnostic

A text between double quotes, with escapes for the quote, the backslash and every character that has
no form of its own.
-/

namespace BroadcastLink.Text

/-- How one character is shown. -/
def shownChar (c : Char) : List Char :=
  if c = '\x22' then ['\\', '\x22']
  else if c = '\\' then ['\\', '\\']
  else if c = '\n' then ['\\', 'n']
  else if c = '\r' then ['\\', 'r']
  else if c = '\t' then ['\\', 't']
  else if c = Char.ofNat 0 then ['\\', '0']
  else if isUnprintable c then
    "\\u\x7b".toList ++ Nat.toDigits 16 c.toNat ++ "\x7d".toList
  else [c]

/-- A text between quotes, as a diagnostic shows it. -/
def shown (s : String) : String :=
  String.ofList ('\x22' :: (s.toList.flatMap shownChar ++ ['\x22']))

end BroadcastLink.Text
