/-!
# Text inside markup

The five characters that mean something to markup are written as entities, all else as it is.
-/

namespace BroadcastLink.Text.Markup

/-- How one character is written inside markup. -/
def entity (c : Char) : List Char :=
  if c = '&' then "&amp;".toList
  else if c = '<' then "&lt;".toList
  else if c = '>' then "&gt;".toList
  else if c = '\x22' then "&quot;".toList
  else if c = '\x27' then "&#39;".toList
  else [c]

/-- A text written inside markup, character by character. -/
def escapeChars (cs : List Char) : List Char := cs.flatMap entity

/-- A text written inside markup. -/
def escape (s : String) : String := String.ofList (escapeChars s.toList)

end BroadcastLink.Text.Markup
