/-!
# Words of a command line

A word is made of pieces: text, and signs that stand for the value of a parameter, of a sum, or for
what another line prints. What a piece comes to is a fragment; fragments are put together to fields,
and those that are not quoted are cut at blanks.
-/

namespace BroadcastLink.Bench.Shell

/-- A piece of a word. -/
inductive Piece where
  | text (text : String) (quoted : Bool)
  /-- The value of a parameter, after a change that stands behind its name. -/
  | parameter (name change : String) (quoted : Bool)
  /-- How many characters the value of a parameter has. -/
  | length (name : String)
  | sum (expression : String)
  /-- What a line prints. -/
  | output (line : String) (quoted : Bool)
  deriving DecidableEq, Repr

/-- A word. -/
abbrev Word := List Piece

namespace Word

/-- The text of a word that is nothing but unquoted text. -/
def plain? : Word → Option String
  | [.text text false] => some text
  | _ => none

end Word

/-- May a name begin with the character? -/
def startsName (c : Char) : Bool := c.isAlpha || c = '_'

/-- May a name contain the character? -/
def insideName (c : Char) : Bool := c.isAlphanum || c = '_'

/-- Is the text a name? -/
def isName (text : String) : Bool :=
  match text.toList with
  | c :: rest => startsName c && rest.all insideName
  | [] => false

/-- A blank between words. -/
def isGap (c : Char) : Bool := c = ' ' || c = '\t' || c = '\n'

/-- What a piece comes to. -/
inductive Fragment where
  /-- Kept together. One that is `kept` makes a field even if it is empty. -/
  | solid (text : String) (kept : Bool)
  /-- Cut at blanks. -/
  | loose (text : String)
  deriving DecidableEq, Repr

/-- What is written in a fragment. -/
def Fragment.text : Fragment → String
  | .solid text _ | .loose text => text

/-- Fields that are complete, and the one that is begun. -/
structure Fields where
  complete : List String := []
  begun : Option String := none
  deriving DecidableEq, Repr

namespace Fields

/-- The field that is begun grows, or a new one begins. -/
def grow (f : Fields) (text : String) : Fields := { f with begun := some (f.begun.getD "" ++ text) }

/-- The field that is begun is complete. -/
def cut (f : Fields) : Fields := ⟨f.complete ++ f.begun.toList, none⟩

/-- One fragment more. -/
def add (f : Fields) : Fragment → Fields
  | .solid text kept => if text.isEmpty && !kept then f else f.grow text
  | .loose text =>
    text.toList.foldl (fun f c => if isGap c then f.cut else f.grow (String.singleton c)) f

/-- The fields of a word's fragments. -/
def ofFragments (fs : List Fragment) : List String := (fs.foldl add {}).cut.complete

end Fields

end BroadcastLink.Bench.Shell
