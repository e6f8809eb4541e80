import BroadcastLink.Json.Number
import BroadcastLink.Text.Shown

/-!
# Reading values of a known shape

A reader states what it expects. The first value of another shape, from left to right, is the fault,
and it is told together with what was expected in its place.
-/

namespace BroadcastLink.Json

/-- A value of the wrong shape. -/
def wrongType (found expected : String) : ReadFault :=
  .mismatch ("invalid type: " ++ found ++ ", expected " ++ expected)

/-- A value of the right shape that does not fit. -/
def wrongValue (found expected : String) : ReadFault :=
  .mismatch ("invalid value: " ++ found ++ ", expected " ++ expected)

/-- The fault of a value that starts here, where something else was expected. -/
def unexpected (expected : String) : List Char → ReadFault
  | [] => .cutShort
  | c :: rest =>
    let behind (w : List Char) (found : String) : ReadFault :=
      match word w rest with
      | .ok _ => wrongType found expected
      | .error fault => fault
    let number (negative : Bool) (cs : List Char) : ReadFault :=
      match numberAt negative cs with
      | .ok (n, _) => wrongType n.shown expected
      | .error fault => fault
    if c = 'n' then behind ['u', 'l', 'l'] "null"
    else if c = 't' then behind ['r', 'u', 'e'] "boolean `true`"
    else if c = 'f' then behind ['a', 'l', 's', 'e'] "boolean `false`"
    else if c = '-' then number true rest
    else if c.isDigit then number false (c :: rest)
    else if c = '\x22' then
      match stringRest [] rest with
      | .ok (s, _) => wrongType ("string " ++ Text.shown s) expected
      | .error fault => fault
    else if c = '[' then wrongType "sequence" expected
    else if c = '\x7b' then wrongType "map" expected
    else .malformed

/-- A string. -/
def readString (cs : List Char) : Except ReadFault (Reading String) :=
  match skipGaps cs with
  | '\x22' :: rest => stringRest [] rest
  | cs => .error (unexpected "a string" cs)

/-- A truth value. -/
def readBool (cs : List Char) : Except ReadFault (Reading Bool) :=
  match skipGaps cs with
  | 't' :: rest => do return (true, ← word ['r', 'u', 'e'] rest)
  | 'f' :: rest => do return (false, ← word ['a', 'l', 's', 'e'] rest)
  | cs => .error (unexpected "a boolean" cs)

/-- A natural number below a limit, which bears a name in diagnostics. -/
def readNatural (limit : Nat) (name : String) (cs : List Char) :
    Except ReadFault (Reading Nat) := do
  let (number, rest) ← match skipGaps cs with
    | [] => .error .cutShort
    | c :: rest =>
      if c = '-' then numberAt true rest
      else if c.isDigit then numberAt false (c :: rest)
      else .error (unexpected name (c :: rest))
  match number with
  | .natural n =>
    if n < limit then .ok (n, rest) else .error (wrongValue number.shown name)
  | .negative _ => .error (wrongValue number.shown name)
  | .real _ => .error (wrongType number.shown name)

/-- A string or `null`. -/
def readOptionalString (cs : List Char) : Except ReadFault (Reading (Option String)) :=
  match skipGaps cs with
  | 'n' :: rest => do return (none, ← word ['u', 'l', 'l'] rest)
  | cs => do
    let (s, rest) ← readString cs
    return (some s, rest)

/-- The colon between a key and its value. -/
def readColon (cs : List Char) : Except ReadFault (List Char) :=
  match skipGaps cs with
  | [] => .error .cutShort
  | ':' :: rest => .ok rest
  | _ => .error .malformed

/-- The key of the next member of an object that was opened, or nothing at the object's end. A comma
stands before every member but the first. -/
def readKey (first : Bool) (cs : List Char) : Except ReadFault (Reading (Option String)) :=
  let key (cs : List Char) : Except ReadFault (Reading (Option String)) :=
    match cs with
    | [] => .error .cutShort
    | '\x22' :: rest => do
      let (s, rest) ← stringRest [] rest
      return (some s, rest)
    | _ => .error .malformed
  match skipGaps cs with
  | [] => .error .cutShort
  | c :: rest =>
    if c = '\x7d' then .ok (none, rest)
    else if first then key (c :: rest)
    else if c = ',' then key (skipGaps rest)
    else .error .malformed

/-- The members of an object behind its opening, taken in one by one. -/
def readMembers {σ : Type} (take : σ → String → Reader σ) :
    Nat → Bool → σ → Reader σ
  | 0, _, _, _ => .error .cutShort
  | fuel + 1, first, acc, cs => do
    match ← readKey first cs with
    | (none, rest) => return (acc, rest)
    | (some key, rest) =>
      let (acc, rest) ← take acc key rest
      readMembers take fuel false acc rest

/-- Does an array that was opened have a further element? The document stands at the element, or at
the end of the array. -/
def readElement (first : Bool) (cs : List Char) : Except ReadFault (Reading Bool) :=
  match skipGaps cs with
  | [] => .error .cutShort
  | c :: rest =>
    if c = ']' then .ok (false, c :: rest)
    else if first then .ok (true, c :: rest)
    else if c = ',' then
      match skipGaps rest with
      | [] => .error .cutShort
      | ']' :: _ => .error .malformed
      | cs => .ok (true, cs)
    else .error .malformed

/-- The end of an array all of whose expected elements were read. -/
def readArrayEnd (cs : List Char) : Except ReadFault (List Char) :=
  match skipGaps cs with
  | [] => .error .cutShort
  | ']' :: rest => .ok rest
  | _ => .error .malformed

/-- A structure, given as an object of its fields or as an array of them in order. -/
def readStructure {α : Type} (name : String) (ofObject : Reader α)
    (ofArray : Reader α) (cs : List Char) : Except ReadFault (Reading α) :=
  match skipGaps cs with
  | [] => .error .cutShort
  | c :: rest =>
    if c = '\x7b' then ofObject rest
    else if c = '[' then do
      let (a, rest) ← ofArray rest
      return (a, ← readArrayEnd rest)
    else .error (unexpected ("struct " ++ name) (c :: rest))

/-- A whole document: one value, and nothing but blanks behind it. -/
def readDocument {α : Type} (read : Reader α) (cs : List Char) : Except ReadFault α := do
  let (a, rest) ← read cs
  match skipGaps rest with
  | [] => return a
  | _ => .error .malformed

end BroadcastLink.Json
