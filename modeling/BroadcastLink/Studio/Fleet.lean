import BroadcastLink.Roster
import BroadcastLink.Studio

/-!
# All configured studios

The studios of a configuration, each under a key, in the order of the keys. The order is part of the
type, and with it that no key stands there twice.
-/

namespace BroadcastLink

/-- The studios of a configuration, keys ascending and distinct. -/
structure Fleet where
  entries : List (String × Studio)
  ascending : entries.Pairwise (fun a b => a.1 < b.1)
  deriving DecidableEq, Repr

namespace Fleet

/-- No studios. -/
def empty : Fleet where
  entries := []
  ascending := List.Pairwise.nil

instance : EmptyCollection Fleet := ⟨empty⟩

/-- Put an entry in its place, replacing one under the same key. -/
def place (key : String) (s : Studio) : List (String × Studio) → List (String × Studio)
  | [] => [(key, s)]
  | (k, t) :: rest =>
    if key < k then (key, s) :: (k, t) :: rest
    else if key = k then (key, s) :: rest
    else (k, t) :: place key s rest

/-- An entry after the placing was there before, or is the placed one. -/
theorem eq_or_mem_of_mem_place {key : String} {s : Studio} {es : List (String × Studio)}
    {e : String × Studio} (h : e ∈ place key s es) : e = (key, s) ∨ e ∈ es := by
  induction es with
  | nil => simpa [place] using h
  | cons d rest ih =>
    obtain ⟨k, t⟩ := d
    rw [place] at h
    split at h
    · simpa using h
    · split at h
      · rcases List.mem_cons.mp h with h | h <;> simp [h]
      · rcases List.mem_cons.mp h with h | h
        · simp [h]
        · rcases ih h with h | h <;> simp [h]

/-- Placing keeps the keys ascending. -/
theorem pairwise_place (key : String) (s : Studio) {es : List (String × Studio)}
    (h : es.Pairwise fun a b => a.1 < b.1) : (place key s es).Pairwise fun a b => a.1 < b.1 := by
  induction es with
  | nil => simp [place]
  | cons d rest ih =>
    obtain ⟨k, t⟩ := d
    have later := List.pairwise_cons.mp h
    rw [place]
    split
    · rename_i before
      refine List.pairwise_cons.mpr ⟨fun e found => ?_, h⟩
      rcases List.mem_cons.mp found with same | found
      · simpa [same] using before
      · exact String.lt_trans before (later.1 e found)
    · rename_i notBefore
      split
      · rename_i same
        subst same
        exact List.pairwise_cons.mpr ⟨fun e found => later.1 e found, later.2⟩
      · rename_i different
        refine List.pairwise_cons.mpr ⟨fun e found => ?_, ih later.2⟩
        rcases eq_or_mem_of_mem_place found with placed | found
        · subst placed
          exact Std.lt_of_le_of_ne (String.not_lt.mp notBefore) (Ne.symm different)
        · exact later.1 e found

/-- Add a studio under a key; an earlier one under that key is replaced. -/
def insert (f : Fleet) (key : String) (s : Studio) : Fleet where
  entries := place key s f.entries
  ascending := pairwise_place key s f.ascending

/-- Add a studio under its name. -/
def add (f : Fleet) (s : Studio) : Fleet := f.insert s.name s

/-- The studio under a key. -/
def get? (f : Fleet) (key : String) : Option Studio := f.entries.lookup key

/-- The keys, ascending. -/
def keys (f : Fleet) : List String := f.entries.map (·.1)

/-- How many studios there are. -/
def size (f : Fleet) : Nat := f.entries.length

/-- Are there none? -/
def isEmpty (f : Fleet) : Bool := f.entries.isEmpty

/-- Give every studio its key for a name. -/
def named (f : Fleet) : Fleet where
  entries := f.entries.map fun e => (e.1, { e.2 with name := e.1 })
  ascending := List.pairwise_map.mpr f.ascending

/-- The studio added under a key stands there, and nothing else changed. -/
@[simp] theorem get?_insert (f : Fleet) (key other : String) (s : Studio) :
    (f.insert key s).get? other = if other = key then some s else f.get? other := by
  obtain ⟨es, ascending⟩ := f
  simp only [get?, insert]
  clear ascending
  induction es with
  | nil => simp [place, Roster.lookup_cons]
  | cons d rest ih =>
    obtain ⟨k, t⟩ := d
    rw [place]
    split
    · simp [Roster.lookup_cons]
    · split
      · rename_i same
        subst same
        by_cases h : other = key <;> simp [Roster.lookup_cons, h]
      · rename_i different
        by_cases h : other = k
        · simp [h, Ne.symm different]
        · simp [Roster.lookup_cons, h, ih]

/-- Each studio is found under its key as before, with that key for a name. -/
@[simp] theorem get?_named (f : Fleet) (key : String) :
    f.named.get? key = (f.get? key).map fun s => { s with name := key } := by
  obtain ⟨es, ascending⟩ := f
  simp only [get?, named]
  clear ascending
  induction es with
  | nil => rfl
  | cons d rest ih =>
    obtain ⟨k, t⟩ := d
    rw [List.map_cons, Roster.lookup_cons, Roster.lookup_cons]
    by_cases h : key = k
    · simp [h]
    · simpa [h] using ih

/-- The first fault among the entries: a key that is not the studio's name, or a defect. -/
def validate (f : Fleet) : Except Fault Unit :=
  f.entries.forM fun (key, s) => do
    if key ≠ s.name then
      throw (.invalidConfig key ("key does not match name `" ++ s.name ++ "`"))
    s.validate

end Fleet

end BroadcastLink
