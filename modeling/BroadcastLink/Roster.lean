/-!
# Rosters

Entries under distinct keys, in the order in which the keys came. Putting an entry under a known key
replaces it where it stands. That the keys are distinct is part of the type, so every operation
comes with the reason why it keeps them so.
-/

namespace BroadcastLink

/-- Entries under distinct keys, oldest key first. -/
structure Roster (κ α : Type) where
  entries : List (κ × α)
  distinct : (entries.map (·.1)).Nodup
  deriving DecidableEq, Repr

namespace Roster

variable {κ α : Type}

/-- No entries. -/
def empty : Roster κ α where
  entries := []
  distinct := List.nodup_nil

instance : EmptyCollection (Roster κ α) := ⟨empty⟩

instance : Inhabited (Roster κ α) := ⟨empty⟩

/-- Keep the entries that pass a test of key and entry. -/
def filter (r : Roster κ α) (keep : κ → α → Bool) : Roster κ α where
  entries := r.entries.filter fun e => keep e.1 e.2
  distinct := r.distinct.sublist (List.filter_sublist.map _)

/-- Change every entry, knowing its key. -/
def mapEntries {β : Type} (r : Roster κ α) (f : κ → α → β) : Roster κ β where
  entries := r.entries.map fun e => (e.1, f e.1 e.2)
  distinct := by simpa [Function.comp_def] using r.distinct

variable [DecidableEq κ]

/-- The entry under a key. -/
def get? (r : Roster κ α) (k : κ) : Option α := r.entries.lookup k

/-- Is there an entry under the key? -/
def has (r : Roster κ α) (k : κ) : Bool := (r.get? k).isSome

/-- Put an entry where its key stands, or at the end. -/
def putIn (k : κ) (a : α) : List (κ × α) → List (κ × α)
  | [] => [(k, a)]
  | (j, b) :: rest => if j = k then (k, a) :: rest else (j, b) :: putIn k a rest

/-- Nothing but the put key is new among the keys. -/
theorem mem_keys_putIn {j k : κ} {a : α} {es : List (κ × α)} :
    j ∈ (putIn k a es).map (·.1) ↔ j = k ∨ j ∈ es.map (·.1) := by
  induction es with
  | nil => simp [putIn]
  | cons e rest ih =>
    obtain ⟨i, b⟩ := e
    by_cases hi : i = k
    · subst hi
      simp [putIn]
    · rw [putIn, if_neg hi, List.map_cons, List.mem_cons, ih, List.map_cons, List.mem_cons]
      exact or_left_comm

/-- Distinct keys stay distinct when an entry is put among them. -/
theorem nodup_keys_putIn (k : κ) (a : α) {es : List (κ × α)} (h : (es.map (·.1)).Nodup) :
    ((putIn k a es).map (·.1)).Nodup := by
  induction es with
  | nil => simp [putIn]
  | cons e rest ih =>
    obtain ⟨i, b⟩ := e
    rw [List.map_cons, List.nodup_cons] at h
    by_cases hi : i = k
    · subst hi
      rw [putIn, if_pos rfl, List.map_cons, List.nodup_cons]
      exact h
    · rw [putIn, if_neg hi, List.map_cons, List.nodup_cons, mem_keys_putIn]
      exact ⟨fun known => known.elim hi h.1, ih h.2⟩

/-- Put an entry under a key. -/
def put (r : Roster κ α) (k : κ) (a : α) : Roster κ α where
  entries := putIn k a r.entries
  distinct := nodup_keys_putIn k a r.distinct

/-- Entries put one after another. -/
def ofList (es : List (κ × α)) : Roster κ α := es.foldl (fun r e => r.put e.1 e.2) {}

/-- Take away the entry under a key. -/
def erase (r : Roster κ α) (k : κ) : Roster κ α := r.filter fun j _ => j ≠ k

/-- Change the entry under a key, if there is one. -/
def modify (r : Roster κ α) (k : κ) (f : α → α) : Roster κ α :=
  r.mapEntries fun j a => if j = k then f a else a

/-- The keys, oldest first. -/
def keys (r : Roster κ α) : List κ := r.entries.map (·.1)

/-- The entries, oldest key first. -/
def values (r : Roster κ α) : List α := r.entries.map (·.2)

/-- How many entries there are. -/
def size (r : Roster κ α) : Nat := r.entries.length

/-- Is there no entry? -/
def isEmpty (r : Roster κ α) : Bool := r.entries.isEmpty

/-! ## What stands under a key -/

theorem lookup_cons (j i : κ) (b : α) (es : List (κ × α)) :
    ((i, b) :: es).lookup j = if j = i then some b else es.lookup j := by
  by_cases h : j = i
  · subst h
    rw [if_pos rfl, List.lookup_cons_self]
  · rw [if_neg h, List.lookup_cons, beq_false_of_ne h]

theorem lookup_putIn (j k : κ) (a : α) (es : List (κ × α)) :
    (putIn k a es).lookup j = if j = k then some a else es.lookup j := by
  induction es with
  | nil => simp [putIn, lookup_cons]
  | cons e rest ih =>
    obtain ⟨i, b⟩ := e
    by_cases hi : i = k
    · subst hi
      by_cases h : j = i <;> simp [putIn, lookup_cons, h]
    · by_cases h : j = i
      · subst h
        simp [putIn, hi]
      · simp [putIn, lookup_cons, hi, h, ih]

/-- What was put under a key stands there, and nothing else changed. -/
@[simp] theorem get?_put (r : Roster κ α) (j k : κ) (a : α) :
    (r.put k a).get? j = if j = k then some a else r.get? j :=
  lookup_putIn j k a r.entries

/-- A changed roster holds the changed entry under each key. -/
@[simp] theorem get?_mapEntries {β : Type} (r : Roster κ α) (f : κ → α → β) (j : κ) :
    (r.mapEntries f).get? j = (r.get? j).map (f j) := by
  obtain ⟨es, distinct⟩ := r
  simp only [get?, mapEntries]
  clear distinct
  induction es with
  | nil => rfl
  | cons e rest ih =>
    obtain ⟨i, b⟩ := e
    rw [List.map_cons, lookup_cons, lookup_cons, ih]
    by_cases h : j = i
    · subst h
      simp
    · simp [h]

/-- Only the entry under the given key is changed. -/
@[simp] theorem get?_modify (r : Roster κ α) (j k : κ) (f : α → α) :
    (r.modify k f).get? j = if j = k then (r.get? j).map f else r.get? j := by
  by_cases h : j = k <;> simp [modify, h]

/-- An entry stays if it passes. Because the keys are distinct, no entry was hidden behind it. -/
@[simp] theorem get?_filter (r : Roster κ α) (keep : κ → α → Bool) (j : κ) :
    (r.filter keep).get? j = (r.get? j).filter (keep j) := by
  obtain ⟨es, distinct⟩ := r
  simp only [get?, filter]
  induction es with
  | nil => rfl
  | cons e rest ih =>
    obtain ⟨i, b⟩ := e
    rw [List.map_cons, List.nodup_cons] at distinct
    have later := ih distinct.2
    rw [List.filter_cons, lookup_cons]
    by_cases h : j = i
    · subst h
      have absent : rest.lookup j = none := by
        refine List.lookup_eq_none_iff.mpr fun e found => ?_
        simpa using fun same : j = e.1 => distinct.1 (List.mem_map.mpr ⟨e, found, same.symm⟩)
      rw [absent] at later
      by_cases passes : keep j b <;> simp [passes, Option.filter, later]
    · by_cases passes : keep i b <;> simp [passes, lookup_cons, h, later]

/-- Nothing stands under an erased key, and nothing else changed. -/
@[simp] theorem get?_erase (r : Roster κ α) (j k : κ) :
    (r.erase k).get? j = if j = k then none else r.get? j := by
  rw [erase, get?_filter]
  by_cases h : j = k <;> cases r.get? j <;> simp [Option.filter, h]

@[simp] theorem get?_empty (j : κ) : ({} : Roster κ α).get? j = none := rfl

end Roster

end BroadcastLink
