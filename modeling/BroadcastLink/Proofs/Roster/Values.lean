import BroadcastLink.Roster

/-!
# The entries of a roster

What stands under a key is one of the entries, and the others are those of the roster without that
key. Putting and erasing therefore change the entries by the one under their key.
-/

namespace BroadcastLink.Roster

variable {κ α : Type}

theorem ext_entries {r q : Roster κ α} (h : r.entries = q.entries) : r = q := by
  cases r
  cases q
  cases h
  rfl

theorem mapEntries_mapEntries {β γ : Type} (r : Roster κ α) (f : κ → α → β) (g : κ → β → γ) :
    (r.mapEntries f).mapEntries g = r.mapEntries fun k a => g k (f k a) :=
  ext_entries (by simp [mapEntries])

/-- What a test says of the changed entries, it says of the entries before the change. -/
theorem countP_mapEntries {β : Type} (r : Roster κ α) (f : κ → α → β) (test : β → Bool) :
    (r.mapEntries f).values.countP test = r.entries.countP fun e => test (f e.1 e.2) := by
  simp [values, mapEntries, List.countP_map, Function.comp_def]

variable [DecidableEq κ]

theorem filter_putIn (k : κ) (a : α) (es : List (κ × α)) :
    (putIn k a es).filter (fun e => decide (e.1 ≠ k)) = es.filter fun e => decide (e.1 ≠ k) := by
  induction es with
  | nil => simp [putIn]
  | cons e rest ih =>
    obtain ⟨j, b⟩ := e
    rw [putIn]
    by_cases hj : j = k
    · rw [if_pos hj, List.filter_cons_of_neg (by simp), List.filter_cons_of_neg (by simp [hj])]
    · rw [if_neg hj, List.filter_cons_of_pos (by simp [hj]), List.filter_cons_of_pos (by simp [hj]),
        ih]

@[simp] theorem erase_put (r : Roster κ α) (k : κ) (a : α) : (r.put k a).erase k = r.erase k :=
  ext_entries (filter_putIn k a r.entries)

theorem putIn_putIn (k : κ) (a b : α) (es : List (κ × α)) :
    putIn k b (putIn k a es) = putIn k b es := by
  induction es with
  | nil => simp [putIn]
  | cons e rest ih =>
    obtain ⟨j, c⟩ := e
    by_cases hj : j = k
    · subst hj
      simp [putIn]
    · simp [putIn, hj, ih]

/-- The last entry put under a key is the one that counts. -/
@[simp] theorem put_put (r : Roster κ α) (k : κ) (a b : α) : (r.put k a).put k b = r.put k b :=
  ext_entries (putIn_putIn k a b r.entries)

theorem lookup_eq_none {k : κ} {es : List (κ × α)} (h : es.lookup k = none) :
    ∀ e ∈ es, e.1 ≠ k := by
  intro e he hk
  have hne := List.lookup_eq_none_iff.mp h e he
  rw [hk, bne_self_eq_false] at hne
  contradiction

theorem length_putIn (k : κ) (a : α) (es : List (κ × α)) :
    (putIn k a es).length = if (es.lookup k).isSome then es.length else es.length + 1 := by
  induction es with
  | nil => rfl
  | cons e rest ih =>
    obtain ⟨j, b⟩ := e
    rw [putIn, lookup_cons]
    by_cases hj : j = k
    · subst hj
      simp
    · rw [if_neg hj, if_neg (Ne.symm hj), List.length_cons, ih]
      split <;> rfl

/-- An entry put under a known key takes the place of the old one. -/
theorem size_put_of_some {r : Roster κ α} {k : κ} {a : α} (h : r.get? k = some a) (b : α) :
    (r.put k b).size = r.size := by
  have hlength := length_putIn k b r.entries
  rwa [show r.entries.lookup k = some a from h, Option.isSome_some, if_pos rfl] at hlength

/-- An entry put under a new key is one more. -/
theorem size_put_of_none {r : Roster κ α} {k : κ} (h : r.get? k = none) (b : α) :
    (r.put k b).size = r.size + 1 := by
  have hlength := length_putIn k b r.entries
  rwa [show r.entries.lookup k = none from h, Option.isSome_none, if_neg Bool.false_ne_true]
    at hlength

/-- There is nothing to erase where nothing stands. -/
theorem erase_of_get?_none {r : Roster κ α} {k : κ} (h : r.get? k = none) : r.erase k = r := by
  apply ext_entries
  refine List.filter_eq_self.mpr fun e he => ?_
  simpa using lookup_eq_none h e he

/-- With distinct keys, what stands in the list under a key is what is found there. -/
theorem lookup_eq_some_iff {k : κ} {a : α} {es : List (κ × α)}
    (hdistinct : (es.map (·.1)).Nodup) : es.lookup k = some a ↔ (k, a) ∈ es := by
  induction es with
  | nil => simp
  | cons e rest ih =>
    obtain ⟨j, b⟩ := e
    rw [List.map_cons, List.nodup_cons] at hdistinct
    rw [lookup_cons, List.mem_cons, Prod.mk.injEq]
    by_cases hk : k = j
    · have habsent : (k, a) ∉ rest := by
        intro hmem
        exact hdistinct.1 (hk ▸ List.mem_map.mpr ⟨_, hmem, rfl⟩)
      rw [if_pos hk, Option.some_inj]
      constructor
      · intro heq
        exact .inl ⟨hk, heq.symm⟩
      · rintro (⟨-, heq⟩ | hmem)
        · exact heq.symm
        · exact absurd hmem habsent
    · rw [if_neg hk, ih hdistinct.2]
      constructor
      · exact .inr
      · rintro (⟨heq, -⟩ | hmem)
        · exact absurd heq hk
        · exact hmem

theorem mem_entries_iff {r : Roster κ α} {k : κ} {a : α} :
    (k, a) ∈ r.entries ↔ r.get? k = some a :=
  (lookup_eq_some_iff r.distinct).symm

theorem perm_of_lookup {k : κ} {a : α} {es : List (κ × α)} (hdistinct : (es.map (·.1)).Nodup)
    (h : es.lookup k = some a) :
    (es.map (·.2)).Perm (a :: (es.filter fun e => decide (e.1 ≠ k)).map (·.2)) := by
  induction es with
  | nil => contradiction
  | cons e rest ih =>
    obtain ⟨j, b⟩ := e
    rw [List.map_cons, List.nodup_cons] at hdistinct
    rw [lookup_cons] at h
    by_cases hj : j = k
    · subst hj
      rw [if_pos rfl] at h
      obtain rfl := Option.some.inj h
      -- The key stands nowhere else, so nothing is filtered from the rest.
      have habsent : rest.filter (fun e => decide (e.1 ≠ j)) = rest := by
        refine List.filter_eq_self.mpr fun e he => ?_
        simpa using fun hk : e.1 = j => hdistinct.1 (List.mem_map.mpr ⟨e, he, hk⟩)
      rw [List.filter_cons_of_neg (by simp), habsent]
      exact List.Perm.refl _
    · rw [if_neg (Ne.symm hj)] at h
      rw [List.filter_cons_of_pos (by simp [hj])]
      exact ((ih hdistinct.2 h).cons b).trans (List.Perm.swap a b _)

/-- The entries are the one under a key and those without it. -/
theorem values_of_get? {r : Roster κ α} {k : κ} {a : α} (h : r.get? k = some a) :
    r.values.Perm (a :: (r.erase k).values) :=
  perm_of_lookup r.distinct h

theorem mem_values_of_get? {r : Roster κ α} {k : κ} {a : α} (h : r.get? k = some a) :
    a ∈ r.values :=
  (values_of_get? h).mem_iff.mpr List.mem_cons_self

theorem mem_values_iff {r : Roster κ α} {a : α} : a ∈ r.values ↔ ∃ k, r.get? k = some a := by
  constructor
  · intro ha
    obtain ⟨⟨k, b⟩, hmem, rfl⟩ := List.mem_map.mp ha
    exact ⟨k, mem_entries_iff.mp hmem⟩
  · rintro ⟨k, hk⟩
    exact mem_values_of_get? hk

/-- A roster without entries has nothing under any key. -/
theorem values_eq_nil_iff {r : Roster κ α} : r.values = [] ↔ ∀ k, r.get? k = none := by
  constructor
  · intro hnil k
    cases hk : r.get? k with
    | none => rfl
    | some a =>
      have ha := mem_values_of_get? hk
      rw [hnil] at ha
      contradiction
  · intro hnone
    refine List.eq_nil_iff_forall_not_mem.mpr ?_
    intro a ha
    obtain ⟨k, hk⟩ := mem_values_iff.mp ha
    rw [hnone k] at hk
    contradiction

/-! ## Entries changed all at once -/

section Mapping

variable {β : Type} {r : Roster κ α}

theorem mapEntries_congr {f g : κ → α → β} (h : ∀ k a, r.get? k = some a → f k a = g k a) :
    r.mapEntries f = r.mapEntries g := by
  refine ext_entries (List.map_congr_left ?_)
  rintro ⟨k, a⟩ hmem
  rw [h k a (mem_entries_iff.mp hmem)]

theorem mapEntries_put (r : Roster κ α) (f : κ → α → β) (k : κ) (a : α) :
    (r.put k a).mapEntries f = (r.mapEntries f).put k (f k a) := by
  obtain ⟨es, distinct⟩ := r
  apply ext_entries
  simp only [mapEntries, put]
  clear distinct
  induction es with
  | nil => rfl
  | cons e rest ih =>
    obtain ⟨j, b⟩ := e
    by_cases hj : j = k
    · simp [putIn, hj]
    · simp [putIn, hj, ih]

theorem mapEntries_erase (r : Roster κ α) (f : κ → α → β) (k : κ) :
    (r.erase k).mapEntries f = (r.mapEntries f).erase k :=
  ext_entries (by simp [mapEntries, erase, filter, List.filter_map, Function.comp_def])

end Mapping

theorem mem_keys_of_get? {r : Roster κ α} {k : κ} {a : α} (h : r.get? k = some a) : k ∈ r.keys :=
  List.mem_map.mpr ⟨(k, a), mem_entries_iff.mpr h, rfl⟩

theorem get?_of_not_has {r : Roster κ α} {k : κ} (h : ¬ r.has k = true) : r.get? k = none := by
  cases hk : r.get? k with
  | none => rfl
  | some a =>
    rw [has, hk] at h
    exact absurd rfl h

end BroadcastLink.Roster
