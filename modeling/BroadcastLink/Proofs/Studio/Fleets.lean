import BroadcastLink.Pool
import BroadcastLink.Proofs.Roster.Values
import BroadcastLink.Studio.Fleet
import Mathlib.Data.List.Basic

/-!
# Sound configurations

A configuration that is not rejected has each studio under its own name, with bounds that a pool
takes over as they are.
-/

namespace BroadcastLink

/-- A definition that is not rejected has bounds that go together. -/
theorem Studio.bounds_of_validate {s : Studio} (h : s.validate = .ok ()) :
    Nat.max s.maxPool.toNat 1 = s.maxPool.toNat ∧
      Nat.min s.minPool.toNat s.maxPool.toNat = s.minPool.toNat := by
  have hsound : s.defect? = none := by
    unfold validate at h
    split at h
    · contradiction
    · assumption
  simp only [defect?, ite_eq_iff, reduceCtorEq, and_false, false_or, and_true] at hsound
  obtain ⟨-, -, -, hmax, hmin⟩ := hsound
  have hpos : s.maxPool.toNat ≠ 0 := fun hzero => hmax (UInt64.toNat_inj.mp hzero)
  have hle : s.minPool.toNat ≤ s.maxPool.toNat := by
    rw [UInt64.lt_iff_toNat_lt] at hmin
    omega
  exact ⟨Nat.max_eq_left (by omega), Nat.min_eq_left hle⟩

namespace Fleet

variable {f : Fleet} {name : String} {s : Studio}

theorem nodup_keys (f : Fleet) : f.keys.Nodup := by
  refine List.pairwise_map.mpr (f.ascending.imp ?_)
  intro a b hlt heq
  exact String.lt_irrefl _ (heq ▸ hlt)

theorem mem_entries_iff : (name, s) ∈ f.entries ↔ f.get? name = some s :=
  (Roster.lookup_eq_some_iff f.nodup_keys).symm

theorem mem_keys_iff : name ∈ f.keys ↔ f.get? name ≠ none := by
  constructor
  · intro hkey
    obtain ⟨⟨k, s⟩, hmem, rfl⟩ := List.mem_map.mp hkey
    rw [mem_entries_iff.mp hmem]
    exact Option.some_ne_none s
  · intro hsome
    obtain ⟨s, hs⟩ := Option.ne_none_iff_exists'.mp hsome
    exact List.mem_map.mpr ⟨(name, s), mem_entries_iff.mpr hs, rfl⟩

/-- What goes through a whole list without a fault has no fault to find with any of it. -/
theorem ok_of_forM {α : Type} {check : α → Except Fault Unit} {as : List α}
    (h : as.forM check = .ok ()) : ∀ a ∈ as, check a = .ok () := by
  induction as with
  | nil =>
    intro a ha
    contradiction
  | cons b rest ih =>
    replace h : (check b >>= fun _ => rest.forM check) = .ok () := h
    cases hfirst : check b with
    | error fault =>
      rw [hfirst] at h
      contradiction
    | ok _ =>
      rw [hfirst] at h
      intro a ha
      rcases List.mem_cons.mp ha with rfl | hrest
      · exact hfirst
      · exact ih h a hrest

/-- What finds a fault with something in a list stops with the fault of the first such thing. -/
theorem error_of_forM {α : Type} {check : α → Except Fault Unit} {as : List α}
    (h : ∃ a ∈ as, check a ≠ .ok ()) :
    ∃ a ∈ as, ∃ fault, check a = .error fault ∧ as.forM check = .error fault := by
  obtain ⟨a, ha, hbad⟩ := h
  induction as with
  | nil => contradiction
  | cons b rest ih =>
    have hunfold : (b :: rest).forM check = (check b >>= fun _ => rest.forM check) := rfl
    cases hfirst : check b with
    | error fault =>
      refine ⟨b, List.mem_cons_self, fault, hfirst, ?_⟩
      rw [hunfold, hfirst]
      rfl
    | ok _ =>
      have hrest : a ∈ rest := by
        rcases List.mem_cons.mp ha with rfl | hrest
        · exact absurd hfirst hbad
        · exact hrest
      obtain ⟨c, hc, fault, hfault, hstops⟩ := ih hrest
      refine ⟨c, List.mem_cons_of_mem _ hc, fault, hfault, ?_⟩
      rw [hunfold, hfirst]
      exact hstops

/-- In a configuration that is not rejected, each studio stands under its name and is sound. -/
theorem sound_of_validate (h : f.validate = .ok ()) (hs : f.get? name = some s) :
    s.name = name ∧ s.validate = .ok () := by
  have hcheck := ok_of_forM h (name, s) (mem_entries_iff.mpr hs)
  by_cases hname : name = s.name
  · simp only [hname, ne_eq, not_true_eq_false, if_false] at hcheck
    exact ⟨hname.symm, hcheck⟩
  · simp only [ne_eq, hname, not_false_eq_true, if_true] at hcheck
    contradiction

/-- An entry that may not stand in a configuration: its key is not the name of its studio, or the
definition of the studio is invalid. -/
def IsFlawed (entry : String × Studio) : Prop :=
  entry.1 ≠ entry.2.name ∨ entry.2.validate ≠ .ok ()

/-- What the check of a configuration finds with one entry. -/
def checkEntry (entry : String × Studio) : Except Fault Unit :=
  if entry.1 = entry.2.name then entry.2.validate
  else .error (.invalidConfig entry.1 ("key does not match name `" ++ entry.2.name ++ "`"))

theorem validate_eq_forM (f : Fleet) : f.validate = f.entries.forM checkEntry := by
  refine congrArg f.entries.forM (funext fun entry => ?_)
  by_cases hname : entry.1 = entry.2.name
  · simp [checkEntry, hname]
  · simp only [checkEntry, hname, ne_eq, not_false_eq_true, if_true, if_false]
    rfl

theorem isFlawed_iff {entry : String × Studio} : IsFlawed entry ↔ checkEntry entry ≠ .ok () := by
  unfold IsFlawed checkEntry
  split <;> simp_all

/-- The fault that is found with an entry names its key. -/
theorem invalidConfig_of_checkEntry {entry : String × Studio} {fault : Fault}
    (h : checkEntry entry = .error fault) : ∃ reason, fault = .invalidConfig entry.1 reason := by
  unfold checkEntry at h
  split at h
  · rename_i hname
    unfold Studio.validate at h
    split at h
    · exact ⟨_, hname ▸ (Except.error.inj h).symm⟩
    · contradiction
  · exact ⟨_, (Except.error.inj h).symm⟩

/-- A configuration with a flawed entry is rejected, wherever it stands, and the fault names the key
of such an entry. -/
theorem invalidConfig_of_flawed (h : ∃ entry ∈ f.entries, IsFlawed entry) :
    ∃ entry ∈ f.entries, IsFlawed entry ∧
      ∃ reason, f.validate = .error (.invalidConfig entry.1 reason) := by
  simp only [isFlawed_iff] at h ⊢
  obtain ⟨entry, hentry, fault, hfault, hstops⟩ := error_of_forM h
  obtain ⟨reason, rfl⟩ := invalidConfig_of_checkEntry hfault
  refine ⟨entry, hentry, ?_, reason, f.validate_eq_forM.trans hstops⟩
  rw [hfault]
  exact fun heq => by contradiction

end Fleet

end BroadcastLink
