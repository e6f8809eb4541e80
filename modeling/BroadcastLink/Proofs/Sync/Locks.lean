import BroadcastLink.Sync.Lock
import Mathlib.Data.List.Nodup
import Mathlib.Data.List.Perm.Basic

/-!
# Who uses a lock

A lock is used by its holder and by those who want it next. Asking makes one more user; giving it
up, or no longer wanting it, makes one less, and hands it on only if it was held.
-/

namespace BroadcastLink.Lock

variable {ω : Type} {l : Lock ω} {w : ω}

/-- The holder of a lock, and those who want it next. -/
def users (l : Lock ω) : List ω := l.holder.toList ++ l.line

theorem mem_users_of_holder (h : l.holder = some w) : w ∈ l.users := by
  rw [users, h]
  exact List.mem_cons_self

/-- Whoever asks for a lock is one more user. -/
theorem users_request (l : Lock ω) (w : ω) : (l.request w).users.Perm (w :: l.users) := by
  unfold request
  split
  · rename_i hfree
    rw [users, users, hfree]
    exact List.Perm.refl _
  · rename_i other hheld
    rw [users, users, hheld]
    show ([other] ++ (l.line ++ [w])).Perm (w :: ([other] ++ l.line))
    rw [← List.append_assoc]
    exact List.perm_append_singleton w _

theorem mem_users_request {v : ω} : v ∈ (l.request w).users ↔ v = w ∨ v ∈ l.users := by
  rw [(users_request l w).mem_iff, List.mem_cons]

theorem nodup_users_request (h : l.users.Nodup) (hnew : w ∉ l.users) :
    (l.request w).users.Nodup := by
  rw [(users_request l w).nodup_iff]
  exact List.nodup_cons.mpr ⟨hnew, h⟩

/-- A lock that is held stays with its holder. -/
theorem holder_request {other : ω} (h : l.holder = some other) :
    (l.request w).holder = some other := by
  rw [request, h]

/-- Nobody stands in line for a lock that nobody holds. -/
def Prompt (l : Lock ω) : Prop := l.holder = none → l.line = []

/-- Whoever asks for a lock that nobody holds has it. -/
theorem prompt_request (l : Lock ω) (w : ω) : (l.request w).Prompt := by
  unfold request
  split
  · exact fun hfree => by contradiction
  · rename_i hheld
    exact fun hfree => by
      rw [show l.holder = none from hfree] at hheld
      contradiction

/-- As long as a lock has users, one of them holds it. -/
theorem Prompt.holder (h : l.Prompt) (hmem : w ∈ l.users) : ∃ v, l.holder = some v := by
  refine Option.ne_none_iff_exists'.mp fun hfree => ?_
  rw [users, hfree, h hfree] at hmem
  contradiction

variable [DecidableEq ω]

theorem prompt_giveUp (h : l.Prompt) (w : ω) : (l.giveUp w).1.Prompt := by
  unfold giveUp
  split
  · unfold handOn
    split
    · exact fun _ => rfl
    · exact fun hfree => by contradiction
  · intro hfree
    show l.line.filter _ = []
    rw [h hfree]
    rfl

theorem heldBy_of_holder (h : l.holder = some w) : l.heldBy w = true := beq_iff_eq.mpr h

theorem holder_of_heldBy (h : l.heldBy w = true) : l.holder = some w := beq_iff_eq.mp h

/-- A holder who gives the lock up is one user less. -/
theorem users_giveUp (h : l.holder = some w) :
    l.users = w :: (l.giveUp w).1.users := by
  have hheld : l.heldBy w = true := by
    rw [heldBy, h, beq_self_eq_true]
  rw [giveUp, if_pos hheld, handOn]
  cases hline : l.line with
  | nil =>
    rw [users, h, hline]
    rfl
  | cons next rest =>
    rw [users, h, hline]
    rfl

/-- Whoever does not hold the lock only leaves the line. -/
theorem giveUp_of_not_held (h : l.holder ≠ some w) :
    (l.giveUp w).1 = { l with line := l.line.filter (· ≠ w) } := by
  have hheld : ¬ l.heldBy w = true := fun hheld => h (holder_of_heldBy hheld)
  rw [giveUp, if_neg hheld]

/-- A lock given up by another stays with its holder. -/
theorem holder_giveUp_of_ne {other : ω} (h : l.holder = some other) (hne : other ≠ w) :
    (l.giveUp w).1.holder = some other := by
  rw [giveUp_of_not_held fun heq => hne (Option.some.inj (h.symm.trans heq))]
  exact h

/-- Whoever gives a lock up is no user of it any more; the others are as they were. -/
theorem users_giveUp_eq_filter (h : l.users.Nodup) :
    (l.giveUp w).1.users = l.users.filter (· ≠ w) := by
  by_cases hholder : l.holder = some w
  · rw [users_giveUp hholder, List.nodup_cons] at h
    rw [users_giveUp hholder, List.filter_cons_of_neg (by simp)]
    refine (List.filter_eq_self.mpr fun v hv => ?_).symm
    simpa using fun heq : v = w => h.1 (heq ▸ hv)
  · rw [giveUp_of_not_held hholder, users, users, List.filter_append]
    congr 1
    cases hheld : l.holder with
    | none => rfl
    | some other =>
      refine (List.filter_eq_self.mpr fun v hv => ?_).symm
      obtain rfl := List.mem_singleton.mp hv
      simpa using fun heq : v = w => hholder (heq ▸ hheld)

theorem mem_users_giveUp (h : l.users.Nodup) {v : ω} :
    v ∈ (l.giveUp w).1.users ↔ v ∈ l.users ∧ v ≠ w := by
  rw [users_giveUp_eq_filter h, List.mem_filter, decide_eq_true_iff]

theorem nodup_users_giveUp (h : l.users.Nodup) : (l.giveUp w).1.users.Nodup := by
  rw [users_giveUp_eq_filter h]
  exact h.filter _

end BroadcastLink.Lock
