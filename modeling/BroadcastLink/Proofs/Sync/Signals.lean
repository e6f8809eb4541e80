import BroadcastLink.Proofs.Roster.Values
import BroadcastLink.Sync.Signal
import Mathlib.Data.List.Basic

/-!
# Who is told by a signal

As long as anyone waits, telling one makes one more who was told, and who was told and leaves
without having heard tells the next. So what was told is not lost on the way.
-/

namespace BroadcastLink.Signal

variable {ω : Type} {s : Signal ω} {v w : ω}

/-- Who stands in line, first come first. -/
def names (s : Signal ω) : List ω := s.line.map (·.1)

/-- Was this one told as the one? -/
def wasTold (e : ω × Standing) : Bool := e.2 == .told

/-- How many were told as the one and have not heard yet. -/
def told (s : Signal ω) : Nat := s.line.countP wasTold

/-- Somebody is in line and was not told. -/
def Waits (s : Signal ω) (w : ω) : Prop := (w, .waiting) ∈ s.line

/-! ## Telling -/

/-- Who is told as the one is the first of those who wait. -/
theorem tellFirst_eq_some {line line' : List (ω × Standing)}
    (h : tellFirst line = some (line', w)) : ∃ front back,
      line = front ++ (w, .waiting) :: back ∧ line' = front ++ (w, .told) :: back := by
  induction line generalizing line' with
  | nil => contradiction
  | cons e rest ih =>
    obtain ⟨u, standing⟩ := e
    -- The first in line is told if it waits; otherwise somebody behind it is.
    cases standing with
    | waiting =>
      obtain ⟨rfl, rfl⟩ := Prod.mk.inj (Option.some.inj h)
      exact ⟨[], rest, rfl, rfl⟩
    | told | freed =>
      rw [tellFirst] at h
      · obtain ⟨⟨later, x⟩, hlater, hpair⟩ := Option.map_eq_some_iff.mp h
        obtain ⟨rfl, rfl⟩ := Prod.mk.inj hpair
        obtain ⟨front, back, hrest, hback⟩ := ih hlater
        exact ⟨_ :: front, back, by rw [hrest, List.cons_append], by rw [hback, List.cons_append]⟩
      · intro u' hwaiting
        simp at hwaiting

theorem tellFirst_eq_none {line : List (ω × Standing)} (h : tellFirst line = none) :
    (w, .waiting) ∉ line := by
  induction line with
  | nil => exact List.not_mem_nil
  | cons e rest ih =>
    obtain ⟨u, standing⟩ := e
    cases standing with
    | waiting => contradiction
    | told | freed =>
      rw [tellFirst] at h
      · have hrest := ih (Option.map_eq_none_iff.mp h)
        simp [hrest]
      · intro u' hwaiting
        simp at hwaiting

/-- Telling one tells the first who waits, or is remembered because nobody does. -/
theorem tellOne_cases (s : Signal ω) :
    (∃ front back w, s.line = front ++ (w, .waiting) :: back ∧
        s.tellOne.1.line = front ++ (w, .told) :: back) ∨
      (∀ w, ¬ s.Waits w) ∧ s.tellOne.1.line = s.line := by
  cases hfirst : tellFirst s.line with
  | none => exact .inr ⟨fun w => tellFirst_eq_none hfirst, by rw [tellOne, hfirst]⟩
  | some found =>
    obtain ⟨line, w⟩ := found
    obtain ⟨front, back, hline, hline'⟩ := tellFirst_eq_some hfirst
    exact .inl ⟨front, back, w, hline, by rw [tellOne, hfirst]; exact hline'⟩

theorem names_tellOne (s : Signal ω) : s.tellOne.1.names = s.names := by
  obtain ⟨front, back, w, hline, hline'⟩ | ⟨-, hline⟩ := tellOne_cases s
  · rw [names, names, hline, hline', List.map_append, List.map_append]
    rfl
  · rw [names, names, hline]

theorem waits_of_tellOne (h : s.tellOne.1.Waits v) : s.Waits v := by
  obtain ⟨front, back, w, hline, hline'⟩ | ⟨-, hline⟩ := tellOne_cases s
  · rw [Waits, hline'] at h
    rw [Waits, hline]
    rcases List.mem_append.mp h with hfront | hback
    · exact List.mem_append_left _ hfront
    · rcases List.mem_cons.mp hback with heq | hback
      · simp at heq
      · exact List.mem_append_right _ (List.mem_cons_of_mem _ hback)
  · rwa [Waits, hline] at h

/-- One more was told, as long as anyone waited. -/
theorem told_tellOne (h : s.Waits v) : s.tellOne.1.told = s.told + 1 := by
  obtain ⟨front, back, w, hline, hline'⟩ | ⟨hnobody, -⟩ := tellOne_cases s
  · have hwaiting : wasTold (w, .waiting) = false := rfl
    have htold : wasTold (w, .told) = true := rfl
    rw [told, told, hline, hline', List.countP_append, List.countP_append, List.countP_cons,
      List.countP_cons, hwaiting, htold]
    simp only [if_true, Bool.false_eq_true, if_false]
    omega
  · exact absurd h (hnobody v)

theorem names_tellAll (s : Signal ω) : s.tellAll.1.names = s.names := by
  rw [names, names, tellAll, List.map_map]
  refine List.map_congr_left ?_
  intro e _
  show (if isWaiting e then (e.1, Standing.freed) else e).1 = e.1
  split <;> rfl

/-- When all are told, nobody waits any more. -/
theorem not_waits_tellAll (s : Signal ω) (w : ω) : ¬ s.tellAll.1.Waits w := by
  intro h
  obtain ⟨e, -, heq⟩ := List.mem_map.mp h
  by_cases hwaiting : isWaiting e = true
  · rw [if_pos hwaiting] at heq
    simp at heq
  · rw [if_neg hwaiting] at heq
    rw [heq] at hwaiting
    exact hwaiting rfl

/-! ## Coming and going -/

theorem names_enter (s : Signal ω) (w : ω) : (s.enter w).names = s.names ++ [w] := by
  unfold enter
  split <;> exact List.map_append

theorem told_enter (s : Signal ω) (w : ω) : (s.enter w).told = s.told := by
  unfold enter
  split
  · exact List.countP_append
  · exact List.countP_append

theorem waits_of_enter (h : (s.enter w).Waits v) (hne : v ≠ w) : s.Waits v := by
  have hline : ∃ standing, (s.enter w).line = s.line ++ [(w, standing)] := by
    unfold enter
    split
    · exact ⟨.freed, rfl⟩
    · exact ⟨.waiting, rfl⟩
  obtain ⟨standing, hline⟩ := hline
  rw [Waits, hline] at h
  rcases List.mem_append.mp h with hold | hnew
  · exact hold
  · obtain ⟨heq, -⟩ := Prod.mk.inj (List.mem_singleton.mp hnew)
    exact absurd heq hne

variable [DecidableEq ω]

theorem names_without (s : Signal ω) (w : ω) :
    (s.without w).names = s.names.filter fun v => v ≠ w := by
  rw [names, names, without, List.filter_map]
  rfl

theorem not_mem_names_without (s : Signal ω) (w : ω) : w ∉ (s.without w).names := by
  rw [names_without]
  simp

theorem waits_of_without (h : (s.without w).Waits v) : s.Waits v :=
  List.mem_of_mem_filter h

/-- Where somebody stands is said by the one entry there is. -/
theorem standing_of_mem {standing : Standing} (hnames : s.names.Nodup)
    (h : (w, standing) ∈ s.line) : s.standing? w = some standing :=
  (Roster.lookup_eq_some_iff hnames).mpr h

theorem countP_told_filter {line : List (ω × Standing)} (hnames : (line.map (·.1)).Nodup)
    (w : ω) : line.countP wasTold = (line.filter fun e => e.1 ≠ w).countP wasTold +
      if line.lookup w = some .told then 1 else 0 := by
  induction line with
  | nil => rfl
  | cons e rest ih =>
    obtain ⟨u, standing⟩ := e
    rw [List.map_cons, List.nodup_cons] at hnames
    rw [Roster.lookup_cons, List.countP_cons]
    by_cases hu : u = w
    · -- The entry that goes; there is no other of this name.
      subst hu
      have hrest : rest.filter (fun e => decide (e.1 ≠ u)) = rest := by
        refine List.filter_eq_self.mpr ?_
        intro e he
        have hne : e.1 ≠ u := by
          intro heq
          exact hnames.1 (List.mem_map.mpr ⟨e, he, heq⟩)
        exact decide_eq_true hne
      rw [if_pos rfl, List.filter_cons_of_neg (by simp), hrest]
      cases standing <;> simp [wasTold]
    · rw [if_neg (Ne.symm hu), List.filter_cons_of_pos (by simp [hu]), List.countP_cons,
        ih hnames.2]
      omega

/-- Who leaves takes along what only this one was told. -/
theorem told_without (hnames : s.names.Nodup) (w : ω) :
    s.told = (s.without w).told + if s.standing? w = some .told then 1 else 0 :=
  countP_told_filter hnames w

theorem told_le_without (hnames : s.names.Nodup) (w : ω) : s.told ≤ (s.without w).told + 1 := by
  have htold := told_without hnames w
  split at htold <;> omega

theorem nodup_without (hnames : s.names.Nodup) (w : ω) : (s.without w).names.Nodup := by
  rw [names_without]
  exact hnames.filter _

/-- Whoever leaves is out of line, and the others stay in it. -/
theorem names_leave (s : Signal ω) (w : ω) : (s.leave w).1.names = (s.without w).names := by
  unfold leave
  split
  · exact names_tellOne (s.without w)
  · rfl

theorem waits_of_leave (h : (s.leave w).1.Waits v) : s.Waits v := by
  unfold leave at h
  split at h
  · exact waits_of_without (waits_of_tellOne h)
  · exact waits_of_without h

/-- As long as anyone waits, what was told to one who leaves is told to another. -/
theorem told_le_leave (hnames : s.names.Nodup) (h : (s.leave w).1.Waits v) :
    s.told ≤ (s.leave w).1.told := by
  have htold := told_without hnames w
  unfold leave at h ⊢
  split
  · rename_i hstanding
    rw [if_pos hstanding] at h
    rw [if_pos hstanding] at htold
    have htellOne := told_tellOne (waits_of_tellOne h)
    omega
  · rename_i hstanding
    rw [if_neg hstanding] at htold
    exact Nat.le_of_eq htold

end BroadcastLink.Signal
