import BroadcastLink.Proofs.Station.Aside

/-!
# Who has studios launched

Sessions, pools and channels dial and wait, but have nothing launched. What wants a studio launched
is a call that works on the links and has taken the studio in hand.
-/

namespace BroadcastLink.Station

variable {s : Station} {studio : Studio}

theorem session_want_ne_launch (session : Session) (studio : Studio) :
    session.want ≠ .launch studio := by
  unfold Session.want
  split <;> simp

theorem borrowWant_ne_launch (p : Pool) (call : CallId) (studio : Studio) :
    p.borrowWant call ≠ .launch studio := by
  unfold Pool.borrowWant
  split
  · exact session_want_ne_launch _ studio
  · simp
  · split <;> simp
  · simp

theorem drainWant_ne_launch (p : Pool) (studio : Studio) : p.drainWant ≠ .launch studio := by
  unfold Pool.drainWant
  split <;> simp

theorem callWant_ne_launch (c : Channel) (call : CallId) (studio : Studio) :
    c.callWant call ≠ .launch studio := by
  unfold Channel.callWant
  split
  · simp
  · split <;> simp

/-- Nobody but a call that works on the links wants a launch. -/
theorem work_of_want_launch {task : Task} (h : s.want task = .launch studio) :
    ∃ c job, task = .call c ∧ s.work? c = some (job, .up studio) := by
  have getD_ne {α : Type} (o : Option α) (f : α → Want) (hf : ∀ a, f a ≠ .launch studio) :
      (o.map f).getD .patience ≠ .launch studio := by
    cases o <;> simp [hf]
  cases task with
  | upkeep pool =>
    refine absurd h (getD_ne _ _ fun p => ?_)
    unfold Pool.upkeepWant
    split
    · split <;> simp
    all_goals simp
  | listener channel =>
    refine absurd h (getD_ne _ _ fun c => ?_)
    unfold Channel.listenerWant
    split
    · simp
    · split <;> simp
  | call c =>
    replace h : s.callWant c = .launch studio := h
    unfold callWant at h
    split at h
    all_goals try contradiction
    · exact absurd h (getD_ne _ _ fun p => borrowWant_ne_launch p c studio)
    · exact absurd h (getD_ne _ _ fun p => borrowWant_ne_launch p c studio)
    · refine absurd h (getD_ne _ _ fun p => ?_)
      exact getD_ne _ _ fun session => session_want_ne_launch session studio
    · exact absurd h (getD_ne _ _ fun session => session_want_ne_launch session studio)
    · exact absurd h (getD_ne _ _ fun p => drainWant_ne_launch p studio)
    · exact absurd h (getD_ne _ _ fun ch => callWant_ne_launch ch c studio)
    · exact absurd h (getD_ne _ _ fun ch => callWant_ne_launch ch c studio)
    · rename_i job stage hcall
      cases stage with
      | launching launched =>
        obtain rfl := Want.launch.inj h
        exact ⟨c, job, rfl, work_of_calls hcall⟩
      | draining link => exact absurd h (getD_ne _ _ fun p => drainWant_ne_launch p studio)
      | stopping link => exact absurd h (getD_ne _ _ fun ch => callWant_ne_launch ch c studio)
      | queued =>
        unfold jobWant at h
        split at h
        · split at h <;> contradiction
        all_goals contradiction
      | _ => contradiction

end BroadcastLink.Station
