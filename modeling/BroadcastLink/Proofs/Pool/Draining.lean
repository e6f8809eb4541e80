import BroadcastLink.Proofs.Pool.Discretion

/-!
# How a drain goes on

A drain goes on for the same call until the same deadline. When it ends, nothing that the pool lent
is out any more, or the deadline has passed; the call that waited for it is told, and it alone. That
nothing is out is seen by counting: as many sessions are open as are idle.
-/

namespace BroadcastLink.Pool

variable {p q : Pool} {event : PoolEvent} {call : CallId} {now : Instant} {d : Drain} {id : PoolId}

/-! ## Who is refused, and who is new -/

/-- Nobody but the caller that an event is about is refused by it. -/
theorem refused_perform :
    ∀ c ∈ (p.perform event).refused, c ∈ p.refused ∨ event.caller? = some c := by
  intro c hc
  cases framed_perform p event with
  | same hframe => exact .inl (refused_of_frame hframe ▸ hc)
  | answers hcaller hanswers =>
    rcases hanswers.refused c hc with hold | rfl
    · exact .inl hold
    · exact .inr hcaller
  | drains _ hcloses => exact .inl (hcloses.refused ▸ hc)
  | @resized min max now _ hq =>
    have hrefused : (p.resize min max now).refused = p.refused :=
      congrArg Frame.refused (frame_resize p min max now)
    rw [hq, hrefused] at hc
    exact .inl hc
  | settled hq =>
    rw [hq] at hc
    contradiction

/-- An event brings in nobody but the caller that it is about. -/
theorem isFresh_perform (hapart : p.Apart) (hfresh : p.IsFresh call)
    (hcaller : event.caller? ≠ some call) : (p.perform event).IsFresh call := by
  obtain ⟨hborrow, hloan⟩ := hfresh
  have htouches := touches_perform hapart event
  generalize hof : event.caller? = caller at htouches
  cases htouches with
  | @caller other hstep =>
    have hne : call ≠ other := fun heq => hcaller (heq ▸ hof)
    refine ⟨?_, ?_⟩
    · rw [hstep.others call hne]
      exact hborrow
    · rw [hstep.loans_of_ne hne]
      exact hloan
  | @loan other hstep =>
    refine ⟨?_, ?_⟩
    · rw [hstep.borrows]
      exact hborrow
    · by_cases heq : call = other
      · subst heq
        by_contra hlent
        exact hstep.still hlent hloan
      · rw [hstep.others call heq]
        exact hloan
  | nobody hstep =>
    refine ⟨?_, ?_⟩
    · rw [hstep.borrows]
      exact hborrow
    · rw [hstep.loans]
      exact hloan

/-! ## What a drain sees -/

/-- When no more sessions are open than are idle, none is lent. -/
theorem unlent_of_live_le (hlive : p.live = p.openSlots) (hown : p.Own)
    (h : p.live ≤ p.idle.length) : p.loans.values = [] := by
  have hall : p.openSlots = p.sessions.length :=
    List.countP_eq_length.mpr fun s hs => decide_eq_true (hown s hs)
  rw [hall] at hlive
  simp only [sessions, List.length_append] at hlive
  exact List.eq_nil_of_length_eq_zero (by omega)

/-- How a drain goes on: it waits on, or it has ended and tells the call that waits for it. -/
inductive Waits (d : Drain) (now : Instant) (p q : Pool) : Prop where
  | on (d' : Drain) (drain : q.drain = some d') (call : d'.call = d.call)
    (deadline : d'.deadline = d.deadline) (discreet : Discreet p q)
  | ended (drain : q.drain = none) (reason : q.loans.values = [] ∨ d.deadline ≤ now) {r : Pool}
    (discreet : Discreet p r) (told : q.bearing = (r.ask (.drained d.call)).bearing)

/-- What keeps to itself may come first. -/
theorem Waits.after {r : Pool} (h : Waits d now q r) (hdiscreet : Discreet p q) :
    Waits d now p r := by
  cases h with
  | on d' hdrain hcall hdeadline hkept =>
    exact .on d' hdrain hcall hdeadline (hdiscreet.trans hkept)
  | ended hdrain hreason hkept htold => exact .ended hdrain hreason (hdiscreet.trans hkept) htold

theorem waits_finishDrain (h : ∀ s ∈ p.idle, p.Closes s)
    (hreason : p.loans.values = [] ∨ d.deadline ≤ now) : Waits d now p (p.finishDrain d.call) := by
  have hclosing := closing_of_frame (frame_clear { p with drain := none })
  have hholders := sameHolders_clear { p with drain := none }
  refine .ended (r := { p with drain := none }.clear) (congrArg Closing.drain hclosing) ?_ ?_ rfl
  · refine hreason.imp_left fun hnone => ?_
    show ({ p with drain := none }.clear).loans.values = []
    rw [hholders.loans]
    exact hnone
  · exact discreet_clear (p := { p with drain := none }) h

theorem waits_lookForLent (hlive : p.live = p.openSlots) (hown : p.Own) (d : Drain)
    (now : Instant) : Waits d now p (p.lookForLent d now) := by
  unfold lookForLent
  dsimp only
  split
  · rename_i hback
    have hleft := discreet_leave (p.enter .drainer) .drainer
    have hnone : p.loans.values = [] := unlent_of_live_le hlive hown hback
    exact Waits.after (waits_finishDrain (fun s hs => hleft.closes (hown.idle s hs)) (.inl hnone))
      (hleft.after rfl)
  · exact .on _ rfl rfl rfl (.of_same rfl)

theorem waits_resumeDrain (hlive : p.live = p.openSlots) (hown : p.Own) (hdrain : p.drain = some d)
    (now : Instant) : Waits d now p (p.resumeDrain now) := by
  rw [resumeDrain, hdrain]
  dsimp only
  split
  · have hlook := waits_lookForLent (p := { p with available := p.available.hear .drainer })
      hlive hown d now
    rw [hdrain] at hlook
    exact hlook.after (.of_same rfl)
  · split
    · exact (waits_lookForLent (p := p.leave .drainer) hlive hown d now).after
        (discreet_leave p .drainer)
    · exact .on d hdrain rfl rfl (.refl p)

theorem waits_drainExpired (hown : p.Own) (hdrain : p.drain = some d) (now : Instant) :
    Waits d now p (p.drainExpired now) := by
  have hleft := discreet_leave p .drainer
  rw [drainExpired, hdrain]
  dsimp only
  split
  · rename_i hpassed
    exact Waits.after
      (waits_finishDrain (fun s hs => hleft.closes (hown.idle s hs)) (.inr hpassed)) hleft
  · exact .on d hdrain rfl rfl (.refl p)

/-- A drain that starts in an open pool waits until its timeout has passed. -/
theorem waits_startDrain (hlive : p.live = p.openSlots) (hown : p.Own) (hopen : p.isClosed = false)
    (call : CallId) (now : Instant) :
    Waits ⟨call, p.settings.drainTimeout.after now, now, 0⟩ now p (p.startDrain call now) := by
  rw [startDrain, if_neg (by simp [hopen])]
  have hclosed : Discreet p ({ p with isClosed := true }.ask .wakeUpkeep) :=
    (discreet_ask { p with isClosed := true } rfl).after rfl
  have htold := hclosed.trans (discreet_tellAll _)
  exact (waits_lookForLent (p := ({ p with isClosed := true }.ask .wakeUpkeep).tellAll)
    hlive hown _ now).after htold

end BroadcastLink.Pool
