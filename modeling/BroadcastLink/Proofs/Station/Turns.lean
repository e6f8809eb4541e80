import BroadcastLink.Proofs.Station.Events
import BroadcastLink.Proofs.Sync.Locks
import Mathlib.Tactic.ByContra

/-!
# One call at a time

Calls that change the set of links take turns. Whoever has its turn works, everybody else who wants
it is queued, each once; so whatever one call finds in the registry stays so until it changes it.
-/

namespace BroadcastLink

namespace Station

variable {s s' : Station} {call : CallId}

/-- The turn goes round among the calls that work on the links: they are its users, each once, and
only the one that has it is past being queued. -/
structure InTurn (s : Station) : Prop where
  users : ∀ call, call ∈ s.registry.turn.users ↔ s.work? call ≠ none
  once : s.registry.turn.users.Nodup
  alone : ∀ call job phase, s.work? call = some (job, phase) → phase ≠ .queued →
    s.registry.turn.holder = some call

namespace InTurn

/-- Whoever has the turn is at work. -/
theorem works (h : s.InTurn) (hholder : s.registry.turn.holder = some call) :
    s.work? call ≠ none :=
  (h.users call).mp (Lock.mem_users_of_holder hholder)

/-- Turns depend on the lock and on the work of the calls alone. -/
theorem same (h : s.InTurn) (hturn : s'.registry.turn = s.registry.turn)
    (hwork : ∀ call, s'.work? call = s.work? call) : s'.InTurn := by
  refine ⟨?_, ?_, ?_⟩
  · intro call
    rw [hturn, hwork]
    exact h.users call
  · rw [hturn]
    exact h.once
  · intro call job phase
    rw [hturn, hwork]
    exact h.alone call job phase

theorem aside (h : s.InTurn) (haside : Aside s s') : s'.InTurn :=
  h.same (congrArg Registry.turn haside.registry) haside.work

/-- The call that has its turn may go on with its work. -/
theorem goOn (h : s.InTurn) (hholder : s.registry.turn.holder = some call)
    (hturn : s'.registry.turn = s.registry.turn) (hothers : ∀ c, c ≠ call → s'.work? c = s.work? c)
    (hwork : s'.work? call ≠ none) : s'.InTurn := by
  refine ⟨?_, ?_, ?_⟩
  · intro c
    rw [hturn]
    by_cases heq : c = call
    · rw [heq]
      exact iff_of_true (Lock.mem_users_of_holder hholder) hwork
    · rw [hothers c heq]
      exact h.users c
  · rw [hturn]
    exact h.once
  · intro c job phase hc hphase
    rw [hturn]
    by_cases heq : c = call
    · rw [heq]
      exact hholder
    · rw [hothers c heq] at hc
      exact h.alone c job phase hc hphase

/-- A new call asks for its turn. -/
theorem start (h : s.InTurn) (hfresh : s.work? call = none) {job : Job}
    (hturn : s'.registry.turn = s.registry.turn.request call)
    (hothers : ∀ c, c ≠ call → s'.work? c = s.work? c)
    (hwork : s'.work? call = some (job, .queued)) : s'.InTurn := by
  have husers := s.registry.turn.users_request call
  refine ⟨?_, ?_, ?_⟩
  · intro c
    rw [hturn, husers.mem_iff, List.mem_cons]
    by_cases heq : c = call
    · rw [heq, hwork]
      exact iff_of_true (.inl rfl) (Option.some_ne_none _)
    · rw [hothers c heq, ← h.users c]
      exact or_iff_right heq
  · have hnew : call ∉ s.registry.turn.users := fun hmem => (h.users call).mp hmem hfresh
    rw [hturn, husers.nodup_iff]
    exact List.nodup_cons.mpr ⟨hnew, h.once⟩
  · intro c job' phase hc hphase
    by_cases heq : c = call
    · rw [heq, hwork] at hc
      obtain ⟨-, rfl⟩ := Prod.mk.inj (Option.some.inj hc)
      exact absurd rfl hphase
    · rw [hothers c heq] at hc
      rw [hturn]
      exact Lock.holder_request (h.alone c job' phase hc hphase)

/-- Everybody but the call that has its turn is queued. -/
theorem queued (h : s.InTurn) (hholder : s.registry.turn.holder = some call) {c : CallId}
    {job : Job} {phase : JobPhase} (hne : c ≠ call) (hc : s.work? c = some (job, phase)) :
    phase = .queued := by
  by_contra hpast
  have hheld := h.alone c job phase hc hpast
  exact hne (Option.some.inj (hheld.symm.trans hholder))

/-- The call that has its turn gives it up and is over. -/
theorem finish (h : s.InTurn) (hholder : s.registry.turn.holder = some call)
    (hturn : s'.registry.turn = (s.registry.turn.giveUp call).1)
    (hothers : ∀ c, c ≠ call → s'.work? c = s.work? c) (hwork : s'.work? call = none) :
    s'.InTurn := by
  have honce := h.once
  rw [Lock.users_giveUp hholder, List.nodup_cons] at honce
  refine ⟨?_, ?_, ?_⟩
  · intro c
    rw [hturn]
    by_cases heq : c = call
    · rw [heq, hwork]
      exact iff_of_false honce.1 fun hne => hne rfl
    · have hold := h.users c
      rw [Lock.users_giveUp hholder, List.mem_cons] at hold
      rw [hothers c heq, ← hold]
      exact (or_iff_right heq).symm
  · rw [hturn]
    exact honce.2
  · intro c job phase hc hphase
    by_cases heq : c = call
    · rw [heq, hwork] at hc
      contradiction
    · rw [hothers c heq] at hc
      exact absurd (h.queued hholder heq hc) hphase

end InTurn

/-! ## The work of the calls -/

theorem work_putJob (s : Station) (call : CallId) (job : Job) (stage : JobStage) (c : CallId) :
    (s.putJob call job stage).work? c =
      if c = call then some (job, stage.phase) else s.work? c := by
  show ((s.calls.put call (.reconciling job stage)).get? c).bind Activity.work? = _
  rw [Roster.get?_put]
  split <;> rfl

/-- A new call asks for its turn, and is woken to see whether it has it. -/
theorem aside_startJob (s : Station) (call : CallId) (job : Job) :
    Aside ((s.onRegistry fun r => { r with turn := r.turn.request call }).putJob call job .queued)
      (s.startJob call job) :=
  aside_wake _ _

/-- Giving up one's turn also wakes the call that has it next. -/
theorem aside_giveUpTurn (s : Station) (call : CallId) :
    Aside (s.onRegistry fun r => { r with turn := (r.turn.giveUp call).1 }) (s.giveUpTurn call) :=
  aside_fold (fun s call => aside_wake s (.call call)) _ _

/-- Giving up one's turn wakes the call that has it next. -/
theorem exists_ready_giveUpTurn (s : Station) (call : CallId) :
    ∃ ready, s.giveUpTurn call =
      { s with
        registry := { s.registry with turn := (s.registry.turn.giveUp call).1 }
        ready := ready } := by
  unfold giveUpTurn
  dsimp only
  cases (s.registry.turn.giveUp call).2 with
  | none => exact ⟨s.ready, rfl⟩
  | some next => exact exists_ready_wake _ _

/-- A call that is over gave up its turn, and that is all that changed in the registry. -/
theorem registry_finishJob (s : Station) (call : CallId) (a : Answer) :
    (s.finishJob call a).registry =
      { s.registry with turn := (s.registry.turn.giveUp call).1 } :=
  (aside_giveUpTurn s call).registry

theorem work_finishJob (s : Station) (call : CallId) (a : Answer) (c : CallId) :
    (s.finishJob call a).work? c = if c = call then none else s.work? c := by
  have hwork := (aside_giveUpTurn s call).work c
  show (((s.giveUpTurn call).calls.erase call).get? c).bind Activity.work? = _
  rw [Roster.get?_erase]
  split
  · rfl
  · exact hwork

/-- No pool and no channel is touched. -/
theorem pools_finishJob (s : Station) (call : CallId) (a : Answer) :
    (s.finishJob call a).pools = s.pools ∧ (s.finishJob call a).channels = s.channels := by
  obtain ⟨ready, hgiven⟩ := exists_ready_giveUpTurn s call
  rw [finishJob, hgiven]
  exact ⟨rfl, rfl⟩

/-- A summary that was given before stands, and the one that is given now. -/
theorem summaries_finishJob {a : Answer} {c : CallId} {summary : Summary}
    (h : (c, .summary summary) ∈ (s.finishJob call a).answers) :
    (c, .summary summary) ∈ s.answers ∨ (c = call ∧ .summary summary = a) := by
  rcases List.mem_append.mp h with hold | hnew
  · exact .inl ((aside_giveUpTurn s call).summaries c summary hold)
  · exact .inr (Prod.mk.inj (List.mem_singleton.mp hnew))

end Station

end BroadcastLink
