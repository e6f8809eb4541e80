import BroadcastLink.Proofs.Pool.Idle
import BroadcastLink.Proofs.Session.Harm

/-!
# Where the sessions of a pool come from

An event tells one session something, or brings one in, or neither. All the sessions that a pool has
in its hands afterwards are those, less some that were closed; and one may be under check that was
idle before. Where a session is under check or lent, it says how it got there.
-/

namespace BroadcastLink

namespace PoolEvent

/-- What the session under check for a call is told. -/
def heard? : PoolEvent → Option (CallId × Instant × Stimulus)
  | .hearCheck call now stimulus => some (call, now, stimulus)
  | .stageExpired call now => some (call, now, .expired)
  | _ => none

/-- What happens to the session lent to a call. -/
def used? : PoolEvent → Option (CallId × SessionEvent)
  | .sendOn call commands => some (call, .send commands)
  | .checkOn call timeout => some (call, .check timeout)
  | .hearLoan call now stimulus => some (call, .hear now stimulus)
  | .abandonLoan call => some (call, .cancel)
  | .invalidateLoan call => some (call, .invalidate)
  | _ => none

/-- The connection that comes in. -/
def line? : PoolEvent → Option LineId
  | .dialled _ _ (.ok line) | .upkeepDialled _ (.ok line) => some line
  | .takeGuest guest | .destroyGuest guest => some guest.line
  | _ => none

end PoolEvent

namespace Pool

/-- The session under check for a call. -/
def underCheck? (p : Pool) (call : CallId) : Option Session :=
  (p.borrows.get? call).bind (·.stage.session?)

/-- The session that an event is about, and what happens to it. -/
def told (p : Pool) (event : PoolEvent) : Option (Session × SessionEvent) :=
  match event.heard?, event.used? with
  | some (call, now, stimulus), _ => (p.underCheck? call).map fun s => (s, .hear now stimulus)
  | none, some (call, e) => (p.loans.get? call).map fun s => (s, e)
  | none, none => none

/-- The session that an event brings in. -/
def arrival (p : Pool) : PoolEvent → Option Session
  | .dialled call now (.ok line) =>
    match p.borrows.get? call with
    | some ⟨.dialling id _, _, _⟩ => some (p.openedSession id line now)
    | _ => none
  | .upkeepDialled now (.ok line) =>
    match p.upkeep.stage with
    | .dialling id _ => some (p.openedSession id line now)
    | _ => none
  | .takeGuest guest | .destroyGuest guest => if guest.pool = some p.id then none else some guest
  | _ => none

/-- The sessions with which an event leaves the pool at first: one has undergone what happened to
it, or one has come in. -/
def present (p : Pool) (event : PoolEvent) : Multiset Session :=
  match p.told event with
  | some (s, e) => s.undergo e ::ₘ (p.sessions : Multiset Session).erase s
  | none => ↑(p.arrival event).toList + ↑p.sessions

/-- Sessions are closed, and checks begin. -/
def Dwindles (ss ts : Multiset Session) : Prop :=
  ∃ a b : Account, Account.Moves a b ∧ a.sessions = ss ∧ b.sessions = ts

variable {p q : Pool} {call : CallId} {s t : Session} {event : PoolEvent} {ss ts : Multiset Session}

theorem Dwindles.lines_le (h : Dwindles ss ts) : ts.map Session.line ≤ ss.map Session.line := by
  obtain ⟨a, b, hmoves, rfl, rfl⟩ := h
  exact Account.lines_moves hmoves

/-- What a check that begins does not end holds of all sessions that are left. -/
theorem Dwindles.forall {P : Session → Prop} (h : Dwindles ss ts)
    (hcheck : ∀ s s' timeout, P s → s.check timeout = .inFlight s' → P s')
    (hall : ∀ s ∈ ss, P s) : ∀ s ∈ ts, P s := by
  obtain ⟨a, b, hmoves, rfl, rfl⟩ := h
  exact Account.forall_sessions_moves hcheck hall hmoves

theorem Dwindles.of_moves {a : Account} (h : Account.Moves a q.toAccount) (ha : a.sessions = ss) :
    Dwindles ss ↑q.sessions :=
  ⟨a, _, h, ha, toAccount_sessions q⟩

/-! ## Which session is meant -/

theorem underCheck_eq_some {s : Session} :
    p.underCheck? call = some s ↔ ∃ deadline counts,
      p.borrows.get? call = some ⟨.checking s, deadline, counts⟩ := by
  constructor
  · intro h
    obtain ⟨⟨stage, deadline, counts⟩, hb, hs⟩ := Option.bind_eq_some_iff.mp h
    cases stage with
    | checking t => exact ⟨deadline, counts, Option.some.inj hs ▸ hb⟩
    | resting | dialling | parked => contradiction
  · rintro ⟨deadline, counts, hb⟩
    rw [underCheck?, hb]
    rfl

theorem mem_sessions_of_underCheck (h : p.underCheck? call = some s) : s ∈ p.sessions := by
  obtain ⟨b, hb, hs⟩ := Option.bind_eq_some_iff.mp h
  exact List.mem_append_left _ (List.mem_append_right _
    (List.mem_filterMap.mpr ⟨b, Roster.mem_values_of_get? hb, hs⟩))

theorem mem_sessions_of_lent (h : p.loans.get? call = some s) : s ∈ p.sessions :=
  List.mem_append_right _ (Roster.mem_values_of_get? h)

theorem mem_sessions_of_told {e : SessionEvent} (h : p.told event = some (s, e)) :
    s ∈ p.sessions := by
  unfold told at h
  split at h
  · obtain ⟨t, ht, heq⟩ := Option.map_eq_some_iff.mp h
    obtain rfl : t = s := (Prod.mk.inj heq).1
    exact mem_sessions_of_underCheck ht
  · obtain ⟨t, ht, heq⟩ := Option.map_eq_some_iff.mp h
    obtain rfl : t = s := (Prod.mk.inj heq).1
    exact mem_sessions_of_lent ht
  · contradiction

/-- What comes in was opened just now, or is a session of another pool. -/
theorem opened_or_guest_of_arrival (h : p.arrival event = some s) :
    (event.guest? = none ∧ ∃ id line now, event.line? = some line ∧
        s = p.openedSession id line now) ∨
      event.guest? = some s := by
  cases event with
  | dialled call now outcome | upkeepDialled now outcome =>
    cases outcome with
    | error fault => contradiction
    | ok line =>
      rw [arrival] at h
      split at h
      · exact .inl ⟨rfl, _, line, now, rfl, (Option.some.inj h).symm⟩
      · contradiction
  | takeGuest guest | destroyGuest guest =>
    rw [arrival] at h
    split at h
    · contradiction
    · exact .inr h
  | _ => contradiction

/-! ## What an event leaves -/

theorem present_of_told {e : SessionEvent} (h : p.told event = some (s, e)) :
    p.present event = s.undergo e ::ₘ (p.sessions : Multiset Session).erase s := by
  rw [present, h]

theorem present_of_arrival (htold : p.told event = none) (h : p.arrival event = some s) :
    p.present event = s ::ₘ ↑p.sessions := by
  rw [present, htold, h]
  rfl

theorem present_of_none (htold : p.told event = none) (h : p.arrival event = none) :
    p.present event = ↑p.sessions := by
  rw [present, htold, h]
  exact zero_add _

/-- An event that is about no session and brings none in only closes sessions or begins checks. -/
theorem dwindles_of_moves (htold : p.told event = none) (harrival : p.arrival event = none)
    (h : Account.Moves p.toAccount (p.perform event).toAccount) :
    Dwindles (p.present event) ↑(p.perform event).sessions := by
  rw [present_of_none htold harrival]
  exact .of_moves h (toAccount_sessions p)

theorem dwindles_same (h : p.present event = ↑(p.perform event).sessions) :
    Dwindles (p.present event) ↑(p.perform event).sessions :=
  .of_moves .refl ((toAccount_sessions _).trans h.symm)

theorem told_of_check {now : Instant} {stimulus : Stimulus}
    (hheard : event.heard? = some (call, now, stimulus)) (h : p.underCheck? call = some s) :
    p.told event = some (s, .hear now stimulus) := by
  rw [told, hheard]
  simp only [h, Option.map_some]

theorem told_of_loan {e : SessionEvent} (hheard : event.heard? = none)
    (hused : event.used? = some (call, e)) (h : p.loans.get? call = some s) :
    p.told event = some (s, e) := by
  rw [told, hheard, hused]
  simp only [h, Option.map_some]

theorem dwindles_hearCheck (h : p.Apart) (call : CallId) (now : Instant) (stimulus : Stimulus)
    (hheard : event.heard? = some (call, now, stimulus)) (harrival : p.arrival event = none)
    (hperform : p.perform event = p.hearCheck call now stimulus) :
    Dwindles (p.present event) ↑(p.perform event).sessions := by
  cases hcheck : p.underCheck? call with
  | none =>
    have htold : p.told event = none := by
      rw [told, hheard]
      simp only [hcheck, Option.map_none]
    refine dwindles_of_moves htold harrival (Account.moves_of_eq ?_)
    rw [hperform]
    unfold hearCheck
    split
    · rename_i hb
      rw [underCheck_eq_some.mpr ⟨_, _, hb⟩] at hcheck
      contradiction
    · rfl
  | some s =>
    obtain ⟨deadline, counts, hb⟩ := underCheck_eq_some.mp hcheck
    have hmoves := moves_hearCheck hb (h.loan_of_borrow hb) now stimulus
    -- The session under check is all that the caller has.
    have hsessions : (p.sessions : Multiset Session) =
        s ::ₘ ((p.ledger.without call).account 0 0).sessions := by
      rw [← toAccount_sessions, toAccount, Ledger.account_borrow (l := p.ledger) hb]
      rfl
    rw [present_of_told (told_of_check hheard hcheck), hsessions, Multiset.erase_cons_head,
      hperform]
    exact .of_moves hmoves (by rfl)

/-- A lent session is changed where it stands, or nothing happens. -/
theorem perform_used {e : SessionEvent} (hused : event.used? = some (call, e))
    (h : p.loans.get? call = some s) :
    p.perform event = p.putLoan call (s.undergo e) ∨ p.perform event = p ∧ s.undergo e = s := by
  cases event with
  | sendOn c commands =>
    obtain ⟨rfl, rfl⟩ := Prod.mk.inj (Option.some.inj hused)
    cases hbegun : s.send commands with
    | «over» outcome => exact .inr (by simp [perform, beginOn, h, hbegun, Session.undergo])
    | inFlight s' => exact .inl (by simp [perform, beginOn, h, hbegun, Session.undergo])
  | checkOn c timeout =>
    obtain ⟨rfl, rfl⟩ := Prod.mk.inj (Option.some.inj hused)
    cases hbegun : s.check timeout with
    | «over» outcome => exact .inr (by simp [perform, beginOn, h, hbegun, Session.undergo])
    | inFlight s' => exact .inl (by simp [perform, beginOn, h, hbegun, Session.undergo])
  | hearLoan c now stimulus =>
    obtain ⟨rfl, rfl⟩ := Prod.mk.inj (Option.some.inj hused)
    exact .inl (by simp [perform, hearLoan, h, Session.undergo])
  | abandonLoan c =>
    obtain ⟨rfl, rfl⟩ := Prod.mk.inj (Option.some.inj hused)
    exact .inl (by simp [perform, abandonLoan, h, Session.undergo])
  | invalidateLoan c =>
    obtain ⟨rfl, rfl⟩ := Prod.mk.inj (Option.some.inj hused)
    exact .inl (by simp [perform, invalidateLoan, h, Session.undergo])
  | _ => contradiction

theorem perform_used_none {e : SessionEvent} (hused : event.used? = some (call, e))
    (h : p.loans.get? call = none) : p.perform event = p := by
  cases event with
  | sendOn | checkOn | hearLoan | abandonLoan | invalidateLoan =>
    obtain ⟨rfl, rfl⟩ := Prod.mk.inj (Option.some.inj hused)
    simp [perform, beginOn, hearLoan, abandonLoan, invalidateLoan, h]
  | _ => contradiction

theorem arrival_of_used {e : SessionEvent} (hused : event.used? = some (call, e)) :
    event.heard? = none ∧ p.arrival event = none := by
  cases event with
  | sendOn | checkOn | hearLoan | abandonLoan | invalidateLoan => exact ⟨rfl, rfl⟩
  | _ => contradiction

theorem dwindles_used {e : SessionEvent} (hused : event.used? = some (call, e)) :
    Dwindles (p.present event) ↑(p.perform event).sessions := by
  obtain ⟨hheard, harrival⟩ := arrival_of_used (p := p) hused
  apply dwindles_same
  cases h : p.loans.get? call with
  | none =>
    have htold : p.told event = none := by
      rw [told, hheard, hused]
      simp only [h, Option.map_none]
    rw [present_of_none htold harrival, perform_used_none hused h]
  | some s =>
    rw [present_of_told (told_of_loan hheard hused h)]
    rcases perform_used hused h with hput | ⟨hsame, hs⟩
    -- The session is taken out of the loans, and put back changed.
    · rw [hput, ← toAccount_sessions, ← toAccount_sessions, toAccount, toAccount, account_putLoan,
        Ledger.account_loan (l := p.ledger) h]
      show _ ::ₘ (s ::ₘ ((p.ledger.unlent call).account 0 0).sessions).erase s = _
      rw [Multiset.erase_cons_head]
      rfl
    · rw [hsame, hs]
      exact Multiset.cons_erase (Multiset.mem_coe.mpr (mem_sessions_of_lent h))

theorem dwindles_dialled (h : p.Apart) (call : CallId) (now : Instant)
    (outcome : Except IoFault LineId) :
    Dwindles (p.present (.dialled call now outcome)) ↑(p.dialled call now outcome).sessions := by
  have htold : p.told (.dialled call now outcome) = none := rfl
  cases outcome with
  | error fault => exact dwindles_of_moves htold rfl (moves_dialled_error p call now fault)
  | ok line =>
    cases hb : p.borrows.get? call with
    | none =>
      refine dwindles_of_moves htold (by rw [arrival, hb]) (Account.moves_of_eq ?_)
      rw [perform, dialled, hb]
    | some b =>
      obtain ⟨stage, deadline, counts⟩ := b
      cases stage with
      | dialling id until_ =>
        have harrival : p.arrival (.dialled call now (.ok line)) =
            some (p.openedSession id line now) := by rw [arrival, hb]
        rw [present_of_arrival htold harrival, ← toAccount_sessions, ← toAccount_sessions]
        exact ⟨_, _, .refl, rfl,
          congrArg Account.sessions (account_dialled_ok hb (h.loan_of_borrow hb) now line).symm⟩
      | resting | checking | parked =>
        refine dwindles_of_moves htold (by rw [arrival, hb]) (Account.moves_of_eq ?_)
        rw [perform, dialled, hb]

theorem dwindles_upkeepDialled (p : Pool) (now : Instant) (outcome : Except IoFault LineId) :
    Dwindles (p.present (.upkeepDialled now outcome))
      ↑(p.upkeepDialled now outcome).sessions := by
  have htold : p.told (.upkeepDialled now outcome) = none := rfl
  cases outcome with
  | error fault => exact dwindles_of_moves htold rfl (moves_upkeepDialled_error p now fault)
  | ok line =>
    cases hstage : p.upkeep.stage with
    | dialling id deadline =>
      have harrival : p.arrival (.upkeepDialled now (.ok line)) =
          some (p.openedSession id line now) := by rw [arrival, hstage]
      rw [present_of_arrival htold harrival, ← toAccount_sessions]
      exact .of_moves (moves_upkeepDialled_ok hstage now line) rfl
    | waiting | sifting | «over» =>
      refine dwindles_of_moves htold (by rw [arrival, hstage]) (Account.moves_of_eq ?_)
      rw [perform, upkeepDialled, hstage]

/-- A guest joins the others in the pool's hands, and is kept or closed. -/
theorem dwindles_guest {guest : Session} (htold : p.told event = none)
    (harrival : p.arrival event = if guest.pool = some p.id then none else some guest)
    (hown : guest.pool = some p.id → p.perform event = p)
    (hguest : guest.pool ≠ some p.id →
      Account.Moves (p.ledger.account (guest ::ₘ 0) 0) (p.perform event).toAccount) :
    Dwindles (p.present event) ↑(p.perform event).sessions := by
  by_cases hpool : guest.pool = some p.id
  · rw [if_pos hpool] at harrival
    exact dwindles_of_moves htold harrival (Account.moves_of_eq (by rw [hown hpool]))
  · rw [if_neg hpool] at harrival
    rw [present_of_arrival htold harrival, ← toAccount_sessions]
    refine .of_moves (hguest hpool) ?_
    show guest ::ₘ 0 + p.ledger.sessions = guest ::ₘ (0 + p.ledger.sessions)
    rw [Multiset.cons_add]

theorem dwindles_takeGuest (p : Pool) (guest : Session) :
    Dwindles (p.present (.takeGuest guest)) ↑(p.perform (.takeGuest guest)).sessions := by
  refine dwindles_guest rfl rfl (fun hown => if_pos hown) fun hguest => ?_
  rw [perform, if_neg hguest]
  exact moves_takeBack p guest

theorem dwindles_destroyGuest (p : Pool) (guest : Session) :
    Dwindles (p.present (.destroyGuest guest)) ↑(p.perform (.destroyGuest guest)).sessions := by
  refine dwindles_guest rfl rfl (fun hown => if_pos hown) fun hguest => ?_
  have hmoves := Ledger.moves_closed p.ledger guest 0 0
  rw [← ledger_destroy] at hmoves
  rw [perform, if_neg hguest]
  exact hmoves

theorem dwindles_stageExpired (h : p.Apart) (call : CallId) (now : Instant) :
    Dwindles (p.present (.stageExpired call now)) ↑(p.stageExpired call now).sessions := by
  have hquiet : p.underCheck? call = none →
      Account.Moves p.toAccount (p.stageExpired call now).toAccount →
        Dwindles (p.present (.stageExpired call now)) ↑(p.stageExpired call now).sessions := by
    intro hcheck hmoves
    refine dwindles_of_moves ?_ rfl hmoves
    simp only [told, PoolEvent.heard?, hcheck, Option.map_none]
  cases hb : p.borrows.get? call with
  | none =>
    have hsame : p.stageExpired call now = p := by rw [stageExpired, hb]
    exact hquiet (by rw [underCheck?, hb]; rfl) (Account.moves_of_eq (by rw [hsame]))
  | some b =>
    obtain ⟨stage, deadline, counts⟩ := b
    cases stage with
    | checking s =>
      exact dwindles_hearCheck h call now .expired rfl rfl (by rw [perform, stageExpired, hb])
    | resting wakeAt =>
      refine hquiet (by rw [underCheck?, hb]; rfl) (Account.moves_of_eq ?_)
      rw [stageExpired, hb]
      exact (account_rested p call now).symm
    | dialling id until_ =>
      refine hquiet (by rw [underCheck?, hb]; rfl) ?_
      rw [stageExpired, hb]
      dsimp only
      split
      · exact moves_dialled_error p call now _
      · exact .refl
    | parked =>
      have hsame : p.stageExpired call now = p := by rw [stageExpired, hb]
      exact hquiet (by rw [underCheck?, hb]; rfl) (Account.moves_of_eq (by rw [hsame]))

/-- After any event the sessions of a pool are those it was left with, less some that were closed,
and with checks begun. -/
theorem dwindles_perform (h : p.Apart) (event : PoolEvent) :
    Dwindles (p.present event) ↑(p.perform event).sessions := by
  cases event with
  | acquire call now =>
    refine dwindles_of_moves rfl rfl ?_
    rw [perform]
    split
    · rename_i hfresh
      exact moves_acquire hfresh.1 now
    · exact .refl
  | hearCheck call now stimulus => exact dwindles_hearCheck h call now stimulus rfl rfl rfl
  | rested call now =>
    exact dwindles_of_moves rfl rfl (Account.moves_of_eq (account_rested p call now).symm)
  | dialled call now outcome => exact dwindles_dialled h call now outcome
  | resume call now => exact dwindles_of_moves rfl rfl (moves_resume p call now)
  | stageExpired call now => exact dwindles_stageExpired h call now
  | borrowExpired call now => exact dwindles_of_moves rfl rfl (moves_borrowExpired p call now)
  | cancelBorrow call => exact dwindles_of_moves rfl rfl (moves_cancelBorrow p call)
  | sendOn | checkOn | hearLoan | abandonLoan | invalidateLoan => exact dwindles_used rfl
  | release call =>
    refine dwindles_of_moves rfl rfl ?_
    cases hloan : p.loans.get? call with
    | none => rw [perform, release, hloan]
    | some s => exact moves_release hloan
  | destroyLoan call =>
    refine dwindles_of_moves rfl rfl ?_
    cases hloan : p.loans.get? call with
    | none => rw [perform, destroyLoan, hloan]
    | some s => exact moves_destroyLoan hloan
  | loseLoan call =>
    refine dwindles_of_moves rfl rfl ?_
    cases hloan : p.loans.get? call with
    | none => rw [perform, loseLoan, hloan]
    | some s => exact moves_loseLoan hloan
  | takeGuest guest => exact dwindles_takeGuest p guest
  | destroyGuest guest => exact dwindles_destroyGuest p guest
  | resize min max now =>
    rw [present_of_none rfl rfl, ← toAccount_sessions]
    exact .of_moves (moves_resize p min max now) rfl
  | clear => exact dwindles_of_moves rfl rfl (moves_clear p)
  | tend now => exact dwindles_of_moves rfl rfl (moves_tend p now)
  | upkeepDialled now outcome => exact dwindles_upkeepDialled p now outcome
  | upkeepExpired now => exact dwindles_of_moves rfl rfl (moves_upkeepExpired p now)
  | startDrain call now => exact dwindles_of_moves rfl rfl (moves_startDrain p call now)
  | resumeDrain now => exact dwindles_of_moves rfl rfl (moves_resumeDrain p now)
  | drainExpired now => exact dwindles_of_moves rfl rfl (moves_drainExpired p now)
  | cancelDrain call =>
    refine dwindles_of_moves rfl rfl (Account.moves_of_eq ?_)
    rw [toAccount, toAccount, perform, ledger_cancelDrain]
  | abandon => exact dwindles_of_moves rfl rfl (moves_abandon p)
  | settled => exact dwindles_of_moves rfl rfl .refl

/-- What holds of all sessions goes on to hold of them, if it does of the one that an event is
about, holds of the one that comes in, and is not ended by a check that begins. -/
theorem forall_perform {P : Session → Prop} (hapart : p.Apart)
    (hcheck : ∀ s s' timeout, P s → s.check timeout = .inFlight s' → P s')
    (htold : ∀ s e, p.told event = some (s, e) → P s → P (s.undergo e))
    (harrival : ∀ s, p.arrival event = some s → P s) (h : ∀ s ∈ p.sessions, P s) :
    ∀ s ∈ (p.perform event).sessions, P s := by
  have hpresent : ∀ s ∈ p.present event, P s := by
    intro t ht
    cases htoldEq : p.told event with
    | some told =>
      obtain ⟨s, e⟩ := told
      rw [present_of_told htoldEq] at ht
      rcases Multiset.mem_cons.mp ht with rfl | ht
      · exact htold s e htoldEq (h s (mem_sessions_of_told htoldEq))
      · exact h t (Multiset.mem_of_mem_erase ht)
    | none =>
      cases hcame : p.arrival event with
      | none =>
        rw [present_of_none htoldEq hcame] at ht
        exact h t ht
      | some s =>
        rw [present_of_arrival htoldEq hcame] at ht
        rcases Multiset.mem_cons.mp ht with rfl | ht
        · exact harrival t hcame
        · exact h t ht
  exact (dwindles_perform hapart event).forall hcheck hpresent

end Pool

end BroadcastLink
