import BroadcastLink.Proofs.Pool.Passage
import BroadcastLink.Proofs.Session.Wire

/-!
# The sessions of a pool on their wires

Every session of a pool has a connection of its own and is in step with it, and an exchange in
flight on a lent session carries the commands of the call that borrowed it. Whatever the pool does
keeps it so: sessions are only checked or closed in passing, a new one begins on a new connection,
and what a connection does reaches the one session that is on it.
-/

namespace BroadcastLink

/-- What a call was given to execute, and how it wants the response. -/
structure Order where
  commands : List String
  raw : Bool
  deriving DecidableEq, Repr

/-- The response is the text of the server's reply to the commands of the call, on some wire. -/
def Arrived (wires : Roster LineId Wire) (call : CallId) (commands : List String) (text : String) :
    Prop :=
  ∃ line wire reply, wires.get? line = some wire ∧ wire.Delivered call commands reply ∧
    text = Text.decodeLossy reply

/-- The wires after a connection did something for the exchange that a call runs on a session. -/
structure WiresAfter (wires wires' : Roster LineId Wire) (call : CallId) (s : Session)
    (stimulus : Stimulus) : Prop where
  here : ∃ w w' : Wire, wires.get? s.line = some w ∧ wires'.get? s.line = some w' ∧
    w.After w' call s stimulus
  others : ∀ line, line ≠ s.line → wires'.get? line = wires.get? line

/-- Wires stay and only get longer. -/
def Grown (wires wires' : Roster LineId Wire) : Prop :=
  ∀ line (w : Wire), wires.get? line = some w → ∃ w', wires'.get? line = some w' ∧ w.Grows w'

/-- No wire shows its session or its writers anything new. -/
def Unmoved (wires wires' : Roster LineId Wire) : Prop :=
  ∀ line (w : Wire), wires.get? line = some w →
    ∃ w', wires'.get? line = some w' ∧ w'.written = w.written ∧ w'.transcript = w.transcript

/-- Each session is on a connection of its own, and in step with it. -/
structure InStepOn (wires : Roster LineId Wire) (ss : Multiset Session) : Prop where
  lines : (ss.map Session.line).Nodup
  inStep : ∀ s ∈ ss, ∃ w n, wires.get? s.line = some w ∧ s.InStep w.transcript n

/-- An exchange in flight on a lent session carries the commands of its call. -/
def LoansCarry (wires : Roster LineId Wire) (orders : Roster CallId Order)
    (loans : Roster CallId Session) : Prop :=
  ∀ call (s : Session) x, loans.get? call = some s → s.exchange = some x →
    ∃ order w, orders.get? call = some order ∧ wires.get? s.line = some w ∧
      w.Carries call order.commands x.unwritten

variable {wires wires' : Roster LineId Wire} {orders : Roster CallId Order} {s : Session}
  {ss : Multiset Session} {call : CallId} {stimulus : Stimulus}

theorem Arrived.grown {commands : List String} {text : String}
    (h : Arrived wires call commands text) (hgrown : Grown wires wires') :
    Arrived wires' call commands text := by
  obtain ⟨line, w, reply, hw, hreply, htext⟩ := h
  obtain ⟨w', hw', hgrows⟩ := hgrown line w hw
  exact ⟨line, w', reply, hw', hreply.grow hgrows, htext⟩

theorem Grown.refl (wires : Roster LineId Wire) : Grown wires wires :=
  fun _ w hw => ⟨w, hw, .refl w⟩

theorem WiresAfter.grown (h : WiresAfter wires wires' call s stimulus) : Grown wires wires' := by
  intro line w hw
  by_cases hline : line = s.line
  · obtain ⟨v, w', hv, hw', hafter⟩ := h.here
    rw [hline] at hw ⊢
    obtain rfl := Option.some.inj (hv.symm.trans hw)
    exact ⟨w', hw', hafter.grows⟩
  · exact ⟨w, (h.others line hline).trans hw, .refl w⟩

namespace InStepOn

theorem line_ne (h : InStepOn wires (s ::ₘ ss)) {t : Session} (ht : t ∈ ss) : t.line ≠ s.line := by
  have hlines := h.lines
  rw [Multiset.map_cons, Multiset.nodup_cons] at hlines
  intro hsame
  exact hlines.1 (hsame ▸ Multiset.mem_map_of_mem Session.line ht)

theorem moves {a b : Account} (h : InStepOn wires a.sessions) (hmoves : Account.Moves a b) :
    InStepOn wires b.sessions := by
  refine ⟨Multiset.nodup_of_le (Account.lines_moves hmoves) h.lines,
    Account.forall_sessions_moves ?_ h.inStep hmoves⟩
  rintro s s' timeout ⟨w, n, hw, hstep⟩ hcheck
  exact ⟨w, n, (Session.later_of_check hcheck).line ▸ hw, hstep.check hcheck⟩

/-- A session may go on by itself. -/
theorem goOn (h : InStepOn wires (s ::ₘ ss)) {s' : Session} (hline : s'.line = s.line)
    (hstep : ∀ t n, s.InStep t n → s'.InStep t n) : InStepOn wires (s' ::ₘ ss) := by
  refine ⟨?_, fun t ht => ?_⟩
  · rw [Multiset.map_cons, hline, ← Multiset.map_cons]
    exact h.lines
  · rcases Multiset.mem_cons.mp ht with rfl | ht
    · obtain ⟨w, n, hw, hs⟩ := h.inStep s (Multiset.mem_cons_self s ss)
      exact ⟨w, n, hline ▸ hw, hstep _ n hs⟩
    · exact h.inStep t (Multiset.mem_cons_of_mem ht)

/-- A session goes on with what its connection did; the others are on other connections. -/
theorem react (h : InStepOn wires (s ::ₘ ss)) (hwires : WiresAfter wires wires' call s stimulus)
    (now : Instant) : InStepOn wires' ((s.react now stimulus).1 ::ₘ ss) := by
  have hline := (Session.later_react s now stimulus).line
  obtain ⟨w, w', hw, hw', hafter⟩ := hwires.here
  refine ⟨?_, fun t ht => ?_⟩
  · rw [Multiset.map_cons, hline, ← Multiset.map_cons]
    exact h.lines
  · rcases Multiset.mem_cons.mp ht with rfl | ht
    · obtain ⟨v, n, hv, hs⟩ := h.inStep s (Multiset.mem_cons_self s ss)
      obtain rfl : w = v := Option.some.inj (hw.symm.trans hv)
      -- What the session made of it and what the wire keeps of it are the same transcript.
      obtain ⟨m, hm⟩ := (hs.react now stimulus).1
      rw [← hafter.transcript] at hm
      exact ⟨w', m, hline ▸ hw', hm⟩
    · obtain ⟨v, n, hv, hs⟩ := h.inStep t (Multiset.mem_cons_of_mem ht)
      exact ⟨v, n, (hwires.others t.line (h.line_ne ht)).trans hv, hs⟩

theorem unmoved (h : InStepOn wires ss) (hwires : Unmoved wires wires') : InStepOn wires' ss := by
  refine ⟨h.lines, fun s hs => ?_⟩
  obtain ⟨w, n, hw, hstep⟩ := h.inStep s hs
  obtain ⟨w', hw', -, htranscript⟩ := hwires s.line w hw
  exact ⟨w', n, hw', htranscript.symm ▸ hstep⟩

/-- A session may be opened on a connection that nothing is known of yet. -/
theorem opened (h : InStepOn wires ss) (hnew : wires.get? s.line = none)
    (hmoved : Unmoved wires wires') (hthere : wires'.get? s.line = some {})
    (hstep : s.InStep {} 0) : InStepOn wires' (s ::ₘ ss) := by
  have hold := h.unmoved hmoved
  refine ⟨?_, fun t ht => ?_⟩
  · rw [Multiset.map_cons, Multiset.nodup_cons]
    refine ⟨fun hmem => ?_, h.lines⟩
    -- A session already there has a wire on its connection; a new connection has none.
    obtain ⟨t, ht, hline⟩ := Multiset.mem_map.mp hmem
    obtain ⟨w, n, hw, -⟩ := h.inStep t ht
    rw [hline, hnew] at hw
    contradiction
  · rcases Multiset.mem_cons.mp ht with rfl | ht
    · exact ⟨{}, 0, hthere, hstep⟩
    · exact hold.inStep t ht

end InStepOn

namespace LoansCarry

variable {loans loans' : Roster CallId Session}

/-- Loans may end, and begin at rest. -/
theorem of_fewer (h : LoansCarry wires orders loans)
    (hloans : ∀ call (s : Session), loans'.get? call = some s → s.exchange ≠ none →
      loans.get? call = some s) : LoansCarry wires orders loans' := by
  intro call s x hloan hx
  exact h call s x (hloans call s hloan (by rw [hx]; exact Option.some_ne_none x)) hx

theorem unmoved (h : LoansCarry wires orders loans) (hwires : Unmoved wires wires') :
    LoansCarry wires' orders loans := by
  intro call s x hloan hx
  obtain ⟨order, w, horder, hw, before, hwritten, hends⟩ := h call s x hloan hx
  obtain ⟨w', hw', hsame, -⟩ := hwires s.line w hw
  exact ⟨order, w', horder, hw', before, hsame ▸ hwritten, hends⟩

/-- What one connection did is nothing to the loans on others. -/
theorem others (h : LoansCarry wires orders loans)
    (hwires : WiresAfter wires wires' call s stimulus)
    (hlines : ∀ c t, loans.get? c = some t → t.line ≠ s.line) :
    LoansCarry wires' orders loans := by
  intro c t x hloan hx
  obtain ⟨order, w, horder, hw, hcarries⟩ := h c t x hloan hx
  exact ⟨order, w, horder, (hwires.others t.line (hlines c t hloan)).trans hw, hcarries⟩

end LoansCarry

/-- Commands stay on their way while their exchange goes on. -/
theorem Wire.Carries.react {w w' : Wire} {commands : List String} {x : Exchange}
    (h : w.Carries call commands x.unwritten) (hx : s.exchange = some x)
    (hafter : w.After w' call s stimulus) (now : Instant) :
    (∀ y, (s.react now stimulus).1.exchange = some y → w'.Carries call commands y.unwritten) ∧
    ∀ text, (s.react now stimulus).2 = some (.ok text) → w'.Carries call commands [] := by
  obtain ⟨before, hwritten, hends⟩ := h
  obtain ⟨hgoesOn, hdone⟩ := Session.goesOnWriting_react hx now stimulus
  refine ⟨fun y hy => ⟨before, ?_, hends⟩, fun text htext => ⟨before, ?_, hends⟩⟩
  · rw [hafter.written, List.append_assoc, ← signed_append, hgoesOn y hy]
    exact hwritten
  · rw [hafter.written, hdone text htext, show signed call [] = [] from rfl, List.append_nil]
    exact hwritten

namespace Pool

variable {p q : Pool}

/-- The sessions of a pool are in step with their wires, and its calls are known. -/
structure Attuned (wires : Roster LineId Wire) (orders : Roster CallId Order) (p : Pool) :
    Prop where
  apart : p.Apart
  known : ∀ call, p.borrows.get? call ≠ none ∨ p.loans.get? call ≠ none →
    orders.get? call ≠ none
  sessions : InStepOn wires p.toAccount.sessions
  loans : LoansCarry wires orders p.loans

theorem mem_sessions_of_loan (l : Ledger) (inHand : Multiset Session) (taken : Nat)
    (h : l.loans.get? call = some s) : s ∈ (l.account inHand taken).sessions := by
  have hmem : s ∈ (l.loans.values : Multiset Session) :=
    Multiset.mem_coe.mpr (Roster.mem_values_of_get? h)
  exact Multiset.mem_add.mpr (.inr (Multiset.mem_add.mpr (.inr (Multiset.mem_add.mpr (.inr hmem)))))

/-- Sessions are checked or closed in passing, and loans end or begin at rest. -/
theorem Attuned.moves (h : Attuned wires orders p) (hmoves : Account.Moves p.toAccount q.toAccount)
    (hapart : q.Apart)
    (hknown : ∀ call, q.borrows.get? call ≠ none ∨ q.loans.get? call ≠ none →
      orders.get? call ≠ none)
    (hloans : ∀ call (s : Session), q.loans.get? call = some s → s.exchange ≠ none →
      p.loans.get? call = some s) : Attuned wires orders q :=
  ⟨hapart, hknown, h.sessions.moves hmoves, h.loans.of_fewer hloans⟩

/-- A loan that a caller got is at rest. -/
theorem Sought.loan_eq (h : Sought p q call) {c : CallId} (hloan : q.loans.get? c = some s)
    (hbusy : s.exchange ≠ none) : p.loans.get? c = some s := by
  obtain hsame | ⟨t, hrest, hput⟩ := h.loans
  · rwa [hsame] at hloan
  · rw [hput, Roster.get?_put] at hloan
    split at hloan
    · rw [← Option.some.inj hloan] at hbusy
      exact absurd hrest hbusy
    · exact hloan

theorem Sought.known (h : Sought p q call) (hcall : orders.get? call ≠ none)
    (hknown : ∀ c, p.borrows.get? c ≠ none ∨ p.loans.get? c ≠ none → orders.get? c ≠ none)
    (c : CallId) (hc : q.borrows.get? c ≠ none ∨ q.loans.get? c ≠ none) :
    orders.get? c ≠ none := by
  by_cases heq : c = call
  · rw [heq]
    exact hcall
  · rw [h.others c heq, h.loans_of_ne heq] at hc
    exact hknown c hc

theorem Attuned.sought (h : Attuned wires orders p) (hcall : orders.get? call ≠ none)
    (hmoves : Account.Moves p.toAccount q.toAccount) (hsought : Sought p q call) :
    Attuned wires orders q :=
  h.moves hmoves (h.apart.sought hsought) (hsought.known hcall h.known)
    fun _ _ hloan hbusy => hsought.loan_eq hloan hbusy

theorem Attuned.sameHolders (h : Attuned wires orders p)
    (hmoves : Account.Moves p.toAccount q.toAccount) (hsame : SameHolders p q) :
    Attuned wires orders q := by
  refine h.moves hmoves (h.apart.sameHolders hsame) (fun call hcall => ?_) fun call s hloan _ => ?_
  · rw [hsame.borrows, hsame.loans] at hcall
    exact h.known call hcall
  · rwa [hsame.loans] at hloan

/-- The loan of a call ends. -/
theorem Attuned.ended (h : Attuned wires orders p)
    (hmoves : Account.Moves p.toAccount q.toAccount) (hends : SameHolders (p.endLoan call) q) :
    Attuned wires orders q := by
  have hloans : q.loans = p.loans.erase call := hends.loans
  refine h.moves hmoves (h.apart.onLoan (onLoan_ended hends)) (fun c hc => ?_) fun c s hloan _ => ?_
  · apply h.known c
    rw [hends.borrows, hloans, Roster.get?_erase] at hc
    refine hc.imp_right fun hc => ?_
    split at hc
    · contradiction
    · exact hc
  · rw [hloans, Roster.get?_erase] at hloan
    split at hloan
    · contradiction
    · exact hloan

/-- A new maximum is nothing to the sessions. -/
theorem Attuned.resize (h : Attuned wires orders p) (min max : Nat) (now : Instant) :
    Attuned wires orders (p.resize min max now) := by
  have hsame := sameHolders_resize p min max now
  have hsessions := InStepOn.moves (a := p.toAccount.rebound (Nat.max max 1)) h.sessions
    (moves_resize p min max now)
  refine ⟨h.apart.sameHolders hsame, fun call hcall => ?_, hsessions, ?_⟩
  · rw [hsame.borrows, hsame.loans] at hcall
    exact h.known call hcall
  · rw [hsame.loans]
    exact h.loans

theorem Attuned.release (h : Attuned wires orders p) (call : CallId) :
    Attuned wires orders (p.release call) := by
  cases hloan : p.loans.get? call with
  | none => rwa [Pool.release, hloan]
  | some s =>
    have hends : SameHolders (p.endLoan call) (p.release call) := by
      rw [Pool.release, hloan]
      exact sameHolders_takeBack (p.endLoan call) s
    exact h.ended (moves_release hloan) hends

theorem Attuned.loseLoan (h : Attuned wires orders p) (call : CallId) :
    Attuned wires orders (p.loseLoan call) := by
  cases hloan : p.loans.get? call with
  | none => rwa [Pool.loseLoan, hloan]
  | some s =>
    have hends : SameHolders (p.endLoan call) (p.loseLoan call) := by
      rw [Pool.loseLoan, hloan]
      exact sameHolders_discard (p.endLoan call) s
    exact h.ended (moves_loseLoan hloan) hends

/-- A caller goes on, with its place or session or without. -/
theorem Attuned.acquire (h : Attuned wires orders p) (hcall : orders.get? call ≠ none)
    (hfresh : p.IsFresh call) (now : Instant) : Attuned wires orders (p.acquire call now) :=
  h.sought hcall (moves_acquire hfresh.1 now) (sought_acquire hfresh now)

theorem Attuned.resume (h : Attuned wires orders p) (hcall : orders.get? call ≠ none)
    (now : Instant) : Attuned wires orders (p.resume call now) :=
  h.sought hcall (moves_resume p call now) (sought_resume h.apart call now)

theorem Attuned.dialFailed (h : Attuned wires orders p) (hcall : orders.get? call ≠ none)
    (now : Instant) (fault : IoFault) :
    Attuned wires orders (p.dialled call now (.error fault)) :=
  h.sought hcall (moves_dialled_error p call now fault) (sought_dialled h.apart call now _)

theorem Attuned.cancelBorrow (h : Attuned wires orders p) (hcall : orders.get? call ≠ none) :
    Attuned wires orders (p.cancelBorrow call) :=
  h.sought hcall (moves_cancelBorrow p call) (sought_cancelBorrow h.apart call)

theorem Attuned.borrowExpired (h : Attuned wires orders p) (hcall : orders.get? call ≠ none)
    (now : Instant) : Attuned wires orders (p.borrowExpired call now) :=
  h.sought hcall (moves_borrowExpired p call now) (sought_borrowExpired h.apart call now)

/-- Upkeep, and closing what is idle. -/
theorem Attuned.tend (h : Attuned wires orders p) (now : Instant) :
    Attuned wires orders (p.tend now) :=
  h.sameHolders (moves_tend p now) (sameHolders_tend p now)

theorem Attuned.upkeepExpired (h : Attuned wires orders p) (now : Instant) :
    Attuned wires orders (p.upkeepExpired now) :=
  h.sameHolders (moves_upkeepExpired p now) (sameHolders_upkeepExpired p now)

theorem Attuned.upkeepDialFailed (h : Attuned wires orders p) (now : Instant) (fault : IoFault) :
    Attuned wires orders (p.upkeepDialled now (.error fault)) :=
  h.sameHolders (moves_upkeepDialled_error p now fault) (sameHolders_upkeepDialled p now _)

theorem Attuned.clear (h : Attuned wires orders p) : Attuned wires orders p.clear :=
  h.sameHolders (moves_clear p) (sameHolders_clear p)

theorem Attuned.unmoved (h : Attuned wires orders p) (hwires : Unmoved wires wires') :
    Attuned wires' orders p :=
  ⟨h.apart, h.known, h.sessions.unmoved hwires, h.loans.unmoved hwires⟩

/-! ## What connections do -/

/-- With a session under check in hand, its connection is that of no other session. -/
theorem Attuned.without (h : Attuned wires orders p) {deadline : Instant} {counts : Bool}
    (hb : p.borrows.get? call = some ⟨.checking s, deadline, counts⟩) :
    InStepOn wires (s ::ₘ ((p.ledger.without call).account 0 0).sessions) := by
  have hall := h.sessions
  rw [toAccount, Ledger.account_borrow (l := p.ledger) hb] at hall
  exact hall

/-- A connection did something for the check of a session. -/
theorem Attuned.hearCheck (h : Attuned wires orders p) {deadline : Instant} {counts : Bool}
    (hb : p.borrows.get? call = some ⟨.checking s, deadline, counts⟩)
    (hwires : WiresAfter wires wires' call s stimulus) (now : Instant) :
    Attuned wires' orders (p.hearCheck call now stimulus) := by
  have hsought := sought_hearCheck h.apart call now stimulus
  have hcall := h.known call (.inl (by rw [hb]; exact Option.some_ne_none _))
  have hsessions := h.without hb
  have hmoved := InStepOn.moves (a := (p.ledger.without call).account (_ ::ₘ 0) 0)
    (hsessions.react hwires now) (moves_hearCheck hb (h.apart.loan_of_borrow hb) now stimulus)
  refine ⟨h.apart.sought hsought, hsought.known hcall h.known, hmoved, ?_⟩
  refine (h.loans.others hwires fun c t hloan => ?_).of_fewer
    fun _ _ hloan hbusy => hsought.loan_eq hloan hbusy
  exact hsessions.line_ne (mem_sessions_of_loan (p.ledger.without call) 0 0 hloan)

/-- A caller's connection is there. -/
theorem Attuned.dialled (h : Attuned wires orders p) {id : Nat} {until_ deadline : Instant}
    {counts : Bool} (hb : p.borrows.get? call = some ⟨.dialling id until_, deadline, counts⟩)
    {line : LineId} (hnew : wires.get? line = none) (hmoved : Unmoved wires wires')
    (hthere : wires'.get? line = some {}) (now : Instant) :
    Attuned wires' orders (p.dialled call now (.ok line)) := by
  have hsought := sought_dialled h.apart call now (.ok line)
  have hcall := h.known call (.inl (by rw [hb]; exact Option.some_ne_none _))
  have hstep := Session.inStep_opened id line p.settings.responseTimeout now
  have hsessions := h.sessions.opened (s := p.openedSession id line now) hnew hmoved hthere
    ⟨hstep.searched, hstep.held, hstep.idle, hstep.busy⟩
  refine ⟨h.apart.sought hsought, hsought.known hcall h.known, ?_, ?_⟩
  · rw [toAccount, account_dialled_ok hb (h.apart.loan_of_borrow hb) now line]
    exact hsessions
  · exact (h.loans.unmoved hmoved).of_fewer fun _ _ hloan hbusy => hsought.loan_eq hloan hbusy

/-- The stage of a caller ran out of time; to a check that is one more thing to hear. -/
theorem Attuned.stageExpired (h : Attuned wires orders p) (hcall : orders.get? call ≠ none)
    (hhonest : ∀ line w, wires.get? line = some w → w.Honest) (now : Instant) :
    Attuned wires orders (p.stageExpired call now) := by
  unfold Pool.stageExpired
  split
  · rename_i s deadline counts hb
    obtain ⟨w, n, hw, -⟩ := (h.without hb).inStep s (Multiset.mem_cons_self s _)
    exact h.hearCheck hb ⟨⟨w, w, hw, hw, Wire.after_expired (hhonest s.line w hw) call s⟩,
      fun _ _ => rfl⟩ now
  · exact h.sought hcall (Account.moves_of_eq (account_rested p call now).symm)
      (sought_rested h.apart call now)
  · split
    · exact h.dialFailed hcall now _
    · exact h
  · exact h

/-- A connection opened ahead of need is there. -/
theorem Attuned.upkeepDialled (h : Attuned wires orders p) {id : Nat} {deadline : Instant}
    (hstage : p.upkeep.stage = .dialling id deadline) {line : LineId}
    (hnew : wires.get? line = none) (hmoved : Unmoved wires wires')
    (hthere : wires'.get? line = some {}) (now : Instant) :
    Attuned wires' orders (p.upkeepDialled now (.ok line)) := by
  have hsame := sameHolders_upkeepDialled p now (.ok line)
  have hstep := Session.inStep_opened id line p.settings.responseTimeout now
  have hsessions := h.sessions.opened (s := p.openedSession id line now) hnew hmoved hthere
    ⟨hstep.searched, hstep.held, hstep.idle, hstep.busy⟩
  refine ⟨h.apart.sameHolders hsame, fun call hcall => ?_, ?_, ?_⟩
  · rw [hsame.borrows, hsame.loans] at hcall
    exact h.known call hcall
  · exact InStepOn.moves (a := p.toAccount.opened (p.openedSession id line now)) hsessions
      (moves_upkeepDialled_ok hstage now line)
  · rw [hsame.loans]
    exact h.loans.unmoved hmoved

/-- With a session lent to a call in hand, its connection is that of no other session. -/
theorem Attuned.unlent (h : Attuned wires orders p) (hloan : p.loans.get? call = some s) :
    InStepOn wires (s ::ₘ ((p.ledger.unlent call).account 0 0).sessions) := by
  have hall := h.sessions
  rw [toAccount, Ledger.account_loan (l := p.ledger) hloan] at hall
  exact hall

theorem Attuned.line_ne (h : Attuned wires orders p) (hloan : p.loans.get? call = some s)
    {c : CallId} (hc : c ≠ call) {t : Session} (ht : p.loans.get? c = some t) :
    t.line ≠ s.line := by
  have hother : (p.ledger.unlent call).loans.get? c = some t := by
    show (p.loans.erase call).get? c = some t
    rw [Roster.get?_erase, if_neg hc]
    exact ht
  exact (h.unlent hloan).line_ne (mem_sessions_of_loan (p.ledger.unlent call) 0 0 hother)

/-- The commands of a call are sent on its session. -/
theorem Attuned.send (h : Attuned wires orders p) {order : Order}
    (horder : orders.get? call = some order) :
    Attuned wires orders (p.beginOn call (·.send order.commands)).1 := by
  have honLoan := onLoan_beginOn p call (·.send order.commands)
  have hapart := h.apart.onLoan honLoan
  cases hloan : p.loans.get? call with
  | none => rwa [beginOn, hloan]
  | some s =>
    cases hsend : s.send order.commands with
    | «over» outcome =>
      rw [beginOn, hloan]
      dsimp only
      rwa [hsend]
    | inFlight s' =>
      have hbegun : (p.beginOn call (·.send order.commands)).1 = p.putLoan call s' := by
        rw [beginOn, hloan]
        dsimp only
        rw [hsend]
      have hsent := (h.unlent hloan).goOn (Session.later_of_send hsend).line
        fun t n hstep => hstep.send hsend
      rw [hbegun] at honLoan hapart ⊢
      refine ⟨hapart, fun c hc => ?_, ?_, fun c t x ht hx => ?_⟩
      · by_cases heq : c = call
        · rw [heq, horder]
          exact Option.some_ne_none order
        · rw [honLoan.others c heq] at hc
          exact h.known c hc
      · rw [toAccount, account_putLoan]
        exact hsent
      · replace ht : (p.loans.put call s').get? c = some t := ht
        rw [Roster.get?_put] at ht
        split at ht
        · -- The whole batch is still to be written, behind the last line.
          rename_i hc
          obtain rfl : s' = t := Option.some.inj ht
          obtain ⟨w, n, hw, hstep⟩ := (h.unlent hloan).inStep s (Multiset.mem_cons_self _ _)
          obtain ⟨hidle, -, bytes, hbytes, rfl⟩ := Session.of_send_inFlight hsend
          obtain rfl := (lines_of_sessionPayload hbytes).1
          obtain rfl := Option.some.inj hx
          exact ⟨order, w, hc ▸ horder, hw, w.written, rfl, (hstep.idle hidle).2.2⟩
        · exact h.loans c t x ht hx

/-- A connection did something for the exchange on a lent session. With a response the commands of
the call have arrived. -/
theorem Attuned.hearLoan (h : Attuned wires orders p) (hloan : p.loans.get? call = some s)
    (hwires : WiresAfter wires wires' call s stimulus) (now : Instant) :
    Attuned wires' orders (p.hearLoan call now stimulus).1 ∧
    ∀ text, (p.hearLoan call now stimulus).2 = some (.ok text) →
      ∃ order, orders.get? call = some order ∧ Arrived wires' call order.commands text := by
  have honLoan := onLoan_hearLoan p call now stimulus
  have hapart := h.apart.onLoan honLoan
  have hheard : p.hearLoan call now stimulus =
      (p.putLoan call (s.react now stimulus).1, (s.react now stimulus).2) := by
    rw [Pool.hearLoan, hloan]
  have hline := (Session.later_react s now stimulus).line
  obtain ⟨w, w', hw, hw', hafter⟩ := hwires.here
  rw [hheard] at honLoan hapart ⊢
  refine ⟨⟨hapart, fun c hc => ?_, ?_, ?_⟩, fun text htext => ?_⟩
  · by_cases heq : c = call
    · rw [heq]
      exact h.known call (.inr (by rw [hloan]; exact Option.some_ne_none s))
    · rw [honLoan.others c heq] at hc
      exact h.known c hc
  · rw [toAccount, account_putLoan]
    exact (h.unlent hloan).react hwires now
  · intro c t y ht hy
    replace ht : (p.loans.put call _).get? c = some t := ht
    rw [Roster.get?_put] at ht
    split at ht
    · rename_i hc
      obtain rfl := Option.some.inj ht
      cases hx : s.exchange with
      | none =>
        rw [Session.react_of_at_rest hx] at hy
        rw [hx] at hy
        contradiction
      | some x =>
        obtain ⟨order, v, horder, hv, hcarries⟩ := h.loans call s x hloan hx
        obtain rfl : w = v := Option.some.inj (hw.symm.trans hv)
        exact ⟨order, w', hc ▸ horder, hline ▸ hw', hc ▸ (hcarries.react hx hafter now).1 y hy⟩
    · rename_i hc
      obtain ⟨order, v, horder, hv, hcarries⟩ := h.loans c t y ht hy
      exact ⟨order, v, horder, (hwires.others t.line (h.line_ne hloan hc ht)).trans hv, hcarries⟩
  · cases hx : s.exchange with
    | none =>
      rw [Session.react_of_at_rest hx] at htext
      contradiction
    | some x =>
      obtain ⟨order, v, horder, hv, hcarries⟩ := h.loans call s x hloan hx
      obtain rfl : w = v := Option.some.inj (hw.symm.trans hv)
      obtain ⟨v, n, hv, hstep⟩ := (h.unlent hloan).inStep s (Multiset.mem_cons_self _ _)
      obtain rfl : w = v := Option.some.inj (hw.symm.trans hv)
      have hanswers := (hstep.react now stimulus).2 text htext
      rw [← hafter.transcript] at hanswers
      -- With the response nothing is left to write, so the commands are the last lines of the wire.
      obtain ⟨reply, hreply, htext⟩ :=
        ((hcarries.react hx hafter now).2 text htext).delivered hafter.honest hanswers
      exact ⟨order, horder, s.line, w', reply, hw', hreply, htext⟩

end Pool

end BroadcastLink
