import BroadcastLink.Proofs.Pool.Operations

/-!
# Upkeep, resizing and draining

What closes idle sessions, opens new ones ahead of need or changes the bounds. None of it touches a
caller or a loan.
-/

namespace BroadcastLink.Pool

variable {p : Pool}

/-- The callers and the loans of a pool stayed as they were. -/
structure SameHolders (p q : Pool) : Prop where
  borrows : q.borrows = p.borrows
  loans : q.loans = p.loans

theorem SameHolders.trans {q r : Pool} (h : SameHolders p q) (h' : SameHolders q r) :
    SameHolders p r :=
  ⟨h'.borrows.trans h.borrows, h'.loans.trans h.loans⟩

/-! ## Closing idle sessions -/

/-- Sessions let go one after another, whatever else is noted with each. -/
theorem ledger_foldl_closed {close : Pool → Session → Pool}
    (hclose : ∀ p s, (close p s).ledger = p.ledger.closed s) (gone : List Session) (p : Pool) :
    (gone.foldl close p).ledger = gone.foldl Ledger.closed p.ledger := by
  induction gone generalizing p with
  | nil => rfl
  | cons s rest ih => rw [List.foldl_cons, List.foldl_cons, ih, hclose]

/-- Of the idle sessions some stay and the others are let go. -/
theorem moves_closing {q : Pool} {kept gone : List Session} (h : (kept ++ gone).Perm p.idle)
    (hledger : q.ledger = gone.foldl Ledger.closed { p.ledger with idle := kept }) :
    Account.Moves (p.ledger.account 0 0) (q.ledger.account 0 0) := by
  -- Those that go are taken in hand together before they are closed.
  have hidle : { p.ledger with idle := kept ++ gone }.account 0 0 = p.ledger.account 0 0 :=
    Ledger.account_idle_perm (l := p.ledger) h
  rw [← hidle, Ledger.account_idle_append, hledger]
  exact Ledger.moves_foldl_closed gone { p.ledger with idle := kept }

theorem sameHolders_closing {q : Pool} {kept gone : List Session}
    (hledger : q.ledger = gone.foldl Ledger.closed { p.ledger with idle := kept }) :
    SameHolders p q := by
  obtain ⟨_, _, _, hcounts⟩ := Ledger.foldl_closed_counts gone { p.ledger with idle := kept }
  exact ⟨congrArg Ledger.borrows (hledger.trans hcounts),
    congrArg Ledger.loans (hledger.trans hcounts)⟩

/-- Sifting keeps or removes each session once. -/
theorem perm_sift (p : Pool) (now : Instant) (live : Nat) (idle : List Session) :
    ((p.sift now live idle).1 ++ (p.sift now live idle).2).Perm idle := by
  induction idle generalizing live with
  | nil => exact .refl _
  | cons s rest ih =>
    rw [sift]
    dsimp only
    split
    · exact List.perm_middle.trans ((ih (live - 1)).cons s)
    · exact (ih live).cons s

theorem ledger_evict (p : Pool) (now : Instant) :
    (p.evict now).ledger = (p.sift now p.live p.idle).2.foldl Ledger.closed
      { p.ledger with idle := (p.sift now p.live p.idle).1 } :=
  ledger_foldl_closed ledger_destroy _ _

theorem moves_evict (p : Pool) (now : Instant) :
    Account.Moves (p.ledger.account 0 0) ((p.evict now).ledger.account 0 0) :=
  moves_closing (perm_sift p now p.live p.idle) (ledger_evict p now)

theorem sameHolders_evict (p : Pool) (now : Instant) : SameHolders p (p.evict now) :=
  sameHolders_closing (ledger_evict p now)

theorem ledger_clear (p : Pool) :
    p.clear.ledger = p.idle.foldl Ledger.closed { p.ledger with idle := [] } :=
  ledger_foldl_closed (fun p s => ledger_discard { p with destroyed := p.destroyed + 1 } s) _ _

theorem moves_clear (p : Pool) :
    Account.Moves (p.ledger.account 0 0) (p.clear.ledger.account 0 0) :=
  moves_closing (show ([] ++ p.idle).Perm p.idle from .refl _) (ledger_clear p)

theorem sameHolders_clear (p : Pool) : SameHolders p p.clear :=
  sameHolders_closing (ledger_clear p)

theorem ledger_abandon (p : Pool) :
    p.abandon.ledger = p.idle.foldl Ledger.closed { p.ledger with idle := [] } :=
  ledger_foldl_closed ledger_discard _ _

theorem moves_abandon (p : Pool) :
    Account.Moves (p.ledger.account 0 0) (p.abandon.ledger.account 0 0) :=
  moves_closing (show ([] ++ p.idle).Perm p.idle from .refl _) (ledger_abandon p)

theorem sameHolders_abandon (p : Pool) : SameHolders p p.abandon :=
  sameHolders_closing (ledger_abandon p)

/-! ## Opening ahead of need -/

theorem upkeep_evict (p : Pool) (now : Instant) :
    (p.evict now).upkeep.stage.isOpening = p.upkeep.stage.isOpening := by
  obtain ⟨_, _, _, hcounts⟩ := Ledger.foldl_closed_counts (p.sift now p.live p.idle).2
    { p.ledger with idle := (p.sift now p.live p.idle).1 }
  exact congrArg Ledger.upkeepOpens ((ledger_evict p now).trans hcounts)

/-- Upkeep that holds no place takes one if it begins to open a session. -/
theorem moves_fill (p : Pool) (now : Instant) :
    Account.Moves (p.ledger.withoutUpkeep.account 0 0)
      ((p.fill now).ledger.account 0 0) := by
  unfold fill
  split
  · exact .refl
  · rename_i hopen
    have hfree : 0 < p.places := by
      have hplace : p.hasPlace = true := by
        by_contra hnone
        simp [hnone] at hopen
      rw [hasPlace, Bool.and_eq_true] at hplace
      exact of_decide_eq_true hplace.1
    -- The place goes from the free ones into the hands of the upkeep.
    refine (Ledger.moves_take p.ledger.withoutUpkeep hfree).trans ?_
    have htaken := Ledger.account_upkeepOpens { p.ledger with places := p.places - 1 }
    exact Account.moves_of_eq htaken.symm

theorem sameHolders_fill (p : Pool) (now : Instant) : SameHolders p (p.fill now) := by
  unfold fill
  split <;> exact ⟨rfl, rfl⟩

/-- A round of upkeep closes what goes, then fills up. -/
theorem moves_round {u : Upkeep} (hwaiting : p.upkeep.stage = .waiting) (hu : u.stage = .sifting)
    (now : Instant) : Account.Moves (p.ledger.account 0 0)
      ((({ p with upkeep := u }.evict now).fill now).ledger.account 0 0) := by
  -- Neither stage of the upkeep holds a place.
  have hledger : { p with upkeep := u }.ledger = p.ledger := by
    rw [ledger, ledger, hwaiting, hu]
    rfl
  rw [← hledger]
  refine (moves_evict { p with upkeep := u } now).trans ?_
  have hfill := moves_fill ({ p with upkeep := u }.evict now) now
  have hopens : ({ p with upkeep := u }.evict now).ledger.upkeepOpens = false :=
    (upkeep_evict { p with upkeep := u } now).trans (congrArg UpkeepStage.isOpening hu)
  rwa [Ledger.withoutUpkeep_of_not_opening hopens] at hfill

theorem sameHolders_round (p : Pool) (u : Upkeep) (now : Instant) :
    SameHolders p (({ p with upkeep := u }.evict now).fill now) := by
  have hevict := sameHolders_evict { p with upkeep := u } now
  exact SameHolders.trans ⟨hevict.borrows, hevict.loans⟩ (sameHolders_fill _ now)

theorem moves_tend (p : Pool) (now : Instant) :
    Account.Moves (p.ledger.account 0 0) ((p.tend now).ledger.account 0 0) := by
  unfold tend
  split
  · rename_i hwaiting
    split
    · refine Account.moves_of_eq (congrArg (Ledger.account · 0 0) ?_)
      rw [ledger, hwaiting]
      rfl
    · split
      · exact moves_round hwaiting rfl now
      · split
        · exact moves_round hwaiting rfl now
        · exact .refl
  · exact .refl

theorem sameHolders_tend (p : Pool) (now : Instant) : SameHolders p (p.tend now) := by
  unfold tend
  split
  · split
    · exact ⟨rfl, rfl⟩
    · split
      · exact sameHolders_round p _ now
      · split
        · exact sameHolders_round p _ now
        · exact ⟨rfl, rfl⟩
  · exact ⟨rfl, rfl⟩

/-- The place of an upkeep that is opening a session, in hand. -/
theorem account_dialling {id : Nat} {deadline : Instant}
    (h : p.upkeep.stage = .dialling id deadline) :
    p.ledger.account 0 0 = p.ledger.withoutUpkeep.account 0 1 := by
  rw [← Ledger.account_upkeepOpens]
  congr 1
  rw [ledger, h]
  rfl

theorem moves_upkeepDialled_ok {id : Nat} {deadline : Instant}
    (h : p.upkeep.stage = .dialling id deadline) (now : Instant) (line : LineId) :
    Account.Moves ((p.ledger.account 0 0).opened (p.openedSession id line now))
      ((p.upkeepDialled now (.ok line)).ledger.account 0 0) := by
  have hstart : (p.ledger.account 0 0).opened (p.openedSession id line now) =
      { p.ledger.withoutUpkeep with
        live := p.live + 1
        idle := p.idle ++ [p.openedSession id line now] }.account 0 0 := by
    rw [account_dialling h]
    have hopened := Ledger.account_opened p.ledger.withoutUpkeep (p.openedSession id line now)
    have hkept := Ledger.account_keep { p.ledger.withoutUpkeep with live := p.live + 1 }
      (p.openedSession id line now)
    exact (hkept.trans hopened).symm
  unfold upkeepDialled
  rw [h, hstart]
  have hfill := moves_fill
    { p.noteOpened with idle := p.idle ++ [p.openedSession id line now] }.tellOne now
  exact hfill

theorem moves_upkeepDialled_error (p : Pool) (now : Instant) (fault : IoFault) :
    Account.Moves (p.ledger.account 0 0)
      ((p.upkeepDialled now (.error fault)).ledger.account 0 0) := by
  unfold upkeepDialled
  split
  · rename_i hstage
    rw [account_dialling hstage]
    refine (Ledger.moves_freed p.ledger.withoutUpkeep 0 0).trans ?_
    refine Account.moves_of_eq (congrArg (Ledger.account · 0 0) ?_)
    rw [← Ledger.withoutUpkeep_freed, ← ledger_noteFailure p now, ← ledger_freePlace_opening]
    rfl
  · exact .refl

theorem sameHolders_freePlace (p : Pool) : SameHolders p (p.freePlace false) := by
  have hledger := ledger_freePlace_opening p
  unfold Ledger.freed at hledger
  split at hledger
  · exact ⟨congrArg Ledger.borrows hledger, congrArg Ledger.loans hledger⟩
  · exact ⟨congrArg Ledger.borrows hledger, congrArg Ledger.loans hledger⟩

theorem sameHolders_upkeepDialled (p : Pool) (now : Instant) (outcome : Except IoFault LineId) :
    SameHolders p (p.upkeepDialled now outcome) := by
  unfold upkeepDialled
  split
  · rename_i id deadline _
    split
    · rename_i line
      have hfill := sameHolders_fill
        { p.noteOpened with idle := p.idle ++ [p.openedSession id line now] }.tellOne now
      exact ⟨hfill.borrows, hfill.loans⟩
    · have hfreed := sameHolders_freePlace (p.noteFailure now)
      exact ⟨hfreed.borrows, hfreed.loans⟩
  · exact ⟨rfl, rfl⟩

theorem moves_upkeepExpired (p : Pool) (now : Instant) :
    Account.Moves (p.ledger.account 0 0) ((p.upkeepExpired now).ledger.account 0 0) := by
  unfold upkeepExpired
  split
  · split
    · exact moves_upkeepDialled_error p now _
    · exact .refl
  · exact .refl

theorem sameHolders_upkeepExpired (p : Pool) (now : Instant) :
    SameHolders p (p.upkeepExpired now) := by
  unfold upkeepExpired
  split
  · split
    · exact sameHolders_upkeepDialled p now _
    · exact ⟨rfl, rfl⟩
  · exact ⟨rfl, rfl⟩

/-! ## Resizing -/

theorem moves_resize (p : Pool) (min max : Nat) (now : Instant) :
    Account.Moves ((p.ledger.account 0 0).rebound (Nat.max max 1))
      ((p.resize min max now).ledger.account 0 0) := by
  unfold resize Account.rebound
  dsimp only
  rw [ledger_askUpkeep]
  by_cases hgrow : p.max < Nat.max max 1
  · rw [if_pos hgrow, if_pos (show (p.ledger.account 0 0).max < _ from hgrow),
      if_pos (show (p.ledger.account 0 0).max < _ from hgrow), ledger_tellAll]
    exact .refl
  · rw [if_neg hgrow, if_neg (show ¬ (p.ledger.account 0 0).max < _ from hgrow),
      if_neg (show ¬ (p.ledger.account 0 0).max < _ from hgrow)]
    split
    · exact moves_evict { p with
        min := Nat.min min (Nat.max max 1)
        max := Nat.max max 1
        places := p.places - Nat.min p.places (p.max - Nat.max max 1)
        owed := p.owed + (p.max - Nat.max max 1 - Nat.min p.places (p.max - Nat.max max 1)) } now
    · -- The maximum stays as it is, and so do the counts.
      have hsame : p.max - Nat.max max 1 = 0 := by omega
      refine Account.moves_of_eq ?_
      show Account.mk p.id _ (p.places - Nat.min p.places (p.max - Nat.max max 1))
        (p.owed + (p.max - Nat.max max 1 - Nat.min p.places (p.max - Nat.max max 1))) _ _ _ = _
      rw [hsame, show Nat.min p.places 0 = 0 from Nat.min_zero p.places, Nat.sub_zero]
      rfl

theorem sameHolders_resize (p : Pool) (min max : Nat) (now : Instant) :
    SameHolders p (p.resize min max now) := by
  unfold resize
  dsimp only
  split
  · exact ⟨rfl, rfl⟩
  · split
    · have hevict := sameHolders_evict { p with
        min := Nat.min min (Nat.max max 1)
        max := Nat.max max 1
        places := p.places - Nat.min p.places (p.max - Nat.max max 1)
        owed := p.owed + (p.max - Nat.max max 1 - Nat.min p.places (p.max - Nat.max max 1)) } now
      exact ⟨hevict.borrows, hevict.loans⟩
    · exact ⟨rfl, rfl⟩

/-! ## Draining -/

theorem moves_finishDrain (p : Pool) (call : CallId) :
    Account.Moves (p.ledger.account 0 0) ((p.finishDrain call).ledger.account 0 0) :=
  moves_clear { p with drain := none }

theorem sameHolders_finishDrain (p : Pool) (call : CallId) :
    SameHolders p (p.finishDrain call) := by
  have hclear := sameHolders_clear { p with drain := none }
  exact ⟨hclear.borrows, hclear.loans⟩

theorem moves_lookForLent (p : Pool) (d : Drain) (now : Instant) :
    Account.Moves (p.ledger.account 0 0) ((p.lookForLent d now).ledger.account 0 0) := by
  unfold lookForLent
  dsimp only
  split
  · exact moves_finishDrain ((p.enter .drainer).leave .drainer) d.call
  · exact .refl

theorem sameHolders_lookForLent (p : Pool) (d : Drain) (now : Instant) :
    SameHolders p (p.lookForLent d now) := by
  unfold lookForLent
  dsimp only
  split
  · have hfinish := sameHolders_finishDrain ((p.enter .drainer).leave .drainer) d.call
    exact ⟨hfinish.borrows, hfinish.loans⟩
  · exact ⟨rfl, rfl⟩

theorem moves_startDrain (p : Pool) (call : CallId) (now : Instant) :
    Account.Moves (p.ledger.account 0 0) ((p.startDrain call now).ledger.account 0 0) := by
  unfold startDrain
  split
  · exact .refl
  · exact moves_lookForLent (({ p with isClosed := true }.ask .wakeUpkeep).tellAll) _ now

theorem sameHolders_startDrain (p : Pool) (call : CallId) (now : Instant) :
    SameHolders p (p.startDrain call now) := by
  unfold startDrain
  split
  · exact ⟨rfl, rfl⟩
  · have hlook := sameHolders_lookForLent (({ p with isClosed := true }.ask .wakeUpkeep).tellAll)
      ⟨call, p.settings.drainTimeout.after now, now, 0⟩ now
    exact ⟨hlook.borrows, hlook.loans⟩

theorem moves_resumeDrain (p : Pool) (now : Instant) :
    Account.Moves (p.ledger.account 0 0) ((p.resumeDrain now).ledger.account 0 0) := by
  unfold resumeDrain
  split
  · split
    · exact moves_lookForLent { p with available := p.available.hear .drainer } _ now
    · split
      · exact moves_lookForLent (p.leave .drainer) _ now
      · exact .refl
  · exact .refl

theorem sameHolders_resumeDrain (p : Pool) (now : Instant) :
    SameHolders p (p.resumeDrain now) := by
  unfold resumeDrain
  split
  · rename_i d _
    split
    · have hlook := sameHolders_lookForLent
        { p with available := p.available.hear .drainer } d now
      exact ⟨hlook.borrows, hlook.loans⟩
    · split
      · have hlook := sameHolders_lookForLent (p.leave .drainer) d now
        exact ⟨hlook.borrows, hlook.loans⟩
      · exact ⟨rfl, rfl⟩
  · exact ⟨rfl, rfl⟩

theorem moves_drainExpired (p : Pool) (now : Instant) :
    Account.Moves (p.ledger.account 0 0) ((p.drainExpired now).ledger.account 0 0) := by
  unfold drainExpired
  split
  · split
    · exact moves_finishDrain (p.leave .drainer) _
    · exact .refl
  · exact .refl

theorem sameHolders_drainExpired (p : Pool) (now : Instant) :
    SameHolders p (p.drainExpired now) := by
  unfold drainExpired
  split
  · rename_i d _
    split
    · have hfinish := sameHolders_finishDrain (p.leave .drainer) d.call
      exact ⟨hfinish.borrows, hfinish.loans⟩
    · exact ⟨rfl, rfl⟩
  · exact ⟨rfl, rfl⟩

theorem ledger_cancelDrain (p : Pool) (call : CallId) :
    (p.cancelDrain call).ledger = p.ledger := by
  unfold cancelDrain
  split
  · split <;> rfl
  · rfl

theorem sameHolders_cancelDrain (p : Pool) (call : CallId) :
    SameHolders p (p.cancelDrain call) :=
  ⟨congrArg Ledger.borrows (ledger_cancelDrain p call),
    congrArg Ledger.loans (ledger_cancelDrain p call)⟩

end BroadcastLink.Pool
