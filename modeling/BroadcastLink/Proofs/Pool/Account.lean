import BroadcastLink.Pool.Borrow
import BroadcastLink.Pool.Drain
import BroadcastLink.Pool.Loan
import BroadcastLink.Pool.Upkeep
import BroadcastLink.Proofs.Session.Later
import Mathlib.Data.Multiset.Count
import Mathlib.Data.Multiset.MapFold
import Mathlib.Logic.Relation

/-!
# The account of a pool

A pool keeps three counts of its places: the free ones, those owed, and the open sessions. They are
changed one place at a time. The account of a pool sets them beside what takes up the places, and
every operation comes down to a few moves of the account: a session is opened or closed, a place is
taken or given up. Whatever a caller or the upkeep holds while an operation is under way counts as
well, so that the moves can be told one after another.
-/

namespace BroadcastLink

/-- The bounds and counts of a pool, all sessions in its hands, and the places on which nothing is
open yet. -/
structure Account where
  id : PoolId
  max : Nat
  places : Nat
  owed : Nat
  live : Nat
  sessions : Multiset Session
  openings : Nat

namespace Account

/-- Does a session take up a place of the pool? -/
def Owns (id : PoolId) (s : Session) : Prop := s.pool = some id

instance (id : PoolId) : DecidablePred (Owns id) := fun s =>
  inferInstanceAs (Decidable (s.pool = some id))

/-- How many of the pool's places are taken up by open sessions. -/
def openSlots (a : Account) : Nat := a.sessions.countP (Owns a.id)

/-- How many places are taken up. -/
def slots (a : Account) : Nat := a.openSlots + a.openings

/-- A place comes free: it is given up if one is owed. -/
def free (a : Account) : Account :=
  if 0 < a.owed then { a with owed := a.owed - 1 } else { a with places := a.places + 1 }

/-- A session is opened on a place taken before. -/
def opened (a : Account) (s : Session) : Account :=
  { a with openings := a.openings - 1, live := a.live + 1, sessions := s ::ₘ a.sessions }

/-- The maximum changes: growing makes places, less those owed; shrinking forgets free places and
owes the others. -/
def rebound (a : Account) (max : Nat) : Account :=
  { a with
    max := max
    places :=
      if a.max < max then a.places + (max - a.max - a.owed)
      else a.places - Nat.min a.places (a.max - max)
    owed :=
      if a.max < max then a.owed - (max - a.max)
      else a.owed + (a.max - max - Nat.min a.places (a.max - max)) }

/-- What an operation does to an account, one place at a time. -/
inductive Move : Account → Account → Prop where
  /-- A session of the pool is closed. -/
  | close (a : Account) (s : Session) (h : Owns a.id s) :
    Move { a with sessions := s ::ₘ a.sessions } { a with live := a.live - 1 }.free
  /-- A session that takes up no place of the pool is closed. -/
  | forget (a : Account) (s : Session) (h : ¬ Owns a.id s) :
    Move { a with sessions := s ::ₘ a.sessions } a
  /-- A place on which nothing was opened is given up. -/
  | giveUp (a : Account) : Move { a with openings := a.openings + 1 } a.free
  /-- A free place is taken. -/
  | take (a : Account) (h : 0 < a.places) :
    Move a { a with places := a.places - 1, openings := a.openings + 1 }
  /-- A check of a session begins. -/
  | check (a : Account) (s s' : Session) (timeout : Duration) (h : s.check timeout = .inFlight s') :
    Move { a with sessions := s ::ₘ a.sessions } { a with sessions := s' ::ₘ a.sessions }

/-- Any number of moves. -/
abbrev Moves : Account → Account → Prop := Relation.ReflTransGen Move

variable {a b : Account}

theorem moves_of_eq (h : a = b) : Moves a b := h ▸ .refl

/-! ## The counts are right -/

/-- The free places are those the maximum leaves, the owed ones those beyond it, and the open
sessions are counted. -/
structure Balanced (a : Account) : Prop where
  live : a.live = a.openSlots
  places : a.places = a.max - a.slots
  owed : a.owed = a.slots - a.max

/-- Giving a place back keeps the counts right when one place more was taken up before. -/
theorem balanced_free (hlive : a.live = a.openSlots) (hplaces : a.places = a.max - (a.slots + 1))
    (howed : a.owed = a.slots + 1 - a.max) : a.free.Balanced := by
  unfold free
  split
  · refine ⟨hlive, ?_, ?_⟩
    · show a.places = a.max - a.slots
      omega
    · show a.owed - 1 = a.slots - a.max
      omega
  · refine ⟨hlive, ?_, ?_⟩
    · show a.places + 1 = a.max - a.slots
      omega
    · show a.owed = a.slots - a.max
      omega

theorem openSlots_cons_of_owned (a : Account) {s : Session} (h : Owns a.id s) :
    { a with sessions := s ::ₘ a.sessions }.openSlots = a.openSlots + 1 :=
  Multiset.countP_cons_of_pos _ h

theorem openSlots_cons_of_not_owned (a : Account) {s : Session} (h : ¬ Owns a.id s) :
    { a with sessions := s ::ₘ a.sessions }.openSlots = a.openSlots :=
  Multiset.countP_cons_of_neg _ h

/-- Two sessions of the same pool count the same. -/
theorem openSlots_congr (a : Account) {s s' : Session} (h : s'.pool = s.pool) :
    { a with sessions := s' ::ₘ a.sessions }.openSlots =
      { a with sessions := s ::ₘ a.sessions }.openSlots := by
  have hown : Owns a.id s' ↔ Owns a.id s := by rw [Owns, Owns, h]
  simp only [openSlots, Multiset.countP_cons, hown]

/-- A session may stand for another of the same pool. -/
theorem Balanced.swap {s s' : Session} (h : s'.pool = s.pool)
    (hbal : { a with sessions := s ::ₘ a.sessions }.Balanced) :
    { a with sessions := s' ::ₘ a.sessions }.Balanced := by
  have hopen := openSlots_congr a h
  refine ⟨hbal.live.trans hopen.symm, ?_, ?_⟩
  · rw [slots, hopen]
    exact hbal.places
  · rw [slots, hopen]
    exact hbal.owed

theorem Balanced.move (h : a.Balanced) (m : Move a b) : b.Balanced := by
  obtain ⟨hlive, hplaces, howed⟩ := h
  cases m with
  | close a s hown =>
    -- The session that is closed was counted once among the open ones.
    have hopen := openSlots_cons_of_owned a hown
    rw [slots, hopen] at hplaces howed
    rw [hopen] at hlive
    apply balanced_free
    · show a.live - 1 = a.openSlots
      replace hlive : a.live = a.openSlots + 1 := hlive
      omega
    · show a.places = a.max - (a.openSlots + a.openings + 1)
      replace hplaces : a.places = a.max - (a.openSlots + 1 + a.openings) := hplaces
      omega
    · show a.owed = a.openSlots + a.openings + 1 - a.max
      replace howed : a.owed = a.openSlots + 1 + a.openings - a.max := howed
      omega
  | forget a s hown =>
    have hopen := openSlots_cons_of_not_owned b hown
    rw [slots, hopen] at hplaces howed
    rw [hopen] at hlive
    exact ⟨hlive, hplaces, howed⟩
  | giveUp a => exact balanced_free (a := a) hlive hplaces howed
  | take a hfree =>
    refine ⟨hlive, ?_, ?_⟩
    · show a.places - 1 = a.max - (a.openSlots + (a.openings + 1))
      rw [slots] at hplaces
      omega
    · show a.owed = a.openSlots + (a.openings + 1) - a.max
      rw [slots] at hplaces howed
      omega
  | check a s s' timeout hcheck =>
    exact Balanced.swap (Session.later_of_check hcheck).pool ⟨hlive, hplaces, howed⟩

theorem Balanced.moves (h : a.Balanced) (m : Moves a b) : b.Balanced := by
  induction m with
  | refl => exact h
  | tail _ last ih => exact ih.move last

/-- Opening a session on a place taken before changes what takes the place up. -/
theorem Balanced.opened (h : a.Balanced) (htaken : 0 < a.openings) {s : Session}
    (hown : Owns a.id s) : (a.opened s).Balanced := by
  have hopen : (a.opened s).openSlots = a.openSlots + 1 := openSlots_cons_of_owned a hown
  obtain ⟨hlive, hplaces, howed⟩ := h
  rw [slots] at hplaces howed
  refine ⟨(congrArg (· + 1) hlive).trans hopen.symm, ?_, ?_⟩
  · show a.places = a.max - ((a.opened s).openSlots + (a.openings - 1))
    omega
  · show a.owed = (a.opened s).openSlots + (a.openings - 1) - a.max
    omega

/-- However the maximum changes, the counts follow. -/
theorem Balanced.rebound (h : a.Balanced) (max : Nat) : (a.rebound max).Balanced := by
  obtain ⟨hlive, hplaces, howed⟩ := h
  -- Whether places or debts are left depends on both bounds; the four cases are linear.
  have hmin : Nat.min a.places (a.max - max) = min a.places (a.max - max) := rfl
  refine ⟨hlive, ?_, ?_⟩
  · show (if a.max < max then _ else _) = max - a.slots
    split <;> omega
  · show (if a.max < max then _ else _) = a.slots - max
    split <;> omega

/-! ## What else the moves keep -/

/-- No places were taken beyond so many, unless none is owed. -/
def Within (a : Account) (n : Nat) : Prop := a.openings ≤ n ∨ a.owed = 0

theorem owed_free_le (a : Account) : a.free.owed ≤ a.owed := by
  unfold free
  split
  · exact Nat.sub_le _ _
  · exact Nat.le_refl _

theorem Within.free {n : Nat} (h : a.Within n) : a.free.Within n := by
  have hopenings : a.free.openings = a.openings := by
    unfold Account.free
    split <;> rfl
  rw [Within, hopenings]
  exact h.imp_right fun howed => Nat.le_zero.mp ((owed_free_le a).trans (Nat.le_of_eq howed))

/-- Places are taken only while none is owed. -/
theorem Within.move {n : Nat} (hbal : a.Balanced) (h : a.Within n) (m : Move a b) :
    b.Within n := by
  cases m with
  | close a s _ => exact Within.free (a := { a with live := a.live - 1 }) h
  | forget | check => exact h
  | giveUp a => exact Within.free (a := a) (h.imp_left fun hle => Nat.le_of_succ_le hle)
  | take a hfree =>
    right
    show a.owed = 0
    have hplaces := hbal.places
    have howed := hbal.owed
    omega

theorem Within.moves {n : Nat} (hbal : a.Balanced) (h : a.Within n) (m : Moves a b) :
    b.Within n := by
  induction m with
  | refl => exact h
  | tail before last ih => exact ih.move (hbal.moves before) last

theorem sessions_free (a : Account) : a.free.sessions = a.sessions := by
  unfold free
  split <;> rfl

/-- What a session keeps when its check begins holds of all sessions as long as it did before. -/
theorem forall_sessions_move {P : Session → Prop}
    (hcheck : ∀ s s' timeout, P s → s.check timeout = .inFlight s' → P s')
    (h : ∀ s ∈ a.sessions, P s) (m : Move a b) : ∀ s ∈ b.sessions, P s := by
  cases m with
  | close a s _ =>
    rw [sessions_free]
    exact fun t ht => h t (Multiset.mem_cons_of_mem ht)
  | forget _ s _ => exact fun t ht => h t (Multiset.mem_cons_of_mem ht)
  | giveUp a =>
    rw [sessions_free]
    exact h
  | take => exact h
  | check a s s' timeout hbegun =>
    intro t ht
    rcases Multiset.mem_cons.mp ht with rfl | ht
    · exact hcheck s t timeout (h s (Multiset.mem_cons_self s _)) hbegun
    · exact h t (Multiset.mem_cons_of_mem ht)

theorem forall_sessions_moves {P : Session → Prop}
    (hcheck : ∀ s s' timeout, P s → s.check timeout = .inFlight s' → P s')
    (h : ∀ s ∈ a.sessions, P s) (m : Moves a b) : ∀ s ∈ b.sessions, P s := by
  induction m with
  | refl => exact h
  | tail _ last ih => exact forall_sessions_move hcheck ih last

/-- The moves bring no connection in. -/
theorem lines_moves (m : Moves a b) :
    b.sessions.map Session.line ≤ a.sessions.map Session.line := by
  induction m with
  | refl => exact le_rfl
  | tail _ last ih =>
    refine le_trans ?_ ih
    cases last with
    | close a s _ =>
      rw [sessions_free, Multiset.map_cons]
      exact Multiset.le_cons_self _ _
    | forget _ s _ =>
      rw [Multiset.map_cons]
      exact Multiset.le_cons_self _ _
    | giveUp a => rw [sessions_free]
    | take => exact le_rfl
    | check a s s' timeout hbegun =>
      rw [Multiset.map_cons, Multiset.map_cons, (Session.later_of_check hbegun).line]

end Account

end BroadcastLink
