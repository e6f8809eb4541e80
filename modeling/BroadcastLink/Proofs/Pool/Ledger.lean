import BroadcastLink.Proofs.Pool.Account
import BroadcastLink.Proofs.Roster.Values
import Mathlib.Algebra.Order.Group.Multiset

/-!
# The operations of a pool as moves

The ledger of a pool is the part that its account is read off: its bounds and counts, and who holds
which session or place. Most small steps of the pool leave the ledger alone. While an operation is
under way, the session or place of its caller is in hand, and the caller's entry is left out of the
ledger until it is written again.
-/

namespace BroadcastLink

/-- The session that a caller has under check. -/
def BorrowStage.session? : BorrowStage → Option Session
  | .checking s => some s
  | _ => none

/-- Does a caller hold a place on which nothing is open yet? -/
def BorrowStage.isOpening : BorrowStage → Bool
  | .resting _ | .dialling _ _ => true
  | _ => false

/-- Does the upkeep hold a place on which nothing is open yet? -/
def UpkeepStage.isOpening : UpkeepStage → Bool
  | .dialling _ _ => true
  | _ => false

/-- The bounds and counts of a pool, and who holds its sessions and places. -/
structure Ledger where
  id : PoolId
  max : Nat
  places : Nat
  owed : Nat
  live : Nat
  idle : List Session
  borrows : Roster CallId Borrow
  loans : Roster CallId Session
  upkeepOpens : Bool

namespace Ledger

/-- All sessions, wherever they are. -/
def sessions (l : Ledger) : Multiset Session :=
  ↑l.idle + (↑(l.borrows.values.filterMap fun b => b.stage.session?) + ↑l.loans.values)

/-- How many places have nothing open yet. -/
def openings (l : Ledger) : Nat :=
  l.borrows.values.countP (fun b => b.stage.isOpening) + l.upkeepOpens.toNat

/-- The account that the ledger gives, together with the sessions and places in hand. -/
def account (l : Ledger) (inHand : Multiset Session) (taken : Nat) : Account where
  id := l.id
  max := l.max
  places := l.places
  owed := l.owed
  live := l.live
  sessions := inHand + l.sessions
  openings := taken + l.openings

/-- The ledger without the entry of a caller. -/
def without (l : Ledger) (call : CallId) : Ledger := { l with borrows := l.borrows.erase call }

/-- The ledger without the place that the upkeep holds. -/
def withoutUpkeep (l : Ledger) : Ledger := { l with upkeepOpens := false }

/-- The ledger without the loan of a call. -/
def unlent (l : Ledger) (call : CallId) : Ledger := { l with loans := l.loans.erase call }

variable {l : Ledger} {inHand : Multiset Session} {taken : Nat}

/-! ## Taking in hand -/

theorem account_idle_cons {s : Session} {rest : List Session} (h : l.idle = s :: rest) :
    l.account inHand taken = { l with idle := rest }.account (s ::ₘ inHand) taken := by
  simp only [account, sessions, openings, h]
  rw [← Multiset.cons_coe, Multiset.cons_add, Multiset.cons_add, Multiset.add_cons]

theorem account_idle_perm {ss ts : List Session} (h : ss.Perm ts) :
    { l with idle := ss }.account inHand taken = { l with idle := ts }.account inHand taken := by
  simp only [account, sessions, openings, Multiset.coe_eq_coe.mpr h]

theorem account_idle_append (l : Ledger) (kept gone : List Session) :
    { l with idle := kept ++ gone }.account inHand taken =
      { l with idle := kept }.account ((gone : Multiset Session) + inHand) taken := by
  simp only [account, sessions, openings, ← Multiset.coe_add]
  congr 1
  simp only [add_assoc, add_left_comm]

/-- A session in hand joins the idle ones. -/
theorem account_keep (l : Ledger) (s : Session) :
    { l with idle := l.idle ++ [s] }.account 0 0 = l.account (s ::ₘ 0) 0 :=
  account_idle_append l l.idle [s]

theorem account_loan {call : CallId} {s : Session} (h : l.loans.get? call = some s) :
    l.account inHand taken = (l.unlent call).account (s ::ₘ inHand) taken := by
  have hvalues : (l.loans.values : Multiset Session) = s ::ₘ ↑(l.loans.erase call).values :=
    Multiset.coe_eq_coe.mpr (Roster.values_of_get? h)
  simp only [account, sessions, openings, unlent, hvalues, Multiset.add_cons, Multiset.cons_add]

theorem account_putLoan (l : Ledger) (call : CallId) (s : Session) :
    { l with loans := l.loans.put call s }.account inHand taken =
      (l.unlent call).account (s ::ₘ inHand) taken := by
  have h : ({ l with loans := l.loans.put call s } : Ledger).loans.get? call = some s := by simp
  rw [account_loan h, unlent, unlent, Roster.erase_put]

/-- The account with what a caller holds at a stage in hand. -/
def holding (l : Ledger) (stage : BorrowStage) : Account :=
  l.account ↑stage.session?.toList stage.isOpening.toNat

/-- What a caller holds is in hand once its entry is left out. -/
theorem account_borrow {call : CallId} {b : Borrow} (h : l.borrows.get? call = some b) :
    l.account 0 0 = (l.without call).holding b.stage := by
  -- The entries are that of the caller and the others, in another order.
  have hperm := Roster.values_of_get? h
  have hsessions : (↑(l.borrows.values.filterMap fun b => b.stage.session?) : Multiset Session) =
      ↑b.stage.session?.toList +
        ↑((l.borrows.erase call).values.filterMap fun b => b.stage.session?) := by
    rw [Multiset.coe_add, Multiset.coe_eq_coe]
    refine (hperm.filterMap _).trans ?_
    cases hs : b.stage.session? <;> simp [hs]
  have hopenings : l.borrows.values.countP (fun b => b.stage.isOpening) =
      b.stage.isOpening.toNat +
        (l.borrows.erase call).values.countP (fun b => b.stage.isOpening) := by
    rw [hperm.countP_eq]
    cases hb : b.stage.isOpening <;> simp [hb, Nat.add_comm]
  simp only [account, holding, sessions, openings, without, hsessions, hopenings]
  congr 1
  · simp only [add_assoc, add_left_comm, zero_add]
  · omega

theorem account_putBorrow (l : Ledger) (call : CallId) (b : Borrow) :
    { l with borrows := l.borrows.put call b }.account 0 0 =
      (l.without call).holding b.stage := by
  have h : ({ l with borrows := l.borrows.put call b } : Ledger).borrows.get? call = some b := by
    simp
  rw [account_borrow h, without, without, Roster.erase_put]

/-- The place that the upkeep holds is in hand once it is left out. -/
theorem account_upkeepOpens (l : Ledger) :
    { l with upkeepOpens := true }.account 0 0 = l.withoutUpkeep.account 0 1 := by
  simp only [account, withoutUpkeep, sessions, openings, Bool.toNat_true, Bool.toNat_false]
  congr 1
  omega

/-- A session in hand that was opened takes up a place that was in hand before. -/
theorem account_opened (l : Ledger) (s : Session) :
    { l with live := l.live + 1 }.account (s ::ₘ 0) 0 = (l.account 0 1).opened s := by
  have hopenings : 0 + l.openings = 1 + l.openings - 1 := by omega
  simp only [account, Account.opened, Multiset.cons_add, ← hopenings]
  rfl

theorem without_of_fresh {call : CallId} (h : l.borrows.get? call = none) :
    l.without call = l := by
  rw [without, Roster.erase_of_get?_none h]

theorem withoutUpkeep_of_not_opening (h : l.upkeepOpens = false) : l.withoutUpkeep = l := by
  rw [withoutUpkeep, ← h]

theorem unlent_of_none {call : CallId} (h : l.loans.get? call = none) : l.unlent call = l := by
  rw [unlent, Roster.erase_of_get?_none h]

end Ledger

end BroadcastLink
