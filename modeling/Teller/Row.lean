import Teller.Currency
import Teller.Time.Instant

/-!
# Rows of the ledger

Amounts are in the smallest unit of the currency. Entries and transfers never change once they are
written; an account's balance is the sum of its entries on top of what it was opened with.
-/

namespace Teller

/-- A bank account. -/
structure Account where
  id : Int
  /-- Who may spend from it. -/
  owner : String
  balance : Int
  currency : Currency
  createdAt : Time.Instant
deriving Repr, DecidableEq, Inhabited

/-- A movement of money into an account, or out of it if the amount is negative. -/
structure Entry where
  id : Int
  account : Int
  amount : Int
  createdAt : Time.Instant
deriving Repr, DecidableEq, Inhabited

/-- Money moved from one account to another. -/
structure Transfer where
  id : Int
  source : Int
  target : Int
  amount : Int
  createdAt : Time.Instant
deriving Repr, DecidableEq, Inhabited

namespace Account

/-- The account is the owner's account in the currency, of which there is at most one. -/
def IsOf (a : Account) (owner : String) (currency : Currency) : Prop :=
  a.owner = owner ∧ a.currency = currency

instance (a : Account) (owner : String) (currency : Currency) :
    Decidable (a.IsOf owner currency) := by
  unfold IsOf
  infer_instance

end Account

/-- The transfer pays or is paid from the account. -/
def Transfer.Involves (t : Transfer) (account : Int) : Prop :=
  t.source = account ∨ t.target = account

instance (t : Transfer) (account : Int) : Decidable (t.Involves account) := by
  unfold Transfer.Involves
  infer_instance

end Teller
