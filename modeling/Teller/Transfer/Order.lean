import Teller.Row

/-!
# Orders and receipts

An order to move money, what it does to the two balances, and what it leaves behind. Balances are
adjusted in ascending order of account number, whichever of them pays: orders over the same pair of
accounts lock the rows in the same order and cannot block each other.
-/

namespace Teller

/-- An order to move money from one account to another. -/
structure Order where
  source : Int
  target : Int
  amount : Int
deriving Repr, DecidableEq, Inhabited

/-- The rows that a transfer wrote, and the accounts after it. -/
structure Receipt where
  transfer : Transfer
  sourceAccount : Account
  targetAccount : Account
  sourceEntry : Entry
  targetEntry : Entry
deriving Repr, DecidableEq, Inhabited

/-- A change of one balance. -/
structure Adjustment where
  account : Int
  delta : Int
deriving Repr, DecidableEq, Inhabited

namespace Order

/-- The change of the balance that pays. -/
def debit (o : Order) : Adjustment :=
  ⟨o.source, -o.amount⟩

/-- The change of the balance that is paid. -/
def credit (o : Order) : Adjustment :=
  ⟨o.target, o.amount⟩

/-- The two changes, that of the lower account number first. -/
def adjustments (o : Order) : Adjustment × Adjustment :=
  if o.source < o.target then (o.debit, o.credit) else (o.credit, o.debit)

end Order

end Teller
