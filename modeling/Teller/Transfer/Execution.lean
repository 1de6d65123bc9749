import Teller.Transfer.Order
import Teller.Work.Execution

/-!
# Execution of orders

An order is carried out in one unit of work: the transfer, an entry for each account, and the two
balances. Either all of it is committed or nothing is.
-/

namespace Teller

/-- The terms on which orders are carried out. -/
structure Terms where
  /-- A balance may be paid below zero. -/
  overdraft : Bool
  /-- How long the work on one order may take. -/
  deadline : Option Time.Span
deriving Repr, DecidableEq, Inhabited

/-- Adds to a balance. Only what pays is held to the floor of zero. -/
def Adjustment.work (a : Adjustment) (overdraft : Bool) : Work Account :=
  .adjust a.account a.delta (decide (a.delta < 0) && !overdraft) .done

namespace Order

def work (o : Order) (overdraft : Bool) : Work Receipt := do
  let transfer ← .writeTransfer o.source o.target o.amount .done
  let sourceEntry ← .writeEntry o.source (-o.amount) .done
  let targetEntry ← .writeEntry o.target o.amount .done
  let (a, b) := o.adjustments
  let first ← a.work overdraft
  let second ← b.work overdraft
  if first.id = o.source then
    return ⟨transfer, first, second, sourceEntry, targetEntry⟩
  else
    return ⟨transfer, second, first, sourceEntry, targetEntry⟩

def execute (o : Order) (terms : Terms) : Attempt TransferError Receipt := do
  if o.amount ≤ 0 then throw .invalidAmount
  if o.source = o.target then throw .sameAccount
  let receipt ← ((o.work terms.overdraft).execute terms.deadline).mapError .work
  .sure (.note (.transferCommitted receipt.transfer.id o.source o.target o.amount))
  return receipt

end Order

end Teller
