import Teller.Transfer.Execution
import Teller.Transfer.Guard

/-!
# The transfer desk

Transfers on behalf of principals: a request passes the guard and is carried out; a committed
transfer is shown to the owners of its two accounts.
-/

namespace Teller

/-- Checks the request and carries it out. -/
def TransferRequest.submit (r : TransferRequest) (terms : Terms) : Attempt TransferError Receipt := do
  let order ← r.check
  match ← .sure (order.execute terms).outcome with
  | .ok receipt => return receipt
  | .error e =>
    .sure (.note (.transferFailed r.principal order.source order.target order.amount e))
    throw e

/-- The committed transfer, for an owner of one of its accounts. -/
def Transfer.readBy (principal : String) (id : Int) : Attempt TransferError Transfer := do
  let t ← (Bank.transfer id).mapError fun
    | .notFound _ _ => .transferNotFound id
    | e => .store e
  let source ← (Bank.account t.source).mapError .store
  if source.owner = principal then return t
  let target ← (Bank.account t.target).mapError .store
  if target.owner = principal then return t
  .sure (.note (.transferReadDenied principal id))
  throw (.forbidden t.source)

end Teller
