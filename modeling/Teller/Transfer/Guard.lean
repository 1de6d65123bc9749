import Teller.Bank.Pool
import Teller.Transfer.Order

/-!
# The guard

Whether a principal may have an order carried out. The guard reads committed rows before the work
on the order begins, so what it saw may have changed by then. It looks at the request itself first,
then at the account that pays, and last at the account that is paid, so nobody learns anything about
an account that they could not pay from their own.
-/

namespace Teller

/-- A principal's request for a transfer, in the currency of a code. -/
structure TransferRequest where
  principal : String
  source : Int
  target : Int
  amount : Int
  currency : String
deriving Repr, DecidableEq, Inhabited

namespace TransferRequest

/-- The account of a number, if it is held in the currency. -/
def accountIn (currency : Currency) (id : Int) : Attempt TransferError Account := do
  let a ← (Bank.account id).mapError fun
    | .notFound _ _ => .accountNotFound id
    | e => .store e
  if a.currency ≠ currency then throw (.currencyMismatch id a.currency.code currency.code)
  return a

/-- The order that the request stands for, if it is allowed. -/
def check (r : TransferRequest) : Attempt TransferError Order := do
  if r.amount ≤ 0 then throw .invalidAmount
  let currency ← match Currency.ofCode? r.currency with
    | some c => pure c
    | none => throw (.unsupportedCurrency r.currency)
  if r.source = r.target then throw .sameAccount
  let source ← accountIn currency r.source
  if source.owner ≠ r.principal then throw (.forbidden source.id)
  let _ ← accountIn currency r.target
  return ⟨r.source, r.target, r.amount⟩

end TransferRequest

end Teller
