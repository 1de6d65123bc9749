import Teller.Bank.Pool
import Teller.Holder.Error
import Teller.Text.Blank

/-!
# Holders

What principals do with accounts of their own: open, read, list and delete them, and read their
entries. An account opens empty, so its balance is the sum of its entries from then on.
-/

namespace Teller.Holder

def leastPageSize : Int := 5

def greatestPageSize : Int := 10

def page (number size : Int) : Except AccountError Page :=
  let invalid : AccountError := .invalidPage number size leastPageSize greatestPageSize
  if number < 1 ∨ size < leastPageSize ∨ greatestPageSize < size then .error invalid
  else
    match Page.numbered? number size with
    | some p => .ok p
    | none => .error invalid

def openAccount (owner currency : String) : Attempt AccountError Account := do
  let owner := Text.trim owner
  if owner = "" then throw .emptyOwner
  let c ← match Currency.ofCode? currency with
    | some c => pure c
    | none => throw (.unsupportedCurrency currency)
  let a ← (Bank.createAccount owner 0 c).mapError fun
    | .uniqueViolation _ => .alreadyExists owner c.code
    | e => .store e
  .sure (.note (.accountOpened a.id owner c))
  return a

def account (owner : String) (id : Int) : Attempt AccountError Account := do
  let a ← (Bank.account id).mapError fun
    | .notFound _ _ => .notFound id
    | e => .store e
  if a.owner ≠ owner then throw (.forbidden id)
  return a

def accounts (owner : String) (number size : Int) : Attempt AccountError (List Account) := do
  let p ← ExceptT.mk (pure (page number size))
  (Bank.accounts owner p).mapError .store

/-- What the failure to delete an account is to its owner. -/
def deletionError (id : Int) : StoreError → AccountError
  | .foreignKeyViolation _ => .hasLedgerEntries id
  | .notFound _ _ => .notFound id
  | e => .store e

/-- Deletes the owner's account, unless entries or transfers refer to it. -/
def deleteAccount (owner : String) (id : Int) : Attempt AccountError Unit := do
  let _ ← account owner id
  (Bank.deleteAccount id).mapError (deletionError id)
  .sure (.note (.accountDeleted id owner))

/-- A page of the entries of the owner's account, oldest first. -/
def entries (owner : String) (id number size : Int) : Attempt AccountError (List Entry) := do
  let p ← ExceptT.mk (pure (page number size))
  let _ ← account owner id
  (Bank.entries id p).mapError .store

end Teller.Holder
