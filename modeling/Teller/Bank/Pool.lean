import Teller.Bank.Unit

/-!
# Requests outside units of work

Reads of committed rows, the removal of an account, and the opening of an account in a unit of work
of its own. Each may be turned away by a refusal before it reaches the store.
-/

namespace Teller.Bank

/-- Turns a request away if there is a refusal for it. -/
def receive (request : Request) (row : Option Int) : Attempt StoreError Unit := do
  let b ← .sure .get
  match b.refusal? request row with
  | some e => throw e
  | none => return ()

def healthCheck : Attempt StoreError Unit :=
  receive .healthCheck none

def account (id : Int) : Attempt StoreError Account := do
  receive .account (some id)
  .look (·.book.account id)

def accounts (owner : String) (page : Page) : Attempt StoreError (List Account) := do
  receive .accounts none
  .look fun s => .ok (page.cut (s.book.accountsOf owner))

/-- Removes an account once its row is not locked; it must not be referred to. -/
def deleteAccount (id : Int) : Attempt StoreError Unit := do
  receive .deleteAccount (some id)
  onceFree none id (·.remove id)

def transfer (id : Int) : Attempt StoreError Transfer := do
  receive .transfer (some id)
  .look (·.book.transfer id)

def transfers (account : Int) (page : Page) : Attempt StoreError (List Transfer) := do
  receive .transfers (some account)
  .look fun s => .ok (page.cut (s.book.transfersOf account))

def entries (account : Int) (page : Page) : Attempt StoreError (List Entry) := do
  receive .entries (some account)
  .look fun s => .ok (page.cut (s.book.entriesOf account))

def beginUnit : Attempt StoreError Int := do
  receive .opening none
  openUnit

/-- Gives up the unit of work of an account that could not be opened. -/
def undoOpening (unit : Int) (e : StoreError) : Attempt StoreError Account := do
  match ← .sure (rollback unit).outcome with
  | .ok () => throw e
  | .error f =>
    .sure (.note (.openingRollbackFailed f))
    throw e

/-- Opens an account in a unit of work of its own. -/
def createAccount (owner : String) (balance : Int) (currency : Currency) :
    Attempt StoreError Account := do
  let unit ← beginUnit
  match ← .sure (openAccountIn unit owner balance currency).outcome with
  | .ok a =>
    commit unit
    return a
  | .error e => undoOpening unit e

end Teller.Bank
