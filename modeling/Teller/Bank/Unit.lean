import Teller.Bank.Basic

/-!
# Units of work

What the bank does inside a unit of work, and how a unit is opened and ended. Each call first passes
the point of its name, where it may be delayed or fail. An adjustment then waits for the row's lock,
for as long as the store's patience lasts.
-/

namespace Teller.Bank

/-- Counts a call of a point, which may fail. -/
def strike (p : Point) : Attempt StoreError Unit := do
  match ← .sure (.store (·.trip p)) with
  | .ok () => return ()
  | .error e =>
    .sure (.note (.injectedFailure p))
    throw e

/-- Passes a point: waits for its delay, then counts the call. -/
def pass (p : Point) : Attempt StoreError Unit := do
  match ← .sure (.look (·.faults.delay? p)) with
  | some d => .sure (.sleep d)
  | none => pure ()
  strike p

/-- A step of the store once an account's row is free for a unit of work, or, without a unit, free
altogether. The row is waited for as long as the store's patience lasts. -/
def onceFree {α : Type} (unit : Option Int) (account : Int) (f : Store → Except StoreError α × Store) :
    Attempt StoreError α := do
  let patience ← .sure (.look (·.patience))
  .storeOnce patience (·.Free unit account) f (.lockTimeout account)

def lockRow (unit account : Int) : Attempt StoreError Unit :=
  onceFree unit account fun s => (.ok (), s.lock unit account)

/-! ### Steps of a unit of work -/

def accountIn (unit id : Int) : Attempt StoreError Account :=
  .look (·.seen unit id)

def openAccountIn (unit : Int) (owner : String) (balance : Int) (currency : Currency) :
    Attempt StoreError Account := do
  pass .createAccount
  .store (·.stageAccount unit owner balance currency)

def writeTransferIn (unit source target amount : Int) : Attempt StoreError Transfer := do
  pass .createTransfer
  .store (·.stageTransfer unit source target amount)

def writeEntryIn (unit account amount : Int) : Attempt StoreError Entry := do
  pass .createEntry
  .store (·.stageEntry unit account amount)

def adjustIn (unit id delta : Int) (floor : Bool) : Attempt StoreError Account := do
  pass .addBalance
  lockRow unit id
  .store (·.adjust unit id delta floor)

/-! ### Opening and ending -/

def openUnit : Attempt StoreError Int := do
  pass .opening
  .sure (.store (·.openDraft))

/-- Ends a unit of work without a trace. -/
def abandon (unit : Int) : Act Unit :=
  .store fun s => ((), s.discard unit)

/-- Ends a unit of work by committing it; it ends also if that fails. -/
def commit (unit : Int) : Attempt StoreError Unit := do
  match ← .sure (pass .commit).outcome with
  | .ok () => .store (·.publish unit)
  | .error e =>
    .sure (abandon unit)
    throw e

/-- Ends a unit of work by rolling it back; it ends also if that fails. -/
def rollback (unit : Int) : Attempt StoreError Unit := do
  let passed ← .sure (pass .rollback).outcome
  .sure (abandon unit)
  match passed with
  | .ok () => return ()
  | .error e => throw e

end Teller.Bank
