import Teller.Bank.Unit

/-!
# Work

What is to be done in one unit of work, as a finite tree of steps: each step names a call, and what
comes next depends on its outcome. In sequence, work stops at the first call that fails, unless the
failure is caught by `Work.attempt`.
-/

namespace Teller

/-- Work that ends with a value or with a failure of the store. -/
inductive Work (α : Type) where
  | done (result : Except StoreError α)
  | rest (span : Time.Span) (next : Work α)
  | readAccount (id : Int) (next : Except StoreError Account → Work α)
  | openAccount (owner : String) (balance : Int) (currency : Currency)
    (next : Except StoreError Account → Work α)
  | writeTransfer (source target amount : Int) (next : Except StoreError Transfer → Work α)
  | writeEntry (account amount : Int) (next : Except StoreError Entry → Work α)
  | adjust (id delta : Int) (floor : Bool) (next : Except StoreError Account → Work α)

namespace Work

variable {α β : Type}

/-- Work that goes on with whatever the outcome of `m` is. -/
def continued (f : Except StoreError α → Work β) : Work α → Work β
  | .done result => f result
  | .rest span next => .rest span (next.continued f)
  | .readAccount id next => .readAccount id fun r => (next r).continued f
  | .openAccount owner balance currency next =>
    .openAccount owner balance currency fun r => (next r).continued f
  | .writeTransfer source target amount next =>
    .writeTransfer source target amount fun r => (next r).continued f
  | .writeEntry account amount next => .writeEntry account amount fun r => (next r).continued f
  | .adjust id delta floor next => .adjust id delta floor fun r => (next r).continued f

/-- Work that goes on only after success. -/
protected def bind (m : Work α) (f : α → Work β) : Work β :=
  m.continued fun
    | .ok a => f a
    | .error e => .done (.error e)

instance : Monad Work where
  pure a := .done (.ok a)
  bind := Work.bind

/-- Work whose failure is a value. -/
def attempt (m : Work α) : Work (Except StoreError α) :=
  m.continued fun r => .done (.ok r)

/-- The bank does the work in a unit of work. -/
def run (unit : Int) : Work α → Attempt StoreError α
  | .done result => ExceptT.mk (pure result)
  | .rest span next => do
    .sure (.sleep span)
    next.run unit
  | .readAccount id next => do
    let r ← .sure (Bank.accountIn unit id).outcome
    (next r).run unit
  | .openAccount owner balance currency next => do
    let r ← .sure (Bank.openAccountIn unit owner balance currency).outcome
    (next r).run unit
  | .writeTransfer source target amount next => do
    let r ← .sure (Bank.writeTransferIn unit source target amount).outcome
    (next r).run unit
  | .writeEntry account amount next => do
    let r ← .sure (Bank.writeEntryIn unit account amount).outcome
    (next r).run unit
  | .adjust id delta floor next => do
    let r ← .sure (Bank.adjustIn unit id delta floor).outcome
    (next r).run unit

end Work

end Teller
