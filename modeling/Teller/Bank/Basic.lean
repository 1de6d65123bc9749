import Teller.Journal.Event
import Teller.Store.Basic
import Teller.Timed

/-!
# The bank

The store together with what stands before it: refusals, which turn requests away before they reach
the store, and the journal. What the bank does takes time, so it is described by timed computations.

A refusal concerns one kind of request, for one row or for all; one for the very row goes first.
-/

namespace Teller

/-- The requests that can be turned away. -/
inductive Bank.Request where
  | opening
  | healthCheck
  | account
  | accounts
  | deleteAccount
  | transfer
  | transfers
  | entries
deriving Repr, DecidableEq, Inhabited

structure Bank.Refusal where
  request : Bank.Request
  /-- The number of the row; none stands for all. -/
  row : Option Int
  error : StoreError
deriving Repr, DecidableEq, Inhabited

structure Bank where
  store : Store
  /-- The refusals, latest first. -/
  refusals : List Bank.Refusal
  /-- The journal, latest event first. -/
  journal : List Event

namespace Bank

def new (patience : Time.Span) (now : Time.Instant) : Bank :=
  ⟨.new patience now, [], []⟩

instance : Inhabited Bank := ⟨new Store.defaultPatience .epoch⟩

/-- The answer to a request that is turned away: a refusal for its row goes before one for all. -/
def refusal? (b : Bank) (request : Request) (row : Option Int) : Option StoreError :=
  let given (row : Option Int) :=
    (b.refusals.find? fun r => decide (r.request = request ∧ r.row = row)).map (·.error)
  match row with
  | none => given none
  | some id => (given (some id)).or (given none)

def refuse (b : Bank) (refusal : Refusal) : Bank :=
  { b with refusals := refusal :: b.refusals }

def admitAll (b : Bank) : Bank :=
  { b with refusals := [] }

end Bank

/-- Something that the bank does. -/
abbrev Act (α : Type) : Type :=
  Timed Bank α

/-- Something that the bank does and that may fail. -/
abbrev Attempt (ε α : Type) : Type :=
  ExceptT ε (Timed Bank) α

namespace Act

variable {α : Type}

/-- An instantaneous step of the store. -/
def store (f : Store → α × Store) : Act α :=
  .step fun b => ((f b.store).1, { b with store := (f b.store).2 })

def look (f : Store → α) : Act α :=
  store fun s => (f s, s)

def note (e : Event) : Act Unit :=
  .step fun b => ((), { b with journal := e :: b.journal })

/-- The result, unless the bank is still at it when the limit ends; then the units of work that it
has opened for it end without a trace. -/
def dropAfter (limit : Time.Span) (m : Act α) : Act (Option α) := do
  let first ← look (·.nextDraft)
  match ← Timed.within limit m with
  | some a => return some a
  | none => do
    store fun s => ((), s.discardFrom first)
    return none

end Act

namespace Attempt

variable {ε δ α : Type}

def sure (m : Act α) : Attempt ε α :=
  ExceptT.lift m

/-- What is done, with its failure as a result. -/
def outcome (m : Attempt ε α) : Act (Except ε α) :=
  m.run

def store (f : Store → Except ε α × Store) : Attempt ε α :=
  ExceptT.mk (Act.store f)

def look (f : Store → Except ε α) : Attempt ε α :=
  store fun s => (f s, s)

/-- A step of the store once it is ready for it; it fails if that takes longer than the span. -/
def storeOnce (span : Time.Span) (ready : Store → Bool) (f : Store → Except ε α × Store) (late : ε) :
    Attempt ε α :=
  ExceptT.mk (Timed.await span (fun b => ready b.store)
    (fun b => ((f b.store).1, { b with store := (f b.store).2 })) (.error late))

def mapError (f : ε → δ) (m : Attempt ε α) : Attempt δ α :=
  ExceptT.mk (do return (← m.run).mapError f)

end Attempt

end Teller
