import Teller.Amount
import Teller.Store.Draft
import Teller.Store.Fault

/-!
# The store

Committed rows, and units of work in progress. A unit of work stages rows in a draft of its own;
committing publishes the whole draft at once, any other end discards it. Numbers of rows are handed
out once, whatever becomes of the unit that took them.

An adjustment of a balance locks the account's row for its unit of work until the unit ends. The
functions here are the instantaneous steps: what waits, and for how long, is said in `Teller.Bank`.
-/

namespace Teller

/-- The account with an amount added to its balance. With `floor`, the balance may not end below
zero. -/
def Account.add (a : Account) (delta : Int) (floor : Bool) : Except StoreError Account :=
  match Amount.fit? (a.balance + delta) with
  | none => .error (.balanceOverflow a.id)
  | some balance =>
    if floor ∧ balance < 0 then .error (.insufficientFunds a.id a.balance delta)
    else .ok { a with balance := balance }

/-- The state of the store. -/
structure Store where
  book : Book
  nextAccount : Int
  nextEntry : Int
  nextTransfer : Int
  /-- The open units of work by number. -/
  drafts : Table Draft
  nextDraft : Int
  /-- What goes wrong. -/
  faults : Faults
  /-- How long a call waits for a locked row. -/
  patience : Time.Span
  /-- The time that new rows are given. -/
  now : Time.Instant

namespace Store

def defaultPatience : Time.Span := .millis 5000

def new (patience : Time.Span) (now : Time.Instant) : Store where
  book := .empty
  nextAccount := 1
  nextEntry := 1
  nextTransfer := 1
  drafts := .empty
  nextDraft := 1
  faults := .none
  patience := patience
  now := now

instance : Inhabited Store := ⟨new defaultPatience .epoch⟩

/-! ### Faults -/

/-- Counts a call of a point, which may fail. -/
def trip (s : Store) (p : Point) : Except StoreError Unit × Store :=
  let (fails, faults) := s.faults.trip p
  (if fails then .error (.injectedAt p) else .ok (), { s with faults := faults })

/-! ### Units of work and row locks -/

def draft (s : Store) (unit : Int) : Draft :=
  (s.drafts.get? unit).getD .empty

def setDraft (s : Store) (unit : Int) (d : Draft) : Store :=
  { s with drafts := s.drafts.put unit d }

def openDraft (s : Store) : Int × Store :=
  (s.nextDraft, { s with drafts := s.drafts.put s.nextDraft .empty, nextDraft := s.nextDraft + 1 })

/-- Ends a unit of work without a trace: what it staged is gone and the rows it locked are free. -/
def discard (s : Store) (unit : Int) : Store :=
  { s with drafts := s.drafts.erase unit }

/-- Ends all units of work from a number on. -/
def discardFrom (s : Store) (first : Int) : Store :=
  (s.drafts.rows.filter fun d => decide (first ≤ d.1)).foldl (fun s d => s.discard d.1) s

/-- The unit of work that keeps the account's row locked. -/
def holder? (s : Store) (account : Int) : Option Int :=
  (s.drafts.rows.find? fun d => decide (account ∈ d.2.locks)).map (·.1)

/-- No unit of work but this one keeps the account's row locked; `none` is no unit of work. -/
def Free (s : Store) (unit : Option Int) (account : Int) : Prop :=
  s.holder? account = none ∨ s.holder? account = unit

instance (s : Store) (unit : Option Int) (account : Int) : Decidable (s.Free unit account) := by
  unfold Free
  infer_instance

/-- Locks the account's row for the unit of work, which may hold it already. -/
def lock (s : Store) (unit account : Int) : Store :=
  let d := s.draft unit
  if account ∈ d.locks then s else s.setDraft unit { d with locks := account :: d.locks }

/-! ### Steps of a unit of work -/

/-- The account as the unit of work sees it. -/
def seen? (s : Store) (unit id : Int) : Option Account :=
  (s.draft unit).account? s.book id

/-- The account as the unit of work sees it, or why not. -/
def seen (s : Store) (unit id : Int) : Except StoreError Account :=
  match s.seen? unit id with
  | some a => .ok a
  | none => .error (.accountNotFound id)

/-- Stages a new account, unless the owner has one in the currency. -/
def stageAccount (s : Store) (unit : Int) (owner : String) (balance : Int) (currency : Currency) :
    Except StoreError Account × Store :=
  let d := s.draft unit
  if d.Stages owner currency ∨ s.book.Taken owner currency then
    (.error (.ownerHasAccount owner currency.code), s)
  else
    let a : Account := ⟨s.nextAccount, owner, balance, currency, s.now⟩
    let s := { s with nextAccount := s.nextAccount + 1 }
    (.ok a, s.setDraft unit { d with accounts := d.accounts.put a.id a })

/-- Stages a new transfer of a positive amount between accounts that exist. -/
def stageTransfer (s : Store) (unit source target amount : Int) :
    Except StoreError Transfer × Store :=
  if amount ≤ 0 then (.error (.amountNotPositive amount), s)
  else if s.seen? unit source = none then (.error (.noSuchAccount source), s)
  else if s.seen? unit target = none then (.error (.noSuchAccount target), s)
  else
    let d := s.draft unit
    let t : Transfer := ⟨s.nextTransfer, source, target, amount, s.now⟩
    let s := { s with nextTransfer := s.nextTransfer + 1 }
    (.ok t, s.setDraft unit { d with transfers := d.transfers ++ [t] })

/-- Stages a new entry of an account that exists. -/
def stageEntry (s : Store) (unit account amount : Int) : Except StoreError Entry × Store :=
  if s.seen? unit account = none then (.error (.noSuchAccount account), s)
  else
    let d := s.draft unit
    let e : Entry := ⟨s.nextEntry, account, amount, s.now⟩
    let s := { s with nextEntry := s.nextEntry + 1 }
    (.ok e, s.setDraft unit { d with entries := d.entries ++ [e] })

/-- Adds to the balance of an account whose row the unit of work has locked. -/
def adjust (s : Store) (unit id delta : Int) (floor : Bool) : Except StoreError Account × Store :=
  match s.seen unit id with
  | .error e => (.error e, s)
  | .ok a =>
    match a.add delta floor with
    | .error e => (.error e, s)
    | .ok a =>
      let d := s.draft unit
      (.ok a, s.setDraft unit { d with accounts := d.accounts.put a.id a })

/-- Ends a unit of work by publishing its draft. It fails, and the draft is gone, if an owner of a
staged account has got an account in that currency in the meantime. -/
def publish (s : Store) (unit : Int) : Except StoreError Unit × Store :=
  let d := s.draft unit
  match d.rival? s.book with
  | some a => (.error (.ownerHasAccount a.owner a.currency.code), s.discard unit)
  | none => (.ok (), { s.discard unit with book := d.publish s.book })

/-! ### Steps outside units of work -/

/-- Removes an account that no entry and no transfer refers to. -/
def remove (s : Store) (id : Int) : Except StoreError Unit × Store :=
  if ¬ s.book.accounts.contains id then (.error (.accountNotFound id), s)
  else if s.book.Refers id then (.error (.stillReferenced id), s)
  else (.ok (), { s with book := { s.book with accounts := s.book.accounts.erase id } })

end Store

end Teller
