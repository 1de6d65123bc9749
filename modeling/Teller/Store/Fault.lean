import Teller.Store.Error
import Teller.Time.Span

/-!
# Faults

Failures and delays that can be asked for at each point of the store. A rule lets the first calls
of its point pass and makes all later ones fail.
-/

namespace Teller

/-- A point of the store at which a call can fail or be delayed. -/
inductive Point where
  | opening
  | createAccount
  | createTransfer
  | createEntry
  | addBalance
  | commit
  | rollback
deriving Repr, DecidableEq, Inhabited

namespace Point

def name : Point → String
  | .opening => "BEGIN"
  | .createAccount => "CREATE_ACCOUNT"
  | .createTransfer => "CREATE_TRANSFER"
  | .createEntry => "CREATE_ENTRY"
  | .addBalance => "ADD_ACCOUNT_BALANCE"
  | .commit => "COMMIT"
  | .rollback => "ROLLBACK"

/-- Every point, once. -/
def all : List Point :=
  [.opening, .createAccount, .createTransfer, .createEntry, .addBalance, .commit, .rollback]

def ofName? (name : String) : Option Point :=
  all.find? fun p => p.name = name

end Point

def StoreError.injectedAt (p : Point) : StoreError :=
  .injected p.name

/-- From the `nth` call on, counted from one, calls fail; `seen` calls have been made. -/
structure FailRule where
  /-- The first call that fails. -/
  nth : Nat
  seen : Nat
deriving Repr, DecidableEq, Inhabited

/-- What goes wrong at which points. -/
structure Faults where
  /-- The rules; a point has at most one. -/
  rules : List (Point × FailRule)
  /-- The delays; a point has at most one. -/
  delays : List (Point × Time.Span)
deriving Repr, DecidableEq, Inhabited

namespace Faults

def none : Faults := ⟨[], []⟩

def rule? (f : Faults) (p : Point) : Option FailRule :=
  f.rules.lookup p

def delay? (f : Faults) (p : Point) : Option Time.Span :=
  f.delays.lookup p

/-- Gives a point a rule instead of the one it has. -/
def setRule (f : Faults) (p : Point) (r : FailRule) : Faults :=
  { f with rules := (p, r) :: f.rules.filter (fun a => decide (a.1 ≠ p)) }

/-- Lets the point fail from the `nth` call on, counted from now. -/
def failOn (f : Faults) (p : Point) (nth : Nat) : Faults :=
  f.setRule p ⟨nth, 0⟩

def delayOn (f : Faults) (p : Point) (d : Time.Span) : Faults :=
  { f with delays := (p, d) :: f.delays.filter (fun a => decide (a.1 ≠ p)) }

/-- Counts a call of the point, and says whether it fails. -/
def trip (f : Faults) (p : Point) : Bool × Faults :=
  match f.rule? p with
  | .none => (false, f)
  | some r => (decide (r.nth ≤ r.seen + 1), f.setRule p ⟨r.nth, r.seen + 1⟩)

end Faults

end Teller
