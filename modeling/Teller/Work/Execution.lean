import Teller.Bank.Pool
import Teller.Work.Basic

/-!
# Execution of work

Work is done in one unit: opened, worked on, and committed or rolled back, each at most once. A
deadline limits the work alone, not how long it takes to open or end the unit.
-/

namespace Teller.Work

variable {α : Type}

/-- The outcome of the work itself. -/
def outcome (deadline : Option Time.Span) (work : Work α) (unit : Int) :
    Act (Except WorkError α) := do
  match deadline with
  | none => return (← work.run unit).mapError .aborted
  | some limit =>
    match ← Timed.within limit (work.run unit) with
    | some r => return r.mapError .aborted
    | none => return .error (.deadlineExceeded limit)

/-- Does the work in a unit of its own. -/
def execute (deadline : Option Time.Span) (work : Work α) : Attempt WorkError α := do
  let unit ← Bank.beginUnit.mapError .opening
  match ← .sure (work.outcome deadline unit) with
  | .ok a =>
    (Bank.commit unit).mapError .commit
    return a
  | .error cause =>
    .sure (.note (.workFailed cause))
    match ← .sure (Bank.rollback unit).outcome with
    | .ok () => throw cause
    | .error e =>
      .sure (.note (.rollbackFailed cause e))
      throw (.rollback cause e)

end Teller.Work
