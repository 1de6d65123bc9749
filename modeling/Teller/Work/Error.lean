import Teller.Store.Error
import Teller.Time.Span

/-!
# Failures of units of work

A unit of work is opened, worked on and ended, and may fail at each stage. When the attempt to roll
it back fails too, both failures are kept: what the unit failed of is the innermost cause, however
often it is wrapped.
-/

namespace Teller

/-- Why a unit of work came to nothing. -/
inductive WorkError where
  | opening (error : StoreError)
  /-- A step of it failed. -/
  | aborted (error : StoreError)
  /-- Its steps took longer than allowed. -/
  | deadlineExceeded (limit : Time.Span)
  /-- It failed, and rolling it back failed as well. -/
  | rollback (cause : WorkError) (error : StoreError)
  | commit (error : StoreError)
deriving Repr, DecidableEq, Inhabited

namespace WorkError

def message : WorkError → String
  | .opening error => "begin transaction: " ++ error.message
  | .aborted error => error.message
  | .deadlineExceeded limit => "unit of work exceeded deadline of " ++ limit.text
  | .rollback cause error => "tx err: " ++ cause.message ++ "; rb err: " ++ error.message
  | .commit error => "commit transaction: " ++ error.message

/-- The failure of the store that the unit failed of. -/
def storeError? : WorkError → Option StoreError
  | .opening error => some error
  | .aborted error => some error
  | .commit error => some error
  | .rollback cause _ => cause.storeError?
  | .deadlineExceeded _ => none

def PastDeadline : WorkError → Prop
  | .deadlineExceeded _ => True
  | .rollback cause _ => cause.PastDeadline
  | _ => False

/-- The caller cannot tell what became of the unit. -/
def OutcomeUnknown : WorkError → Prop
  | .commit _ => True
  | _ => False

instance decidablePastDeadline : (e : WorkError) → Decidable e.PastDeadline
  | .deadlineExceeded _ => isTrue trivial
  | .rollback cause _ => decidablePastDeadline cause
  | .opening _ => isFalse id
  | .aborted _ => isFalse id
  | .commit _ => isFalse id

instance : DecidablePred OutcomeUnknown := fun e => by
  cases e <;> unfold OutcomeUnknown <;> infer_instance

/-- The messages of what is behind the failure, outermost first. An aborted unit speaks with the
voice of the store, so nothing is behind it. -/
def chain : WorkError → List String
  | .opening error => [error.message]
  | .commit error => [error.message]
  | _ => []

end WorkError

end Teller
