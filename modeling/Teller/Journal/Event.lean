import Teller.Currency
import Teller.Journal.Level
import Teller.Store.Fault
import Teller.Transfer.Error

/-!
# Events

What the bank notes in its journal, and how each event is written: a level, a message and named
fields in a fixed order.
-/

namespace Teller

/-- Something worth a note. -/
inductive Event where
  | injectedFailure (point : Point)
  /-- A unit of work failed and is about to be rolled back. -/
  | workFailed (error : WorkError)
  /-- A failed unit of work could not be rolled back either. -/
  | rollbackFailed (cause : WorkError) (error : StoreError)
  /-- The unit of work of an account that could not be opened could not be rolled back either. -/
  | openingRollbackFailed (error : StoreError)
  | transferCommitted (id source target amount : Int)
  /-- A transfer that was allowed failed. -/
  | transferFailed (principal : String) (source target amount : Int) (error : TransferError)
  /-- Someone asked for a transfer that is not theirs. -/
  | transferReadDenied (principal : String) (id : Int)
  | accountOpened (id : Int) (owner : String) (currency : Currency)
  | accountDeleted (id : Int) (owner : String)
  /-- A well-formed request for a transfer has come in. -/
  | transferRequested (principal : String) (source target amount : Int)
  /-- A request failed for a reason that the answer does not give; `code` is that of the failure. -/
  | requestFailed (code error : String)
  | healthCheckFailed (error : StoreError)
  | starting (environment : String)
deriving Repr, DecidableEq, Inhabited

inductive Event.Field where
  | int (n : Int)
  | bool (b : Bool)
  | text (s : String)
deriving Repr, DecidableEq, Inhabited

/-- What is written of an event. -/
structure Event.Record where
  level : Journal.Level
  message : String
  fields : List (String × Event.Field)
deriving Repr, DecidableEq, Inhabited

namespace Event

open Journal (Level)

def level : Event → Level
  | .injectedFailure _ => .debug
  | .workFailed _ => .debug
  | .rollbackFailed _ _ => .warn
  | .openingRollbackFailed _ => .warn
  | .transferCommitted _ _ _ _ => .info
  | .transferFailed _ _ _ _ _ => .warn
  | .transferReadDenied _ _ => .info
  | .accountOpened _ _ _ => .info
  | .accountDeleted _ _ => .info
  | .transferRequested _ _ _ _ => .info
  | .requestFailed _ _ => .error
  | .healthCheckFailed _ => .error
  | .starting _ => .info

def message : Event → String
  | .injectedFailure _ => "injected store failure"
  | .workFailed _ => "unit of work failed, rolling back"
  | .rollbackFailed _ _ => "rollback failed"
  | .openingRollbackFailed _ => "rollback after failed account insert failed"
  | .transferCommitted _ _ _ _ => "Transfer committed"
  | .transferFailed _ _ _ _ _ => "Transfer failed"
  | .transferReadDenied _ _ => "Transfer read denied"
  | .accountOpened _ _ _ => "Account opened"
  | .accountDeleted _ _ => "Account deleted"
  | .transferRequested _ _ _ _ => "Transfer request"
  | .requestFailed _ _ => "request failed"
  | .healthCheckFailed _ => "[HEALTH] store check failed"
  | .starting _ => "Starting bank_ledger"

def fields : Event → List (String × Field)
  | .injectedFailure point => [("point", .text point.name)]
  | .workFailed error => [("error", .text error.message)]
  | .rollbackFailed cause error =>
    [("error", .text cause.message), ("rollback_error", .text error.message)]
  | .openingRollbackFailed error => [("error", .text error.message)]
  | .transferCommitted id source target amount =>
    [("transfer_id", .int id), ("from", .int source), ("to", .int target), ("amount", .int amount)]
  | .transferFailed principal source target amount error =>
    [("principal", .text principal), ("from", .int source), ("to", .int target),
      ("amount", .int amount), ("code", .text error.code),
      ("retryable", .bool (decide error.Retryable)), ("error", .text error.message)]
  | .transferReadDenied principal id => [("principal", .text principal), ("transfer_id", .int id)]
  | .accountOpened id owner currency =>
    [("account_id", .int id), ("owner", .text owner), ("currency", .text currency.code)]
  | .accountDeleted id owner => [("account_id", .int id), ("owner", .text owner)]
  | .transferRequested principal source target amount =>
    [("principal", .text principal), ("from", .int source), ("to", .int target),
      ("amount", .int amount)]
  | .requestFailed code error => [("code", .text code), ("error", .text error)]
  | .healthCheckFailed error => [("error", .text error.message)]
  | .starting environment => [("env", .text environment)]

def record (e : Event) : Record :=
  ⟨e.level, e.message, e.fields⟩

end Event

end Teller
