import Teller.Currency
import Teller.Work.Error

/-!
# Failures of transfers

Each failure has a stable code, and the code alone decides the HTTP status.
-/

namespace Teller

/-- Why a transfer is refused, or cannot be read. -/
inductive TransferError where
  | invalidAmount
  | sameAccount
  | unsupportedCurrency (code : String)
  | accountNotFound (id : Int)
  /-- The account is held in another currency than the request names; both are codes. -/
  | currencyMismatch (account : Int) (actual expected : String)
  | forbidden (account : Int)
  | transferNotFound (id : Int)
  | store (error : StoreError)
  /-- The unit of work failed. -/
  | work (error : WorkError)
deriving Repr, DecidableEq, Inhabited

namespace TransferError

def message : TransferError → String
  | .invalidAmount => "Amount must be greater than zero"
  | .sameAccount => "Source and destination account cannot be the same"
  | .unsupportedCurrency code => Currency.unsupported code
  | .accountNotFound id => "Account " ++ toString id ++ " not found"
  | .currencyMismatch account actual expected =>
    "Account [" ++ toString account ++ "] currency mismatch: " ++ actual ++ " vs " ++ expected
  | .forbidden account =>
    "Account " ++ toString account ++ " doesn't belong to the authenticated user"
  | .transferNotFound id => "Transfer " ++ toString id ++ " not found"
  | .store error => "Store error: " ++ error.message
  | .work error => "Transfer failed: " ++ error.message

/-- The code of a unit of work that failed of a failure of the store, if that alone decides. -/
def storeCode? : StoreError → Option String
  | .insufficientFunds _ _ _ => some "INSUFFICIENT_BALANCE"
  | .notFound _ _ => some "ACCOUNT_NOT_FOUND"
  | error => if error.Retryable then some "CONFLICT" else none

def code : TransferError → String
  | .invalidAmount => "INVALID_AMOUNT"
  | .sameAccount => "SAME_ACCOUNT"
  | .unsupportedCurrency _ => "UNSUPPORTED_CURRENCY"
  | .accountNotFound _ => "ACCOUNT_NOT_FOUND"
  | .currencyMismatch _ _ _ => "CURRENCY_MISMATCH"
  | .forbidden _ => "FORBIDDEN"
  | .transferNotFound _ => "TRANSFER_NOT_FOUND"
  | .store _ => "DATABASE_ERROR"
  | .work error =>
    match error.storeError?.bind storeCode? with
    | some code => code
    | none => if error.PastDeadline then "TIMEOUT" else "TRANSFER_FAILED"

def statusOfCode (code : String) : Nat :=
  match code with
  | "INVALID_AMOUNT" => 400
  | "SAME_ACCOUNT" => 400
  | "UNSUPPORTED_CURRENCY" => 400
  | "CURRENCY_MISMATCH" => 400
  | "FORBIDDEN" => 401
  | "ACCOUNT_NOT_FOUND" => 404
  | "TRANSFER_NOT_FOUND" => 404
  | "CONFLICT" => 409
  | "INSUFFICIENT_BALANCE" => 422
  | "TIMEOUT" => 504
  | _ => 500

def status (error : TransferError) : Nat :=
  statusOfCode error.code

/-- The same request may succeed when it is sent again. -/
def Retryable : TransferError → Prop
  | .work error => error.PastDeadline ∨ ∃ e ∈ error.storeError?, e.Retryable
  | .store error => error.Retryable
  | _ => False

instance : DecidablePred Retryable := fun e => by
  cases e <;> unfold Retryable <;> infer_instance

/-- The messages of what is behind the failure, outermost first. -/
def chain : TransferError → List String
  | .store error => [error.message]
  | .work error => error.message :: error.chain
  | _ => []

end TransferError

end Teller
