import Teller.Currency
import Teller.Store.Error

/-!
# Failures of account requests

Why a holder's request about an account is refused.
-/

namespace Teller

/-- Why a request about an account is refused. -/
inductive AccountError where
  | emptyOwner
  | unsupportedCurrency (code : String)
  /-- No page has this number and size; sizes run from `least` to `greatest`. -/
  | invalidPage (number size least greatest : Int)
  | notFound (id : Int)
  | forbidden (id : Int)
  /-- The owner has an account in the currency already; `currency` is its code. -/
  | alreadyExists (owner currency : String)
  | hasLedgerEntries (id : Int)
  | store (error : StoreError)
deriving Repr, DecidableEq, Inhabited

namespace AccountError

def message : AccountError → String
  | .emptyOwner => "Owner must not be empty"
  | .unsupportedCurrency code => Currency.unsupported code
  | .invalidPage number size least greatest =>
    "Invalid page: page_id " ++ toString number ++ " (min 1), page_size " ++ toString size ++
      " (" ++ toString least ++ "-" ++ toString greatest ++ ")"
  | .notFound id => "Account " ++ toString id ++ " not found"
  | .forbidden id => "Account " ++ toString id ++ " doesn't belong to the authenticated user"
  | .alreadyExists owner currency => owner ++ " already has a " ++ currency ++ " account"
  | .hasLedgerEntries id =>
    "Account " ++ toString id ++ " has ledger entries and cannot be deleted"
  | .store error => "Store error: " ++ error.message

def code : AccountError → String
  | .emptyOwner => "INVALID_OWNER"
  | .unsupportedCurrency _ => "UNSUPPORTED_CURRENCY"
  | .invalidPage _ _ _ _ => "INVALID_PAGE"
  | .notFound _ => "ACCOUNT_NOT_FOUND"
  | .forbidden _ => "FORBIDDEN"
  | .alreadyExists _ _ => "ACCOUNT_EXISTS"
  | .hasLedgerEntries _ => "ACCOUNT_IN_USE"
  | .store _ => "DATABASE_ERROR"

def status : AccountError → Nat
  | .emptyOwner => 400
  | .unsupportedCurrency _ => 400
  | .invalidPage _ _ _ _ => 400
  | .forbidden _ => 401
  | .notFound _ => 404
  | .alreadyExists _ _ => 409
  | .hasLedgerEntries _ => 409
  | .store _ => 500

def chain : AccountError → List String
  | .store error => [error.message]
  | _ => []

end AccountError

end Teller
