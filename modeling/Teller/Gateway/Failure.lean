import Teller.Bank.Basic
import Teller.Holder.Error

/-!
# Failures of requests over HTTP

A failed request is answered with a status, a code of the envelope and a message. The code follows
from the stable code of the failure and its status. Failures of the server itself, time-outs apart,
are noted in the journal and answered without details.
-/

namespace Teller.Gateway

structure Failure where
  status : Nat
  code : Int
  message : String
deriving Repr, DecidableEq, Inhabited

/-! ### Codes of the envelope -/

def Code.success : Int := 0
def Code.invalidParameter : Int := 1001
def Code.insufficientBalance : Int := 1002
def Code.currencyMismatch : Int := 1003
def Code.missingAuthentication : Int := 2001
def Code.forbidden : Int := 2003
def Code.notFound : Int := 4004
def Code.conflict : Int := 4009
def Code.internalError : Int := 5000
def Code.serviceUnavailable : Int := 5001
def Code.timeout : Int := 5004

namespace Failure

def badRequest (message : String) : Failure :=
  ⟨400, Code.invalidParameter, message⟩

def unauthorized (message : String) : Failure :=
  ⟨401, Code.missingAuthentication, message⟩

def internal (message : String) : Failure :=
  ⟨500, Code.internalError, message⟩

def unavailable (message : String) : Failure :=
  ⟨503, Code.serviceUnavailable, message⟩

/-- The failure is the server's own; its details stay in the journal. -/
def Hidden (status : Nat) : Prop :=
  500 ≤ status ∧ status ≠ 504

instance : DecidablePred Hidden := fun status =>
  inferInstanceAs (Decidable (500 ≤ status ∧ status ≠ 504))

/-- The code of the envelope for a failure of a stable code and a status. -/
def envelopeCode (code : String) (status : Nat) : Int :=
  match code with
  | "INSUFFICIENT_BALANCE" => Code.insufficientBalance
  | "CURRENCY_MISMATCH" => Code.currencyMismatch
  | "FORBIDDEN" => Code.forbidden
  | "CONFLICT" => Code.conflict
  | "ACCOUNT_EXISTS" => Code.conflict
  | "ACCOUNT_IN_USE" => Code.conflict
  | "TIMEOUT" => Code.timeout
  | _ => if status = 404 then Code.notFound else Code.invalidParameter

def ofCode (code : String) (status : Nat) (message : String) : Failure :=
  if Hidden status then internal "internal error"
  else ⟨status, envelopeCode code status, message⟩

def ofTransfer (e : TransferError) : Failure :=
  ofCode e.code e.status e.message

def ofAccount (e : AccountError) : Failure :=
  ofCode e.code e.status e.message

end Failure

def noteHidden (code : String) (status : Nat) (message : String) : Act Unit :=
  if Failure.Hidden status then .note (.requestFailed code message) else pure ()

end Teller.Gateway
