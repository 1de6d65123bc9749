/-!
# Failures of the store

Why the store refuses a row or cannot give one. `StoreError.Retryable` holds of the failures that
another holder of the same rows brings about, so that the same request may succeed later.
-/

namespace Teller

/-- What a database connection reports. -/
inductive BackendError where
  /-- The server refuses a statement; the code is its SQLSTATE. -/
  | server (code : Option String) (message : String)
  | rowNotFound
  | poolTimedOut
  | poolClosed
  | workerCrashed
  | protocol (message : String)
  | columnNotFound (column : String)
deriving Repr, DecidableEq, Inhabited

def BackendError.message : BackendError → String
  | .server _ message => "error returned from database: " ++ message
  | .rowNotFound => "no rows returned by a query that expected to return at least one row"
  | .poolTimedOut => "pool timed out while waiting for an open connection"
  | .poolClosed => "attempted to acquire a connection on a closed pool"
  | .workerCrashed => "attempted to communicate with a crashed background worker"
  | .protocol message => "encountered unexpected or invalid data: " ++ message
  | .columnNotFound column => "no column found for name: " ++ column

/-- Why the store refuses. -/
inductive StoreError where
  /-- There is no such row; `entity` is the kind of row. -/
  | notFound (entity : String) (id : Int)
  | insufficientFunds (account balance delta : Int)
  /-- The balance would be no amount. -/
  | balanceOverflow (account : Int)
  /-- Someone else kept the row locked for too long. -/
  | lockTimeout (account : Int)
  /-- The statement cannot be put in order with others. -/
  | conflict (message : String)
  | uniqueViolation (message : String)
  | foreignKeyViolation (message : String)
  /-- A failure that was asked for, at a point of the store. -/
  | injected (point : String)
  | database (error : BackendError)
deriving Repr, DecidableEq, Inhabited

namespace StoreError

def accountNotFound (id : Int) : StoreError :=
  .notFound "account" id

def transferNotFound (id : Int) : StoreError :=
  .notFound "transfer" id

/-- The owner has an account in the currency already; `currency` is its code. -/
def ownerHasAccount (owner currency : String) : StoreError :=
  .uniqueViolation ("owner " ++ owner ++ " already has a " ++ currency ++ " account")

def noSuchAccount (id : Int) : StoreError :=
  .foreignKeyViolation ("account " ++ toString id ++ " does not exist")

def stillReferenced (id : Int) : StoreError :=
  .foreignKeyViolation ("account " ++ toString id ++ " is still referenced by ledger rows")

/-- Money only moves forwards. -/
def amountNotPositive (amount : Int) : StoreError :=
  .conflict ("transfer amount must be positive, got " ++ toString amount)

/-- The failure that a backend reports: constraints and contention are told by their SQLSTATE. -/
def ofBackend (error : BackendError) : StoreError :=
  match error with
  | .server (some code) message =>
    if code = "23505" then .uniqueViolation message
    else if code = "23503" then .foreignKeyViolation message
    else if code = "40001" ∨ code = "40P01" ∨ code = "55P03" then .conflict message
    else .database error
  | _ => .database error

def message : StoreError → String
  | .notFound entity id => entity ++ " " ++ toString id ++ " not found"
  | .insufficientFunds account balance delta =>
    "Insufficient funds in account " ++ toString account ++ ": balance " ++ toString balance ++
      ", delta " ++ toString delta
  | .balanceOverflow account => "Balance overflow on account " ++ toString account
  | .lockTimeout account => "Lock wait timeout on account " ++ toString account
  | .conflict message => "Serialization conflict: " ++ message
  | .uniqueViolation message => "Unique constraint violated: " ++ message
  | .foreignKeyViolation message => "Foreign key constraint violated: " ++ message
  | .injected point => "Injected failure at " ++ point
  | .database error => "Database error: " ++ error.message

def IsNotFound : StoreError → Prop
  | .notFound _ _ => True
  | _ => False

/-- Contention: the whole request may be sent again. -/
def Retryable : StoreError → Prop
  | .lockTimeout _ => True
  | .conflict _ => True
  | _ => False

instance : DecidablePred IsNotFound := fun e => by
  cases e <;> unfold IsNotFound <;> infer_instance

instance : DecidablePred Retryable := fun e => by
  cases e <;> unfold Retryable <;> infer_instance

end StoreError

end Teller
