import Teller.Gateway.Query
import Teller.Holder
import Teller.Json.Decode
import Teller.Transfer.Guard

/-!
# Forms of requests

What the bodies of requests hold, and the checks that a well-formed request must pass. Every check
that fails is reported, in the order of the names of the fields.
-/

namespace Teller.Gateway

/-! ### Checks -/

structure Bounds where
  least : Int
  greatest : Option Int

def Bounds.Holds (b : Bounds) (n : Int) : Prop :=
  b.least ≤ n ∧ ∀ g ∈ b.greatest, n ≤ g

instance (b : Bounds) (n : Int) : Decidable (b.Holds n) := by
  unfold Bounds.Holds
  infer_instance

def Bounds.complaint (b : Bounds) (field : String) (n : Int) : String :=
  let number (name : String) (n : Int) := "\"" ++ name ++ "\": Number(" ++ toString n ++ ")"
  let parts := (b.greatest.map (number "max")).toList ++ [number "min" b.least, number "value" n]
  field ++ ": Validation error: range [\x7b" ++ ", ".intercalate parts ++ "\x7d]"

def Bounds.check (b : Bounds) (field : String) (n : Int) : List String :=
  if b.Holds n then [] else [b.complaint field n]

/-- Row numbers, amounts and page numbers start at one. -/
def Bounds.fromOne : Bounds := ⟨1, none⟩

def checkCurrency (field code : String) : List String :=
  match Currency.ofCode? code with
  | some _ => []
  | none =>
    [field ++ ": Validation error: unsupported_currency [\x7b\"value\": String(" ++
      Text.quoted code ++ ")\x7d]"]

def PageQuery.check (q : PageQuery) : List String :=
  Bounds.fromOne.check numberField q.number ++
    Bounds.check ⟨Holder.leastPageSize, some Holder.greatestPageSize⟩ sizeField q.size

/-! ### Bodies -/

structure AccountForm where
  currency : String
deriving Repr, DecidableEq, Inhabited

namespace AccountForm

def schema : Schema :=
  .record "CreateAccountRequest" [(.required "currency", .text)]

def ofDatum? (d : Datum) : Option AccountForm := do
  return ⟨← (← d.field? "currency").text?⟩

def check (f : AccountForm) : List String :=
  checkCurrency "currency" f.currency

end AccountForm

structure TransferForm where
  source : Int
  target : Int
  amount : Int
  currency : String
deriving Repr, DecidableEq, Inhabited

namespace TransferForm

def schema : Schema :=
  .record "CreateTransferRequest" [
    (.required "from_account_id", .int .i64),
    (.required "to_account_id", .int .i64),
    (.required "amount", .int .i64),
    (.required "currency", .text)]

def ofDatum? (d : Datum) : Option TransferForm := do
  let source ← (← d.field? "from_account_id").int?
  let target ← (← d.field? "to_account_id").int?
  let amount ← (← d.field? "amount").int?
  let currency ← (← d.field? "currency").text?
  return ⟨source, target, amount, currency⟩

def check (f : TransferForm) : List String :=
  Bounds.fromOne.check "amount" f.amount ++ checkCurrency "currency" f.currency ++
    Bounds.fromOne.check "from_account_id" f.source ++
    Bounds.fromOne.check "to_account_id" f.target

def request (f : TransferForm) (principal : String) : TransferRequest :=
  ⟨principal, f.source, f.target, f.amount, f.currency⟩

end TransferForm

end Teller.Gateway
