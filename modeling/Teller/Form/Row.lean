import Teller.Schema
import Teller.Transfer.Order

/-!
# Forms of rows

How rows, orders and receipts are exchanged with the outside: the schema that their data have, the data
that are written of them, and what is read from data.
-/

namespace Teller

namespace Currency

/-- A currency is its code. -/
def schema : Schema :=
  .choice (all.map code)

def datum (c : Currency) : Datum :=
  .text c.code

def ofDatum? (d : Datum) : Option Currency := do
  ofCode? (← d.text?)

end Currency

namespace Account

def schema : Schema :=
  .record "Account" [
    (.required "id", .int .i64),
    (.required "owner", .text),
    (.required "balance", .int .i64),
    (.required "currency", Currency.schema),
    (.required "created_at", .time)]

def datum (a : Account) : Datum :=
  .record [
    ("id", .int a.id),
    ("owner", .text a.owner),
    ("balance", .int a.balance),
    ("currency", a.currency.datum),
    ("created_at", .time a.createdAt)]

def ofDatum? (d : Datum) : Option Account := do
  let id ← (← d.field? "id").int?
  let owner ← (← d.field? "owner").text?
  let balance ← (← d.field? "balance").int?
  let currency ← Currency.ofDatum? (← d.field? "currency")
  let createdAt ← (← d.field? "created_at").time?
  return ⟨id, owner, balance, currency, createdAt⟩

end Account

namespace Entry

def schema : Schema :=
  .record "Entry" [
    (.required "id", .int .i64),
    (.required "account_id", .int .i64),
    (.required "amount", .int .i64),
    (.required "created_at", .time)]

def datum (e : Entry) : Datum :=
  .record [
    ("id", .int e.id),
    ("account_id", .int e.account),
    ("amount", .int e.amount),
    ("created_at", .time e.createdAt)]

def ofDatum? (d : Datum) : Option Entry := do
  let id ← (← d.field? "id").int?
  let account ← (← d.field? "account_id").int?
  let amount ← (← d.field? "amount").int?
  let createdAt ← (← d.field? "created_at").time?
  return ⟨id, account, amount, createdAt⟩

end Entry

namespace Transfer

def schema : Schema :=
  .record "Transfer" [
    (.required "id", .int .i64),
    (.required "from_account_id", .int .i64),
    (.required "to_account_id", .int .i64),
    (.required "amount", .int .i64),
    (.required "created_at", .time)]

def datum (t : Transfer) : Datum :=
  .record [
    ("id", .int t.id),
    ("from_account_id", .int t.source),
    ("to_account_id", .int t.target),
    ("amount", .int t.amount),
    ("created_at", .time t.createdAt)]

def ofDatum? (d : Datum) : Option Transfer := do
  let id ← (← d.field? "id").int?
  let source ← (← d.field? "from_account_id").int?
  let target ← (← d.field? "to_account_id").int?
  let amount ← (← d.field? "amount").int?
  let createdAt ← (← d.field? "created_at").time?
  return ⟨id, source, target, amount, createdAt⟩

end Transfer

namespace Order

def schema : Schema :=
  .record "TransferTxParams" [
    (.required "from_account_id", .int .i64),
    (.required "to_account_id", .int .i64),
    (.required "amount", .int .i64)]

def datum (o : Order) : Datum :=
  .record [
    ("from_account_id", .int o.source),
    ("to_account_id", .int o.target),
    ("amount", .int o.amount)]

def ofDatum? (d : Datum) : Option Order := do
  let source ← (← d.field? "from_account_id").int?
  let target ← (← d.field? "to_account_id").int?
  let amount ← (← d.field? "amount").int?
  return ⟨source, target, amount⟩

end Order

namespace Receipt

def schema : Schema :=
  .record "TransferTxResult" [
    (.required "transfer", Transfer.schema),
    (.required "from_account", Account.schema),
    (.required "to_account", Account.schema),
    (.required "from_entry", Entry.schema),
    (.required "to_entry", Entry.schema)]

def datum (r : Receipt) : Datum :=
  .record [
    ("transfer", r.transfer.datum),
    ("from_account", r.sourceAccount.datum),
    ("to_account", r.targetAccount.datum),
    ("from_entry", r.sourceEntry.datum),
    ("to_entry", r.targetEntry.datum)]

def ofDatum? (d : Datum) : Option Receipt := do
  let transfer ← Transfer.ofDatum? (← d.field? "transfer")
  let sourceAccount ← Account.ofDatum? (← d.field? "from_account")
  let targetAccount ← Account.ofDatum? (← d.field? "to_account")
  let sourceEntry ← Entry.ofDatum? (← d.field? "from_entry")
  let targetEntry ← Entry.ofDatum? (← d.field? "to_entry")
  return ⟨transfer, sourceAccount, targetAccount, sourceEntry, targetEntry⟩

end Receipt

end Teller
