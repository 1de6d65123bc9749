import Teller.Form.Envelope
import Teller.Form.Settings
import Teller.Json.Decode
import Teller.Json.Write

/-!
# Forms

What is exchanged with the outside as JSON: the rows, orders and receipts, the settings, and envelopes
of any of them. A text is read in two steps, the data of the schema and then their value
(`Form.read?`); a value is written as the text of its data (`Form.text`).
-/

namespace Teller

/-- What is exchanged with the outside as JSON. -/
inductive Form where
  /-- A number of 64 bits, which an envelope may hold. -/
  | number
  | currency
  | account
  | entry
  | transfer
  | order
  | receipt
  | gatewaySettings
  | ledgerSettings
  | settings
  | envelope (data : Form)
deriving Repr, DecidableEq, Inhabited

namespace Form

/-- The values that have this form. -/
abbrev Value : Form → Type
  | number => Int
  | currency => Currency
  | account => Account
  | entry => Entry
  | transfer => Transfer
  | order => Order
  | receipt => Receipt
  | gatewaySettings => GatewaySettings
  | ledgerSettings => LedgerSettings
  | settings => Settings
  | envelope data => Envelope data.Value

instance decidableEqValue : (f : Form) → DecidableEq f.Value
  | number => inferInstanceAs (DecidableEq Int)
  | currency => inferInstanceAs (DecidableEq Currency)
  | account => inferInstanceAs (DecidableEq Account)
  | entry => inferInstanceAs (DecidableEq Entry)
  | transfer => inferInstanceAs (DecidableEq Transfer)
  | order => inferInstanceAs (DecidableEq Order)
  | receipt => inferInstanceAs (DecidableEq Receipt)
  | gatewaySettings => inferInstanceAs (DecidableEq GatewaySettings)
  | ledgerSettings => inferInstanceAs (DecidableEq LedgerSettings)
  | settings => inferInstanceAs (DecidableEq Settings)
  | envelope data =>
    have := decidableEqValue data
    inferInstanceAs (DecidableEq (Envelope data.Value))

/-- What the reader goes by. -/
def schema : Form → Schema
  | number => .int .i64
  | currency => Currency.schema
  | account => Account.schema
  | entry => Entry.schema
  | transfer => Transfer.schema
  | order => Order.schema
  | receipt => Receipt.schema
  | gatewaySettings => GatewaySettings.schema
  | ledgerSettings => LedgerSettings.schema
  | settings => Settings.schema
  | envelope data => Envelope.schema data.schema

/-- What the writer makes of a value. -/
def datum : (f : Form) → f.Value → Datum
  | number => .int
  | currency => Currency.datum
  | account => Account.datum
  | entry => Entry.datum
  | transfer => Transfer.datum
  | order => Order.datum
  | receipt => Receipt.datum
  | gatewaySettings => GatewaySettings.datum
  | ledgerSettings => LedgerSettings.datum
  | settings => Settings.datum
  | envelope data => Envelope.datum data.datum

/-- What the reader makes of data. -/
def ofDatum? : (f : Form) → Datum → Option f.Value
  | number => Datum.int?
  | currency => Currency.ofDatum?
  | account => Account.ofDatum?
  | entry => Entry.ofDatum?
  | transfer => Transfer.ofDatum?
  | order => Order.ofDatum?
  | receipt => Receipt.ofDatum?
  | gatewaySettings => GatewaySettings.ofDatum?
  | ledgerSettings => LedgerSettings.ofDatum?
  | settings => Settings.ofDatum?
  | envelope data => Envelope.ofDatum? data.ofDatum?

/-- The value of a text. -/
def read? (f : Form) (text : String) : Option f.Value := do
  f.ofDatum? (← (Json.read f.schema text).toOption)

/-- The text of a value. -/
def text (f : Form) (v : f.Value) : String :=
  Json.render (f.datum v)

/-- The text is read as the value. -/
def Reads (f : Form) (text : String) (v : f.Value) : Prop :=
  f.read? text = some v

instance (f : Form) (text : String) (v : f.Value) : Decidable (f.Reads text v) :=
  inferInstanceAs (Decidable (f.read? text = some v))

end Form

end Teller
