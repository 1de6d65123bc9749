import Teller.Page
import Teller.Row
import Teller.Store.Error
import Teller.Table

/-!
# The book

The committed rows: accounts, entries and transfers by number. Lists are in ascending order of
number, cut to a page.
-/

namespace Teller

/-- The committed rows. -/
structure Book where
  accounts : Table Account
  entries : Table Entry
  transfers : Table Transfer

namespace Book

def empty : Book := ⟨.empty, .empty, .empty⟩

instance : Inhabited Book := ⟨empty⟩

def account (b : Book) (id : Int) : Except StoreError Account :=
  match b.accounts.get? id with
  | some a => .ok a
  | none => .error (.accountNotFound id)

def transfer (b : Book) (id : Int) : Except StoreError Transfer :=
  match b.transfers.get? id with
  | some t => .ok t
  | none => .error (.transferNotFound id)

def accountsOf (b : Book) (owner : String) : List Account :=
  b.accounts.values.filter fun a => decide (a.owner = owner)

def entriesOf (b : Book) (account : Int) : List Entry :=
  b.entries.values.filter fun e => decide (e.account = account)

def transfersOf (b : Book) (account : Int) : List Transfer :=
  b.transfers.values.filter fun t => decide (t.Involves account)

/-- An entry or a transfer refers to the account. -/
def Refers (b : Book) (account : Int) : Prop :=
  (∃ e ∈ b.entries.values, e.account = account) ∨
    ∃ t ∈ b.transfers.values, t.Involves account

instance (b : Book) (account : Int) : Decidable (b.Refers account) := by
  unfold Refers
  infer_instance

/-- The owner has an account in the currency. -/
def Taken (b : Book) (owner : String) (currency : Currency) : Prop :=
  ∃ a ∈ b.accounts.values, a.IsOf owner currency

instance (b : Book) (owner : String) (currency : Currency) : Decidable (b.Taken owner currency) := by
  unfold Taken
  infer_instance

def totalBalance (b : Book) : Int :=
  b.accounts.values.foldr (fun a n => a.balance + n) 0

end Book

end Teller
