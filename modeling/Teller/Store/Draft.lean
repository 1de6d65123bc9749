import Teller.Store.Book

/-!
# Drafts

What an open unit of work has staged: rows that no one else sees until it commits, and the numbers
of the accounts whose rows it keeps locked.
-/

namespace Teller

/-- The staged part of an open unit of work. -/
structure Draft where
  /-- Accounts that were opened or adjusted, as they will be. -/
  accounts : Table Account
  /-- New entries, oldest first. -/
  entries : List Entry
  /-- New transfers, oldest first. -/
  transfers : List Transfer
  /-- The numbers of the accounts whose rows are locked. -/
  locks : List Int

namespace Draft

def empty : Draft := ⟨.empty, [], [], []⟩

instance : Inhabited Draft := ⟨empty⟩

/-- The account as the unit of work sees it: its own row before the committed one. -/
def account? (d : Draft) (b : Book) (id : Int) : Option Account :=
  (d.accounts.get? id).or (b.accounts.get? id)

/-- The unit of work has staged an account of the owner in the currency. -/
def Stages (d : Draft) (owner : String) (currency : Currency) : Prop :=
  ∃ a ∈ d.accounts.values, a.IsOf owner currency

instance (d : Draft) (owner : String) (currency : Currency) :
    Decidable (d.Stages owner currency) := by
  unfold Stages
  infer_instance

/-- A staged account whose owner has got another account in the currency since. -/
def rival? (d : Draft) (b : Book) : Option Account :=
  d.accounts.values.find? fun a =>
    !b.accounts.contains a.id && decide (b.Taken a.owner a.currency)

/-- The book with the staged rows in it. -/
def publish (d : Draft) (b : Book) : Book where
  accounts := d.accounts.values.foldl (fun t a => t.put a.id a) b.accounts
  entries := d.entries.foldl (fun t e => t.put e.id e) b.entries
  transfers := d.transfers.foldl (fun t x => t.put x.id x) b.transfers

end Draft

end Teller
