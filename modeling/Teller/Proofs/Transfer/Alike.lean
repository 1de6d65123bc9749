import Teller.Proofs.Transfer.Settle

/-!
# Rows but for their numbers and times

Which number and which time a new row is given depends on what else has gone on. Two books are alike
(`Book.Alike`) if that is all that tells them apart, and an order that comes to the same balances in
both leaves them alike (`Order.Posts.alike`).
-/

namespace Teller

/-- What a transfer says, but for its number and time. -/
def Transfer.content (t : Transfer) : Int × Int × Int :=
  (t.source, t.target, t.amount)

/-- What an entry says, but for its number and time. -/
def Entry.content (e : Entry) : Int × Int :=
  (e.account, e.amount)

/-- The two accounts of a receipt. -/
def Receipt.accounts (r : Receipt) : Account × Account :=
  (r.sourceAccount, r.targetAccount)

/-- What a receipt says, but for the numbers and times of its new rows. -/
def Receipt.content (r : Receipt) : (Account × Account) × (Int × Int × Int) × (Int × Int) × Int × Int :=
  (r.accounts, r.transfer.content, r.sourceEntry.content, r.targetEntry.content)

/-- What the receipt of an order says whose accounts are these afterwards. -/
def Order.content (o : Order) (a : Account × Account) :
    (Account × Account) × (Int × Int × Int) × (Int × Int) × Int × Int :=
  (a, (o.source, o.target, o.amount), (o.source, -o.amount), (o.target, o.amount))

/-- The same accounts, and transfers and entries that say the same. -/
structure Book.Alike (b b' : Book) : Prop where
  accounts : b.accounts = b'.accounts
  transfers : (b.transfers.values.map Transfer.content).Perm (b'.transfers.values.map Transfer.content)
  entries : (b.entries.values.map Entry.content).Perm (b'.entries.values.map Entry.content)

variable {o : Order} {overdraft : Bool} {r r' : Receipt} {b b' c c' : Book}

theorem Order.Records.content (h : o.Records r) : r.content = o.content r.accounts := by
  obtain ⟨⟨hts, htt, hta⟩, ⟨hsa, hsm⟩, ⟨hta', htm⟩⟩ := h
  simp only [Receipt.content, Order.content, Transfer.content, Entry.content, hts, htt, hta, hsa, hsm,
    hta', htm]

namespace Book.Alike

theorem refl (b : Book) : b.Alike b :=
  ⟨rfl, .refl _, .refl _⟩

/-- Orders are settled alike in books that are alike. -/
theorem account (h : b.Alike b') (k : Int) : b.account k = b'.account k := by
  rw [Book.account, Book.account, h.accounts]

theorem missing? (h : b.Alike b') (o : Order) : o.missing? b = o.missing? b' :=
  Order.missing?_congr fun k => by rw [h.accounts]

end Book.Alike

theorem Order.Posts.alike (h : o.Posts overdraft r b b') (h' : o.Posts overdraft r' c c')
    (hr : r.accounts = r'.accounts) (hb : b.Alike c) : b'.Alike c' := by
  have hc := h.records.content.trans ((congrArg o.content hr).trans h'.records.content.symm)
  simp only [Receipt.content, Receipt.accounts, Prod.mk.injEq] at hc
  obtain ⟨⟨hsource, htarget⟩, ht, hse, hte⟩ := hc
  refine ⟨?_, ?_, ?_⟩
  · rw [h.book, h'.book, Book.post, Book.post, hb.accounts, hsource, htarget]
  · have hcons := (h.transfers_perm.map Transfer.content).trans (hb.transfers.cons r.transfer.content)
    rw [ht] at hcons
    exact hcons.trans (h'.transfers_perm.map Transfer.content).symm
  · have hcons := (h.entries_perm.map Entry.content).trans
      ((hb.entries.cons r.sourceEntry.content).cons r.targetEntry.content)
    rw [hse, hte] at hcons
    exact hcons.trans (h'.entries_perm.map Entry.content).symm

end Teller
