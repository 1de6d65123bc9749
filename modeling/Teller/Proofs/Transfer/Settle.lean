import Teller.Proofs.Store.Move
import Teller.Transfer.Execution

/-!
# Settlement of orders

What an order comes to in a book, without the store: the two accounts as it leaves them, or why it is
refused. `Order.Posts` says that a book is another one with the order carried out in it.
-/

namespace Teller

/-- The account with the change of its balance. -/
def Adjustment.apply (a : Adjustment) (overdraft : Bool) (see : Int → Except StoreError Account) :
    Except StoreError Account := do
  let x ← see a.account
  x.add a.delta (decide (a.delta < 0) && !overdraft)

namespace Order

/-- An account that the order names and that is not in the book. -/
def missing? (o : Order) (b : Book) : Option StoreError :=
  if !b.accounts.contains o.source then some (.noSuchAccount o.source)
  else if !b.accounts.contains o.target then some (.noSuchAccount o.target)
  else none

/-- The account that pays and the account that is paid, after the adjustments in their order. -/
def adjust (o : Order) (overdraft : Bool) (see : Int → Except StoreError Account) :
    Except StoreError (Account × Account) := do
  let x ← o.adjustments.1.apply overdraft see
  let y ← o.adjustments.2.apply overdraft see
  return if x.id = o.source then (x, y) else (y, x)

/-- What the order comes to; `see` is how accounts are read for their adjustments. -/
def settle (o : Order) (overdraft : Bool) (b : Book) (see : Int → Except StoreError Account) :
    Except StoreError (Account × Account) :=
  match o.missing? b with
  | some e => .error e
  | none => o.adjust overdraft see

end Order

/-- The book with the rows of a receipt in it. -/
def Book.post (b : Book) (r : Receipt) : Book where
  accounts :=
    (b.accounts.put r.sourceAccount.id r.sourceAccount).put r.targetAccount.id r.targetAccount
  entries := (b.entries.put r.sourceEntry.id r.sourceEntry).put r.targetEntry.id r.targetEntry
  transfers := b.transfers.put r.transfer.id r.transfer

/-- The transfer and the entries of a receipt are what the order asks for. -/
structure Order.Records (o : Order) (r : Receipt) : Prop where
  transfer : r.transfer.source = o.source ∧ r.transfer.target = o.target ∧ r.transfer.amount = o.amount
  sourceEntry : r.sourceEntry.account = o.source ∧ r.sourceEntry.amount = -o.amount
  targetEntry : r.targetEntry.account = o.target ∧ r.targetEntry.amount = o.amount

/-- The order is carried out in a book by adding the rows of the receipt. -/
structure Order.Posts (o : Order) (overdraft : Bool) (r : Receipt) (b b' : Book) : Prop where
  amount : 0 < o.amount
  distinct : o.source ≠ o.target
  adjust : o.adjust overdraft b.account = .ok (r.sourceAccount, r.targetAccount)
  records : o.Records r
  newTransfer : b.transfers.get? r.transfer.id = none
  newEntries : b.entries.get? r.sourceEntry.id = none ∧ b.entries.get? r.targetEntry.id = none ∧
    r.sourceEntry.id ≠ r.targetEntry.id
  book : b' = b.post r

namespace Book

variable {b : Book} {k : Int} {a : Account} {e : StoreError}

theorem account_eq_ok_iff : b.account k = .ok a ↔ b.accounts.get? k = some a := by
  unfold account
  cases b.accounts.get? k <;> simp

theorem account_of_get? (h : b.accounts.get? k = some a) : b.account k = .ok a :=
  account_eq_ok_iff.2 h

end Book

namespace Adjustment

variable {a : Adjustment} {overdraft : Bool} {see see' : Int → Except StoreError Account} {x y : Account}

theorem apply_congr (h : see a.account = see' a.account) : a.apply overdraft see = a.apply overdraft see' := by
  rw [apply, apply, h]

theorem apply_of_see (h : see a.account = .ok x) :
    a.apply overdraft see = x.add a.delta (decide (a.delta < 0) && !overdraft) := by
  rw [apply, h]; rfl

/-- An adjusted account is an account that was seen, with another balance. -/
theorem of_apply_ok (h : a.apply overdraft see = .ok y) : ∃ x, see a.account = .ok x ∧
    x.add a.delta (decide (a.delta < 0) && !overdraft) = .ok y := by
  cases hs : see a.account with
  | error e => rw [apply, hs] at h; cases h
  | ok x => rw [apply_of_see hs] at h; exact ⟨x, rfl, h⟩

theorem id_of_apply_ok (hsee : ∀ k x, see k = .ok x → x.id = k) (h : a.apply overdraft see = .ok y) :
    y.id = a.account := by
  obtain ⟨x, hx, hy⟩ := of_apply_ok h
  rw [(Account.add_eq_ok_iff.1 hy).1]
  show x.id = a.account
  exact hsee _ x hx

end Adjustment

namespace Order

variable {o : Order} {overdraft : Bool} {see see' : Int → Except StoreError Account} {x y : Account}
  {b : Book} {e : StoreError}

theorem missing?_eq_none_iff : o.missing? b = none ↔
    b.accounts.contains o.source = true ∧ b.accounts.contains o.target = true := by
  unfold missing?
  cases b.accounts.contains o.source <;> cases b.accounts.contains o.target <;> simp

theorem of_missing?_eq_some (h : o.missing? b = some e) : ∃ k, e = .noSuchAccount k := by
  unfold missing? at h
  split at h
  · exact ⟨_, (Option.some.inj h).symm⟩
  split at h
  · exact ⟨_, (Option.some.inj h).symm⟩
  · cases h

theorem missing?_congr {b' : Book} (h : ∀ k, b.accounts.contains k = b'.accounts.contains k) :
    o.missing? b = o.missing? b' := by
  rw [missing?, missing?, h, h]

theorem missing?_ne_none_of_source (h : b.accounts.get? o.source = none) : o.missing? b ≠ none := by
  intro hm
  obtain ⟨x, hx⟩ := Table.contains_iff.1 (missing?_eq_none_iff.1 hm).1
  rw [h] at hx
  cases hx

theorem missing?_ne_none_of_target (h : b.accounts.get? o.target = none) : o.missing? b ≠ none := by
  intro hm
  obtain ⟨y, hy⟩ := Table.contains_iff.1 (missing?_eq_none_iff.1 hm).2
  rw [h] at hy
  cases hy

theorem adjustments_ne (hne : o.source ≠ o.target) : o.adjustments.1.account ≠ o.adjustments.2.account := by
  unfold adjustments
  split
  · exact hne
  · exact hne.symm

/-- The accounts of the adjustments are those that the order names. -/
theorem missing?_ne_none_of_adjustments (h : b.accounts.get? o.adjustments.1.account = none ∨
    b.accounts.get? o.adjustments.2.account = none) : o.missing? b ≠ none := by
  unfold adjustments at h
  split at h
  · exact h.elim missing?_ne_none_of_source missing?_ne_none_of_target
  · exact h.elim missing?_ne_none_of_target missing?_ne_none_of_source

theorem adjust_of_first_error (h : o.adjustments.1.apply overdraft see = .error e) :
    o.adjust overdraft see = .error e := by
  rw [adjust, h]; rfl

theorem adjust_of_second_error (hx : o.adjustments.1.apply overdraft see = .ok x)
    (h : o.adjustments.2.apply overdraft see = .error e) : o.adjust overdraft see = .error e := by
  rw [adjust, hx, h]; rfl

theorem adjust_of_ok (hx : o.adjustments.1.apply overdraft see = .ok x)
    (hy : o.adjustments.2.apply overdraft see = .ok y) :
    o.adjust overdraft see = .ok (if x.id = o.source then (x, y) else (y, x)) := by
  rw [adjust, hx, hy]; rfl

/-- The adjustments are made if each of them can be made, in whichever order. -/
theorem adjust_eq_ok_iff (hne : o.source ≠ o.target) (hsee : ∀ k x, see k = .ok x → x.id = k) :
    o.adjust overdraft see = .ok (x, y) ↔
      o.debit.apply overdraft see = .ok x ∧ o.credit.apply overdraft see = .ok y := by
  have hids : ∀ {a : Adjustment} {y}, a.apply overdraft see = .ok y → y.id = a.account :=
    fun h => Adjustment.id_of_apply_ok hsee h
  unfold adjust adjustments
  split
  · cases hd : o.debit.apply overdraft see with
    | error e => exact ⟨fun h => (by cases h), fun h => (by cases h.1)⟩
    | ok x' =>
      cases hc : o.credit.apply overdraft see with
      | error e => exact ⟨fun h => (by cases h), fun h => (by cases h.2)⟩
      | ok y' =>
        have hx : x'.id = o.source := hids hd
        show (Except.ok (if x'.id = o.source then (x', y') else (y', x')) : Except StoreError _) = _ ↔ _
        rw [if_pos hx]
        simp
  · cases hc : o.credit.apply overdraft see with
    | error e => exact ⟨fun h => (by cases h), fun h => (by cases h.2)⟩
    | ok y' =>
      cases hd : o.debit.apply overdraft see with
      | error e => exact ⟨fun h => (by cases h), fun h => (by cases h.1)⟩
      | ok x' =>
        have hy : y'.id = o.target := hids hc
        show (Except.ok (if y'.id = o.source then (y', x') else (x', y')) : Except StoreError _) = _ ↔ _
        rw [if_neg (by rw [hy]; exact hne.symm)]
        simp

end Order

namespace Order.Posts

variable {o : Order} {overdraft : Bool} {r : Receipt} {b b' : Book}

/-- Both accounts of an order that is carried out are in the book; the amount moves between them. -/
theorem accounts (h : o.Posts overdraft r b b') (hb : ∀ {k a}, b.accounts.get? k = some a → a.id = k) :
    ∃ x y, b.accounts.get? o.source = some x ∧ b.accounts.get? o.target = some y ∧
      r.sourceAccount = { x with balance := x.balance + -o.amount } ∧
      r.targetAccount = { y with balance := y.balance + o.amount } := by
  obtain ⟨hd, hc⟩ := (adjust_eq_ok_iff h.distinct fun k x hx => hb (Book.account_eq_ok_iff.1 hx)).1 h.adjust
  obtain ⟨x, hx, hx'⟩ := Adjustment.of_apply_ok hd
  obtain ⟨y, hy, hy'⟩ := Adjustment.of_apply_ok hc
  exact ⟨x, y, Book.account_eq_ok_iff.1 hx, Book.account_eq_ok_iff.1 hy,
    (Account.add_eq_ok_iff.1 hx').1, (Account.add_eq_ok_iff.1 hy').1⟩

theorem ids (h : o.Posts overdraft r b b') (hb : ∀ {k a}, b.accounts.get? k = some a → a.id = k) :
    r.sourceAccount.id = o.source ∧ r.targetAccount.id = o.target := by
  obtain ⟨x, y, hx, hy, hrx, hry⟩ := h.accounts hb
  rw [hrx, hry]
  exact ⟨(hb hx :), (hb hy :)⟩

theorem get? (h : o.Posts overdraft r b b') (hb : ∀ {k a}, b.accounts.get? k = some a → a.id = k)
    (k : Int) : b'.accounts.get? k = if o.target = k then some r.targetAccount
      else if o.source = k then some r.sourceAccount else b.accounts.get? k := by
  obtain ⟨hx, hy⟩ := h.ids hb
  rw [h.book, Book.post, Table.get?_put, Table.get?_put, hx, hy]

/-- Carrying out an order neither opens nor removes accounts. -/
theorem contains (h : o.Posts overdraft r b b') (hb : ∀ {k a}, b.accounts.get? k = some a → a.id = k)
    (k : Int) : b'.accounts.contains k = b.accounts.contains k := by
  obtain ⟨x, y, hx, hy, -⟩ := h.accounts hb
  rw [Table.contains, Table.contains, h.get? hb]
  split
  · rename_i hk; rw [← hk, hy]; rfl
  split
  · rename_i hk; rw [← hk, hx]; rfl
  · rfl

theorem sum_entries (h : o.Posts overdraft r b b') (f : Entry → Int) :
    (b'.entries.values.map f).sum =
      f r.targetEntry + (f r.sourceEntry + (b.entries.values.map f).sum) := by
  obtain ⟨hs, ht, hne⟩ := h.newEntries
  rw [h.book, Book.post, Table.sum_put_new f (by rw [Table.get?_put, if_neg hne, ht]),
    Table.sum_put_new f hs]

theorem entries_perm (h : o.Posts overdraft r b b') :
    b'.entries.values.Perm (r.targetEntry :: r.sourceEntry :: b.entries.values) := by
  obtain ⟨hs, ht, hne⟩ := h.newEntries
  rw [h.book]
  exact (Table.values_put_new (by rw [Table.get?_put, if_neg hne, ht])).trans
    ((Table.values_put_new hs).cons _)

theorem transfers_perm (h : o.Posts overdraft r b b') :
    b'.transfers.values.Perm (r.transfer :: b.transfers.values) := by
  rw [h.book]
  exact Table.values_put_new h.newTransfer

end Order.Posts

end Teller
