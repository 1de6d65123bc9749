import Teller.Proofs.Bank.Change
import Teller.Proofs.Ledger.Dealing

/-!
# Replaying changes

Without the store, the accounts can be told from the changes alone (`Change.apply`), and so can what was
transferred (`Change.transfer?`). A book is told by a list of changes if both agree with it (`Book.ToldBy`); a
dealing with the book is told by one more change (`ToldBy.deals`), and is no dealing unless it makes a difference
(`Deals.ne`).
-/

namespace Teller

/-- What changes tell of an account. -/
structure Holding where
  id : Int
  owner : String
  currency : Currency
  balance : Int
deriving Repr, DecidableEq

namespace Holding

def add (h : Holding) (amount : Int) : Holding :=
  { h with balance := h.balance + amount }

/-- The holdings with an amount added to one of them. -/
def addTo (t : Table Holding) (id amount : Int) : Table Holding :=
  match t.get? id with
  | some h => t.put id (h.add amount)
  | none => t

@[simp] theorem get?_addTo (t : Table Holding) (id amount k : Int) :
    (addTo t id amount).get? k = if id = k then (t.get? k).map (·.add amount) else t.get? k := by
  unfold addTo
  cases h : t.get? id with
  | none =>
    by_cases hk : id = k
    · subst hk
      simp [h]
    · simp [hk]
  | some x =>
    by_cases hk : id = k
    · subst hk
      simp [h]
    · simp [hk]

end Holding

def Account.holding (a : Account) : Holding :=
  ⟨a.id, a.owner, a.currency, a.balance⟩

/-- The number of a transfer, its accounts and its amount. -/
def Transfer.named (t : Transfer) : Int × Int × Int × Int :=
  (t.id, t.source, t.target, t.amount)

/-- The holdings after a change. -/
def Change.apply (t : Table Holding) : Change → Table Holding
  | .opened id owner currency => t.put id ⟨id, owner, currency, 0⟩
  | .removed id => t.erase id
  | .moved _ source target amount => Holding.addTo (Holding.addTo t source (-amount)) target amount

/-- The number of the transfer, its accounts and its amount, if money was moved. -/
def Change.transfer? : Change → Option (Int × Int × Int × Int)
  | .moved id source target amount => some (id, source, target, amount)
  | _ => none

/-- The changes, one after the other, come to the accounts of the book, and they name its transfers, each of them
once. -/
structure Book.ToldBy (k : Book) (changes : List Change) : Prop where
  holdings : ∀ id, (changes.foldl Change.apply .empty).get? id = (k.accounts.get? id).map Account.holding
  transfers : (changes.filterMap Change.transfer?).Perm (k.transfers.values.map Transfer.named)
  once : ((changes.filterMap Change.transfer?).map (·.1)).Nodup

namespace Book.ToldBy

variable {k k' : Book} {changes : List Change}

theorem empty : Book.empty.ToldBy [] :=
  ⟨fun _ => rfl, .refl _, List.nodup_nil⟩

theorem opens {a : Account} (h : k.ToldBy changes) (hopens : k.Opens 0 a k') :
    k'.ToldBy (changes ++ [.opened a.id a.owner a.currency]) where
  holdings id := by
    rw [List.foldl_append, hopens.book]
    show (Table.put _ _ _).get? id = ((k.accounts.put a.id a).get? id).map Account.holding
    rw [Table.get?_put, Table.get?_put, h.holdings id]
    split
    · rw [Option.map_some, Account.holding, hopens.balance]
    · rfl
  transfers := by
    rw [List.filterMap_append, hopens.book]
    exact (List.append_nil _).symm ▸ h.transfers
  once := by
    rw [List.filterMap_append]
    exact (List.append_nil _).symm ▸ h.once

theorem removes {id : Int} (h : k.ToldBy changes) (hremoves : k.Removes id k') :
    k'.ToldBy (changes ++ [.removed id]) where
  holdings j := by
    rw [List.foldl_append, hremoves.book]
    show (Table.erase _ _).get? j = ((k.accounts.erase id).get? j).map Account.holding
    rw [Table.get?_erase, Table.get?_erase, h.holdings j]
    split <;> rfl
  transfers := by
    rw [List.filterMap_append, hremoves.book]
    exact (List.append_nil _).symm ▸ h.transfers
  once := by
    rw [List.filterMap_append]
    exact (List.append_nil _).symm ▸ h.once

/-- The number of a transfer that is new has not been named. -/
theorem new_of_get?_eq_none (h : k.ToldBy changes) (hk : ∀ {j t}, k.transfers.get? j = some t → t.id = j) {id : Int}
    (hnew : k.transfers.get? id = none) : id ∉ (changes.filterMap Change.transfer?).map (·.1) := by
  rw [(h.transfers.map (·.1)).mem_iff, List.map_map]
  intro hmem
  obtain ⟨t, ht, rfl⟩ := List.mem_map.1 hmem
  obtain ⟨j, ht⟩ := Table.mem_values.1 ht
  obtain rfl : t.id = j := hk ht
  cases hnew.symm.trans ht

theorem commits {r : Receipt} (h : k.ToldBy changes) (hk : ∀ {j t}, k.transfers.get? j = some t → t.id = j)
    (hr : r.Committed k k') :
    k'.ToldBy (changes ++ [.moved r.transfer.id r.transfer.source r.transfer.target r.transfer.amount]) := by
  obtain ⟨x, hx, hrx⟩ := hr.source
  obtain ⟨y, hy, hry⟩ := hr.target
  obtain ⟨hnew, htransfers⟩ := hr.transfer
  constructor
  case holdings =>
    intro id
    rw [List.foldl_append, hr.accounts, Table.get?_put, Table.get?_put]
    show (Holding.addTo (Holding.addTo _ _ _) _ _).get? id = _
    rw [Holding.get?_addTo, Holding.get?_addTo, h.holdings id]
    by_cases htarget : r.transfer.target = id
    · subst htarget
      rw [if_pos rfl, if_pos rfl, if_neg hr.distinct, hy, hry]
      rfl
    · by_cases hsource : r.transfer.source = id
      · subst hsource
        rw [if_neg htarget, if_neg htarget, if_pos rfl, if_pos rfl, hx, hrx, Int.sub_eq_add_neg]
        rfl
      · rw [if_neg htarget, if_neg htarget, if_neg hsource, if_neg hsource]
  case transfers =>
    rw [List.filterMap_append, htransfers]
    have hput := (Table.values_put_new (x := r.transfer) hnew).map Transfer.named
    exact (List.perm_append_singleton _ _).trans ((h.transfers.cons _).trans hput.symm)
  case once =>
    rw [List.filterMap_append, List.map_append]
    refine List.nodup_append'.2 ⟨h.once, List.nodup_singleton _, List.disjoint_singleton.2 ?_⟩
    exact h.new_of_get?_eq_none hk hnew

/-- A dealing with the book is told by one more change. -/
theorem deals {mine : Account → Prop} {overdraft : Bool} {x : Verdict} {d : Change} (h : k.ToldBy changes)
    (haccounts : ∀ {j a}, k.accounts.get? j = some a → a.id = j)
    (htransfers : ∀ {j t}, k.transfers.get? j = some t → t.id = j) (hx : Book.Deals mine overdraft x k k')
    (hd : x.change? = some d) : k'.ToldBy (changes ++ [d]) := by
  cases x with
  | posted r =>
    obtain rfl := Option.some.inj hd
    obtain ⟨o, a, hposts, -, -⟩ := hx
    exact h.commits htransfers (hposts.committed haccounts)
  | opened a =>
    obtain rfl := Option.some.inj hd
    exact h.opens hx.1
  | removed id =>
    obtain rfl := Option.some.inj hd
    exact h.removes hx.1
  | failed cause => cases hd

end Book.ToldBy

/-- A dealing of which there is a change to tell makes a difference to the book. -/
theorem Book.Deals.ne {mine : Account → Prop} {overdraft : Bool} {x : Verdict} {d : Change} {k k' : Book}
    (hx : Book.Deals mine overdraft x k k') (hd : x.change? = some d) : k' ≠ k := by
  rintro rfl
  cases x with
  | posted r =>
    obtain ⟨o, a, hposts, -, -⟩ := hx
    have hnew := hposts.newTransfer
    rw [hposts.book, Book.post, Table.get?_put_self] at hnew
    cases hnew
  | opened a =>
    have hnew := hx.1.newAccount
    rw [hx.1.book, Table.get?_put_self] at hnew
    cases hnew
  | removed id =>
    obtain ⟨hremoves, a, ha, -⟩ := hx
    rw [hremoves.book, Table.get?_erase_self] at ha
    cases ha
  | failed cause => cases hd

end Teller
