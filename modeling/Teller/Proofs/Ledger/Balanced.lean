import Teller.Proofs.Ledger.Call

/-!
# Balanced books

`Book.Balanced`: what each account was opened with and what the entries have moved since make up its
balance, the entries are exactly the legs of the transfers, and all balances together are what the
accounts were opened with. Each of the three ways in which a book changes keeps this. That an account
can be removed is no exception: without entries, it still has what it was opened with.

Over a run, the opening balances are those that the calls asked for (`opening`).
-/

namespace Teller

/-- What the entries have moved into an account. -/
def Book.movements (b : Book) (account : Int) : Int :=
  ((b.entriesOf account).map (·.amount)).sum

/-- The two movements of a transfer, each with the account that it concerns. -/
def Transfer.legs (t : Transfer) : List (Int × Int) :=
  [(t.source, -t.amount), (t.target, t.amount)]

/-- Balances, entries and transfers agree; `opening` is what each account was opened with. -/
structure Book.Balanced (opening : Int → Int) (b : Book) : Prop where
  account : ∀ {k a}, b.accounts.get? k = some a → a.id = k
  balance : ∀ {k a}, b.accounts.get? k = some a → a.balance = opening k + b.movements k
  /-- Every entry is of an account that is there. -/
  entry : ∀ {k e}, b.entries.get? k = some e → b.accounts.contains e.account = true
  entries : (b.entries.values.map fun e => (e.account, e.amount)).Perm
    (b.transfers.values.flatMap Transfer.legs)
  transfer : ∀ {k t}, b.transfers.get? k = some t → 0 < t.amount ∧ t.source ≠ t.target
  total : (b.accounts.values.map (·.balance)).sum = (b.accounts.values.map fun a => opening a.id).sum

/-- What the account of a number was opened with, by the call that last brought it into the book; the
latest happening comes first. -/
def opening : List (Happening Call) → Int → Int
  | .move _ c b b' :: h, k =>
    if b.store.book.accounts.contains k = false ∧ b'.store.book.accounts.contains k = true then c.opening
    else opening h k
  | _ :: h, k => opening h k
  | [], _ => 0

namespace Book

variable {b b' : Book} {f f' : Int → Int} {k balance id : Int} {a : Account} {o : Order}
  {overdraft : Bool} {r : Receipt}

/-! ### Movements -/

theorem movements_eq (b : Book) (k : Int) :
    b.movements k = (b.entries.values.map fun e => if e.account = k then e.amount else 0).sum := by
  unfold movements entriesOf
  induction b.entries.values with
  | nil => rfl
  | cons e l ih =>
    rw [List.filter_cons]
    by_cases he : e.account = k
    · rw [if_pos (decide_eq_true he), List.map_cons, List.map_cons, List.sum_cons, List.sum_cons, ih,
        if_pos he]
    · rw [if_neg (by simpa using he), List.map_cons, List.sum_cons, ih, if_neg he, Int.zero_add]

theorem movements_of_not_refers (h : ¬ b.Refers k) : b.movements k = 0 := by
  have hnone : b.entriesOf k = [] := List.filter_eq_nil_iff.2 fun e he hek =>
    h (.inl ⟨e, he, of_decide_eq_true hek⟩)
  rw [movements, hnone]
  rfl

/-- Nothing refers to an account that is not there. -/
theorem Balanced.movements_of_new (h : b.Balanced f) (hk : b.accounts.get? k = none) :
    b.movements k = 0 := by
  have hnone : b.entriesOf k = [] := List.filter_eq_nil_iff.2 fun e he hek => by
    obtain ⟨j, hj⟩ := Table.mem_values.1 he
    have := h.entry hj
    rw [of_decide_eq_true hek, Table.contains, hk] at this
    cases this
  rw [movements, hnone]
  rfl

theorem balanced_empty : Balanced f .empty where
  account h := by cases h
  balance h := by cases h
  entry h := by cases h
  entries := .nil
  transfer h := by cases h
  total := rfl

/-! ### Changes of the book -/

/-- A transfer moves its amount between the two accounts. -/
theorem Balanced.post (h : b.Balanced f) (hp : o.Posts overdraft r b b') : b'.Balanced f := by
  obtain ⟨x, y, hx, hy, hrx, hry⟩ := hp.accounts h.account
  obtain ⟨hxid, hyid⟩ := hp.ids h.account
  obtain ⟨htr, hse, hte⟩ := hp.records
  have hmove : ∀ k, b'.movements k = b.movements k +
      ((if o.target = k then o.amount else 0) + if o.source = k then -o.amount else 0) := fun k => by
    rw [movements_eq, movements_eq, hp.sum_entries, hte.1, hte.2, hse.1, hse.2]
    omega
  constructor
  case account =>
    intro k a ha
    rw [hp.get? h.account] at ha
    split at ha
    · rename_i hk; cases ha; rw [hyid, hk]
    split at ha
    · rename_i hk; cases ha; rw [hxid, hk]
    · exact h.account ha
  case balance =>
    intro k a ha
    rw [hp.get? h.account] at ha
    rw [hmove]
    split at ha
    · rename_i hk
      subst hk
      cases ha
      rw [if_pos rfl, if_neg hp.distinct, hry]
      have := h.balance hy
      show y.balance + o.amount = _
      omega
    split at ha
    · rename_i hk hk'
      subst hk'
      cases ha
      rw [if_neg hk, if_pos rfl, hrx]
      have := h.balance hx
      show x.balance + -o.amount = _
      omega
    · rename_i hk hk'
      rw [if_neg hk, if_neg hk', h.balance ha]
      omega
  case entry =>
    intro k e he
    rw [hp.contains h.account]
    have he' := hp.entries_perm.mem_iff.1 (Table.mem_values_of_get? he)
    rcases List.mem_cons.1 he' with rfl | he'
    · rw [hte.1]; exact Table.contains_iff.2 ⟨y, hy⟩
    rcases List.mem_cons.1 he' with rfl | he'
    · rw [hse.1]; exact Table.contains_iff.2 ⟨x, hx⟩
    · obtain ⟨j, hj⟩ := Table.mem_values.1 he'
      exact h.entry hj
  case entries =>
    refine (hp.entries_perm.map _).trans (.trans ?_ (hp.transfers_perm.flatMap_right _).symm)
    rw [List.flatMap_cons, Transfer.legs, htr.1, htr.2.1, htr.2.2, List.map_cons, List.map_cons, hte.1,
      hte.2, hse.1, hse.2]
    exact (List.Perm.swap _ _ _).trans ((h.entries.cons _).cons _)
  case transfer =>
    intro k t ht
    rcases List.mem_cons.1 (hp.transfers_perm.mem_iff.1 (Table.mem_values_of_get? ht)) with rfl | ht'
    · rw [htr.1, htr.2.1, htr.2.2]
      exact ⟨hp.amount, hp.distinct⟩
    · obtain ⟨j, hj⟩ := Table.mem_values.1 ht'
      exact h.transfer hj
  case total =>
    have hput : ∀ g : Account → Int, (b'.accounts.values.map g).sum =
        (b.accounts.values.map g).sum - g x + g r.sourceAccount - g y + g r.targetAccount := fun g => by
      rw [hp.book, Book.post, Table.sum_put_old g (y := y), Table.sum_put_old g (y := x)]
      · rw [hxid]; exact hx
      · rw [Table.get?_put, hxid, hyid, if_neg hp.distinct, hy]
    have htotal := h.total
    rw [hput, hput, htotal, hrx, hry]
    show _ - x.balance + (x.balance + -o.amount) - y.balance + (y.balance + o.amount) =
      _ - f x.id + f x.id - f y.id + f y.id
    omega

/-- A new account has no movements yet. -/
theorem Balanced.opens (h : b.Balanced f) (ho : b.Opens balance a b')
    (hf : ∀ k, f' k = if k = a.id then balance else f k) : b'.Balanced f' := by
  obtain ⟨hbal, hnew, rfl⟩ := ho
  have hold : ∀ {k}, b.accounts.contains k = true → k ≠ a.id := by
    rintro k hk rfl
    rw [Table.contains, hnew] at hk
    cases hk
  constructor
  case account =>
    intro k x hx
    rcases Table.get?_put_eq_some_iff.1 hx with ⟨rfl, rfl⟩ | ⟨-, hx⟩
    · rfl
    · exact h.account hx
  case balance =>
    intro k x hx
    show x.balance = f' k + b.movements k
    rcases Table.get?_put_eq_some_iff.1 hx with ⟨rfl, rfl⟩ | ⟨hk, hx⟩
    · rw [hf, if_pos rfl, h.movements_of_new hnew, hbal]
      omega
    · rw [hf, if_neg hk, h.balance hx]
  case entry =>
    intro k e he
    obtain ⟨x, hx⟩ := Table.contains_iff.1 (h.entry he)
    exact Table.contains_iff.2 ⟨x, (Table.get?_put_of_ne (hold (h.entry he)) a).trans hx⟩
  case entries => exact h.entries
  case transfer => exact h.transfer
  case total =>
    show ((b.accounts.put a.id a).values.map (·.balance)).sum = _
    rw [Table.sum_put_new _ hnew, Table.sum_put_new _ hnew, hf, if_pos rfl, hbal]
    have hsame : (b.accounts.values.map fun x => f' x.id) = b.accounts.values.map fun x => f x.id := by
      refine List.map_congr_left fun x hx => ?_
      obtain ⟨k, hk⟩ := Table.mem_values.1 hx
      rw [hf, if_neg]
      rw [h.account hk]
      exact hold (Table.contains_iff.2 ⟨x, hk⟩)
    rw [hsame]
    exact congrArg _ h.total

/-- An account that nothing refers to has what it was opened with. -/
theorem Balanced.removes (h : b.Balanced f) (hr : b.Removes id b') : b'.Balanced f := by
  obtain ⟨href, rfl⟩ := hr
  constructor
  case account => exact fun hx => h.account (Table.get?_erase_eq_some_iff.1 hx).2
  case balance => exact fun hx => h.balance (Table.get?_erase_eq_some_iff.1 hx).2
  case entry =>
    intro k e he
    have hne : e.account ≠ id := fun hid => href (.inl ⟨e, Table.mem_values_of_get? he, hid⟩)
    obtain ⟨x, hx⟩ := Table.contains_iff.1 (h.entry he)
    exact Table.contains_iff.2 ⟨x, (Table.get?_erase_of_ne hne).trans hx⟩
  case entries => exact h.entries
  case transfer => exact h.transfer
  case total =>
    show ((b.accounts.erase id).values.map (·.balance)).sum =
      ((b.accounts.erase id).values.map fun a => f a.id).sum
    cases hid : b.accounts.get? id with
    | none => rw [Table.erase_of_get?_eq_none hid]; exact h.total
    | some a =>
      have htotal := h.total
      rw [Table.sum_erase _ hid, Table.sum_erase _ hid] at htotal
      have hbal := h.balance hid
      rw [movements_of_not_refers href, ← h.account hid] at hbal
      omega

end Book

end Teller
