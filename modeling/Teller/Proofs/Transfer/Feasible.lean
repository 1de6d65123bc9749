import Teller.Proofs.Transfer.Retry

/-!
# Feasible orders

Of which orders something comes, when nothing stands in their way but what the book says: an order is carried
out exactly if both accounts are there and both balances stay within their bounds (`Order.Feasible`). The
condition and the new balances are those of exact sums. They do not depend on which of the two rows is adjusted
first.
-/

namespace Teller

namespace Order

/-- The order can be carried out: its source can pay, and its target can be paid. -/
structure Feasible (o : Order) (overdraft : Bool) (b : Book) : Prop where
  amount : 0 < o.amount
  distinct : o.source ≠ o.target
  source : ∃ x, b.accounts.get? o.source = some x ∧
    (if overdraft then Amount.least else 0) ≤ x.balance - o.amount
  target : ∃ y, b.accounts.get? o.target = some y ∧ y.balance + o.amount ≤ Amount.greatest

/-- The order could be carried out if its source could be overdrawn. -/
structure LacksFunds (o : Order) (b : Book) : Prop where
  amount : 0 < o.amount
  distinct : o.source ≠ o.target
  source : ∃ x, b.accounts.get? o.source = some x ∧ x.balance - o.amount < 0 ∧ Amount.Fits (x.balance - o.amount)
  target : ∃ y, b.accounts.get? o.target = some y ∧ y.balance + o.amount ≤ Amount.greatest

/-- Nothing stands in the way of the order but what the book says. -/
structure Undisturbed (o : Order) (b : Bank) : Prop where
  reachable : b.store.Reachable
  faults : b.store.faults = .none
  refusal : b.refusal? .opening none = none
  free : b.store.Free none o.source ∧ b.store.Free none o.target
  amount : Amount.Fits o.amount
  balances : ∀ {k a}, b.store.book.accounts.get? k = some a → Amount.Fits a.balance

/-- The receipt of the order, and what it says about the book before and after. -/
structure Done (o : Order) (r : Receipt) (b b' : Book) : Prop where
  /-- Both accounts are what they were, but for the amount. -/
  accounts : ∃ x y, b.accounts.get? o.source = some x ∧ b.accounts.get? o.target = some y ∧
    r.sourceAccount = { x with balance := x.balance - o.amount } ∧
    r.targetAccount = { y with balance := y.balance + o.amount }
  ids : r.sourceAccount.id = o.source ∧ r.targetAccount.id = o.target
  records : o.Records r
  fresh : b.transfers.get? r.transfer.id = none ∧ b.entries.get? r.sourceEntry.id = none ∧
    b.entries.get? r.targetEntry.id = none
  /-- Each row of the receipt is in the book. -/
  accountRows : b'.accounts.get? o.source = some r.sourceAccount ∧ b'.accounts.get? o.target = some r.targetAccount
  entryRows : b'.entries.get? r.sourceEntry.id = some r.sourceEntry ∧
    b'.entries.get? r.targetEntry.id = some r.targetEntry
  transferRow : b'.transfers.get? r.transfer.id = some r.transfer
  /-- Each other row is as it was. -/
  otherAccounts : ∀ k, k ≠ o.source → k ≠ o.target → b'.accounts.get? k = b.accounts.get? k
  otherEntries : ∀ k, k ≠ r.sourceEntry.id → k ≠ r.targetEntry.id → b'.entries.get? k = b.entries.get? k
  otherTransfers : ∀ k, k ≠ r.transfer.id → b'.transfers.get? k = b.transfers.get? k

/-- The balances of the two accounts, as far as these are there. -/
def balances (o : Order) (b : Book) : Option Int × Option Int :=
  ((b.accounts.get? o.source).map (·.balance), (b.accounts.get? o.target).map (·.balance))

end Order

def Receipt.balances (r : Receipt) : Int × Int :=
  (r.sourceAccount.balance, r.targetAccount.balance)

variable {o o' : Order} {overdraft : Bool} {terms : Terms} {b b' : Bank} {bk bk' : Book} {r : Receipt}

theorem Order.Posts.done (h : o.Posts overdraft r bk bk') (hb : ∀ {k a}, bk.accounts.get? k = some a → a.id = k) :
    o.Done r bk bk' := by
  obtain ⟨x, y, hx, hy, hrx, hry⟩ := h.accounts hb
  obtain ⟨hsource, htarget, hne⟩ := h.newEntries
  have haccounts := h.get? hb
  have hbook := h.book
  constructor
  case accounts => exact ⟨x, y, hx, hy, hrx, hry⟩
  case ids => exact h.ids hb
  case records => exact h.records
  case fresh => exact ⟨h.newTransfer, hsource, htarget⟩
  case accountRows => exact ⟨by rw [haccounts, if_neg h.distinct.symm, if_pos rfl], by rw [haccounts, if_pos rfl]⟩
  case entryRows =>
    rw [hbook]
    exact ⟨by rw [Book.post, Table.get?_put, if_neg hne.symm, Table.get?_put, if_pos rfl],
      by rw [Book.post, Table.get?_put, if_pos rfl]⟩
  case transferRow => rw [hbook, Book.post, Table.get?_put, if_pos rfl]
  case otherAccounts =>
    intro k hks hkt
    rw [haccounts, if_neg hkt.symm, if_neg hks.symm]
  case otherEntries =>
    intro k hks hkt
    rw [hbook, Book.post, Table.get?_put, if_neg hkt.symm, Table.get?_put, if_neg hks.symm]
  case otherTransfers =>
    intro k hk
    rw [hbook, Book.post, Table.get?_put, if_neg hk.symm]

namespace Order

/-! ### Each of the two balances -/

theorem settle_congr {see see' : Int → Except StoreError Account} (hsource : see o.source = see' o.source)
    (htarget : see o.target = see' o.target) : o.settle overdraft bk see = o.settle overdraft bk see' := by
  have hdebit : o.debit.apply overdraft see = o.debit.apply overdraft see' := Adjustment.apply_congr hsource
  have hcredit : o.credit.apply overdraft see = o.credit.apply overdraft see' := Adjustment.apply_congr htarget
  unfold settle
  split
  · rfl
  unfold adjust adjustments
  split <;>
  · dsimp only
    rw [hdebit, hcredit]

theorem debit_ok_iff (ho : 0 < o.amount) (hfits : ∀ {k a}, bk.accounts.get? k = some a → Amount.Fits a.balance) :
    (∃ x', o.debit.apply overdraft bk.account = .ok x') ↔ ∃ x, bk.accounts.get? o.source = some x ∧
      (if overdraft then Amount.least else 0) ≤ x.balance - o.amount := by
  have hfloor : ∀ n : Int, (Amount.Fits n ∧ ((decide (-o.amount < 0) && !overdraft) = true → 0 ≤ n)) ↔
      (if overdraft then Amount.least else 0) ≤ n ∧ n ≤ Amount.greatest := by
    intro n
    rw [decide_eq_true (by omega : -o.amount < 0)]
    cases overdraft with
    | false =>
      have hleast : Amount.least ≤ 0 := by decide
      simp only [Bool.not_false, Bool.and_true, forall_const, Bool.false_eq_true, if_false, Amount.Fits]
      omega
    | true => simp only [Bool.not_true, Bool.and_false, Bool.false_eq_true, false_implies, and_true, if_true, Amount.Fits]
  constructor
  · rintro ⟨x', h⟩
    obtain ⟨x, hx, hadd⟩ := Adjustment.of_apply_ok h
    obtain ⟨-, hbounds⟩ := Account.add_eq_ok_iff.1 hadd
    exact ⟨x, Book.account_eq_ok_iff.1 hx, ((hfloor _).1 hbounds).1⟩
  · rintro ⟨x, hx, hle⟩
    have hgreatest : x.balance - o.amount ≤ Amount.greatest := by
      have := (hfits hx).2
      omega
    refine ⟨_, (Adjustment.apply_of_see (Book.account_of_get? hx)).trans (Account.add_eq_ok_iff.2 ⟨rfl, ?_⟩)⟩
    exact (hfloor _).2 ⟨hle, hgreatest⟩

theorem credit_ok_iff (ho : 0 < o.amount) (hfits : ∀ {k a}, bk.accounts.get? k = some a → Amount.Fits a.balance) :
    (∃ y', o.credit.apply overdraft bk.account = .ok y') ↔ ∃ y, bk.accounts.get? o.target = some y ∧
      y.balance + o.amount ≤ Amount.greatest := by
  constructor
  · rintro ⟨y', h⟩
    obtain ⟨y, hy, hadd⟩ := Adjustment.of_apply_ok h
    obtain ⟨-, hbounds, -⟩ := Account.add_eq_ok_iff.1 hadd
    exact ⟨y, Book.account_eq_ok_iff.1 hy, hbounds.2⟩
  · rintro ⟨y, hy, hle⟩
    have hleast : Amount.least ≤ y.balance + o.amount := by
      have := (hfits hy).1
      omega
    refine ⟨_, (Adjustment.apply_of_see (Book.account_of_get? hy)).trans
      (Account.add_eq_ok_iff.2 ⟨rfl, ⟨hleast, hle⟩, fun hfloor => ?_⟩)⟩
    rw [decide_eq_false (show ¬ o.credit.delta < 0 from fun h => by have : o.amount < 0 := h; omega)] at hfloor
    cases hfloor

/-- The source cannot pay, but could if it could be overdrawn. -/
theorem debit_of_lacksFunds (h : o.LacksFunds bk) : ∃ k balance,
    o.debit.apply false bk.account = .error (.insufficientFunds k balance (-o.amount)) := by
  obtain ⟨x, hx, hneg, hfits⟩ := h.source
  refine ⟨x.id, x.balance, (Adjustment.apply_of_see (Book.account_of_get? hx)).trans ?_⟩
  have hfit : Amount.fit? (x.balance + -o.amount) = some (x.balance - o.amount) :=
    Amount.fit?_eq_some_iff.2 ⟨rfl, hfits⟩
  have hdelta : -o.amount < 0 := by
    have := h.amount
    omega
  show x.add (-o.amount) (decide (-o.amount < 0) && !false) = _
  rw [Account.add, hfit]
  exact if_pos ⟨by rw [decide_eq_true hdelta]; rfl, hneg⟩

/-! ### The whole order -/

/-- An order can be settled exactly if it is feasible, whichever of its accounts is adjusted first. -/
theorem feasible_iff_settle (hids : ∀ {k a}, bk.accounts.get? k = some a → a.id = k)
    (hfits : ∀ {k a}, bk.accounts.get? k = some a → Amount.Fits a.balance) :
    o.Feasible overdraft bk ↔ o.improper? = none ∧ ∃ p, o.settle overdraft bk bk.account = .ok p := by
  have hsee : ∀ k x, bk.account k = .ok x → x.id = k := fun k x h => hids (Book.account_eq_ok_iff.1 h)
  rw [improper?_eq_none_iff]
  constructor
  · intro h
    obtain ⟨x, hx, -⟩ := h.source
    obtain ⟨y, hy, -⟩ := h.target
    obtain ⟨x', hx'⟩ := (debit_ok_iff h.amount hfits).2 h.source
    obtain ⟨y', hy'⟩ : ∃ y', o.credit.apply overdraft bk.account = .ok y' :=
      (credit_ok_iff h.amount hfits).2 h.target
    have hpresent : o.missing? bk = none :=
      missing?_eq_none_iff.2 ⟨Table.contains_iff.2 ⟨x, hx⟩, Table.contains_iff.2 ⟨y, hy⟩⟩
    refine ⟨⟨h.amount, h.distinct⟩, (x', y'), ?_⟩
    rw [settle_of_present hpresent]
    exact (adjust_eq_ok_iff h.distinct hsee).2 ⟨hx', hy'⟩
  · rintro ⟨⟨ho, hne⟩, ⟨x', y'⟩, h⟩
    have hpresent : o.missing? bk = none := by
      cases hm : o.missing? bk with
      | none => rfl
      | some e =>
        rw [settle_of_missing hm] at h
        cases h
    rw [settle_of_present hpresent] at h
    obtain ⟨hx', hy'⟩ := (adjust_eq_ok_iff hne hsee).1 h
    exact ⟨ho, hne, (debit_ok_iff ho hfits).1 ⟨x', hx'⟩, (credit_ok_iff ho hfits).1 ⟨y', hy'⟩⟩

/-- Missing funds are told, even if the other account is adjusted first. -/
theorem settle_of_lacksFunds (h : o.LacksFunds bk)
    (hfits : ∀ {k a}, bk.accounts.get? k = some a → Amount.Fits a.balance) : ∃ k balance,
    o.settle false bk bk.account = .error (.insufficientFunds k balance (-o.amount)) := by
  obtain ⟨x, hx, -⟩ := h.source
  obtain ⟨y, hy, -⟩ := h.target
  have hpresent : o.missing? bk = none :=
    missing?_eq_none_iff.2 ⟨Table.contains_iff.2 ⟨x, hx⟩, Table.contains_iff.2 ⟨y, hy⟩⟩
  obtain ⟨k, balance, hdebit⟩ := debit_of_lacksFunds h
  obtain ⟨y', hcredit⟩ : ∃ y', o.credit.apply false bk.account = .ok y' :=
    (credit_ok_iff h.amount hfits).2 h.target
  refine ⟨k, balance, (settle_of_present hpresent).trans ?_⟩
  by_cases hlt : o.source < o.target
  · have hadjustments : o.adjustments = (o.debit, o.credit) := if_pos hlt
    exact adjust_of_first_error (by rw [hadjustments]; exact hdebit)
  · have hadjustments : o.adjustments = (o.credit, o.debit) := if_neg hlt
    exact adjust_of_second_error (by rw [hadjustments]; exact hcredit) (by rw [hadjustments]; exact hdebit)

theorem Feasible.of_balances (h : o.Feasible overdraft bk) (hamount : o'.amount = o.amount)
    (hdistinct : o'.source = o'.target ↔ o.source = o.target) (hbalances : o'.balances bk' = o.balances bk) :
    o'.Feasible overdraft bk' := by
  obtain ⟨hsource, htarget⟩ := Prod.mk.inj hbalances
  obtain ⟨x, hx, hxle⟩ := h.source
  obtain ⟨y, hy, hyle⟩ := h.target
  rw [hx] at hsource
  rw [hy] at htarget
  obtain ⟨x', hx', hxx'⟩ := Option.map_eq_some_iff.1 hsource
  obtain ⟨y', hy', hyy'⟩ := Option.map_eq_some_iff.1 htarget
  refine ⟨hamount ▸ h.amount, fun hne => h.distinct (hdistinct.1 hne), ⟨x', hx', ?_⟩, ⟨y', hy', ?_⟩⟩
  · rw [hxx', hamount]
    exact hxle
  · rw [hyy', hamount]
    exact hyle

/-- The balances of the receipt are those of the book before, with the amount moved. -/
theorem Done.balances (h : o.Done r bk bk') : ∃ m n, o.balances bk = (some m, some n) ∧
    r.balances = (m - o.amount, n + o.amount) := by
  obtain ⟨x, y, hx, hy, hrx, hry⟩ := h.accounts
  refine ⟨x.balance, y.balance, ?_, ?_⟩
  · rw [Order.balances, hx, hy]
    rfl
  · rw [Receipt.balances, hrx, hry]

namespace Undisturbed

theorem ids (h : o.Undisturbed b) {k : Int} {a : Account} (ha : b.store.book.accounts.get? k = some a) : a.id = k :=
  (h.reachable.sound.account ha).1

theorem value (h : o.Undisturbed b) (terms : Terms) :
    ((o.execute terms).outcome.run b).value.map Receipt.accounts = match o.improper? with
      | some e => .error e
      | none => (o.settle terms.overdraft b.store.book b.store.book.account).mapError fun e =>
        .work (Work.blame terms.deadline b.store.patience e) := by
  have hsettle : o.settle terms.overdraft b.store.book b.store.reach =
      o.settle terms.overdraft b.store.book b.store.book.account :=
    settle_congr (if_pos h.free.1) (if_pos h.free.2)
  rw [execute_alone h.reachable.sound h.faults, foretell, h.refusal, hsettle]
  cases o.improper? <;> rfl

theorem ok_iff (h : o.Undisturbed b) (terms : Terms) :
    (∃ r, ((o.execute terms).outcome.run b).value = .ok r) ↔ o.Feasible terms.overdraft b.store.book := by
  have hmap : (∃ r, ((o.execute terms).outcome.run b).value = .ok r) ↔
      ∃ p, ((o.execute terms).outcome.run b).value.map Receipt.accounts = .ok p := by
    cases ((o.execute terms).outcome.run b).value <;> simp [Except.map]
  rw [hmap, h.value terms, feasible_iff_settle h.ids h.balances]
  cases o.improper? with
  | some e => simp
  | none =>
    cases o.settle terms.overdraft b.store.book b.store.book.account <;> simp [Except.mapError]

theorem done (h : o.Undisturbed b) (hr : ((o.execute terms).outcome.run b).value = .ok r) :
    o.Done r b.store.book ((o.execute terms).outcome.run b).state.store.book :=
  ((o.ran terms h.reachable.sound).ok r hr).done h.ids

theorem error_of_lacksFunds (h : o.Undisturbed b) (hfloor : terms.overdraft = false)
    (hl : o.LacksFunds b.store.book) :
    ∃ e, ((o.execute terms).outcome.run b).value = .error e ∧ e.code = "INSUFFICIENT_BALANCE" := by
  obtain ⟨k, balance, hsettle⟩ := settle_of_lacksFunds hl h.balances
  have hvalue := h.value terms
  rw [improper?_eq_none_iff.2 ⟨hl.amount, hl.distinct⟩, hfloor, hsettle] at hvalue
  cases hv : ((o.execute terms).outcome.run b).value with
  | ok r =>
    rw [hv] at hvalue
    cases hvalue
  | error e =>
    rw [hv] at hvalue
    obtain rfl := Except.error.inj hvalue
    exact ⟨_, rfl, rfl⟩

end Undisturbed

end Order

/-- What comes of an order that nothing stands in the way of. It is carried out exactly if it is feasible, by exact
sums; then its receipt and the book say so, and every other row is as it was. Otherwise the book is as it was. Two
orders for the same amount between accounts of the same balances come to the same, whichever of the numbers of
their accounts is lower. An order that only lacks funds is refused for that. -/
theorem transfer_outcome (h : o.Undisturbed b) (terms : Terms) :
    let t := (o.execute terms).outcome.run b
    ((∃ r, t.value = .ok r) ↔ o.Feasible terms.overdraft b.store.book) ∧
    (∀ r, t.value = .ok r → o.Done r b.store.book t.state.store.book) ∧
    (∀ e, t.value = .error e → t.state.store.book = b.store.book) ∧
    (∀ (o' : Order) (b' : Bank), o'.Undisturbed b' → o'.amount = o.amount → (o'.source = o'.target ↔ o.source = o.target) →
      o'.balances b'.store.book = o.balances b.store.book →
      ((o'.execute terms).outcome.run b').value.toOption.map Receipt.balances =
        t.value.toOption.map Receipt.balances) ∧
    (terms.overdraft = false → o.LacksFunds b.store.book →
      ∃ e, t.value = .error e ∧ e.code = "INSUFFICIENT_BALANCE") := by
  intro t
  refine ⟨h.ok_iff terms, fun r hr => h.done hr, fun e he => (o.ran terms h.reachable.sound).error e he, ?_,
    fun hfloor hl => h.error_of_lacksFunds hfloor hl⟩
  intro o' b' h' hamount hdistinct hbalances
  have hok : (∃ r', ((o'.execute terms).outcome.run b').value = .ok r') ↔ ∃ r, t.value = .ok r := by
    rw [h'.ok_iff terms, h.ok_iff terms]
    exact ⟨fun hf => hf.of_balances hamount.symm hdistinct.symm hbalances.symm,
      fun hf => hf.of_balances hamount hdistinct hbalances⟩
  cases hv' : ((o'.execute terms).outcome.run b').value with
  | ok r' =>
    obtain ⟨r, hr⟩ := hok.1 ⟨r', hv'⟩
    obtain ⟨m', n', hb', hr'⟩ := (h'.done hv').balances
    obtain ⟨m, n, hb, hrb⟩ := (h.done hr).balances
    rw [hbalances, hb] at hb'
    obtain ⟨rfl, rfl⟩ : m = m' ∧ n = n' := by simpa using hb'
    rw [hr]
    show some r'.balances = some r.balances
    rw [hr', hrb, hamount]
  | error e' =>
    cases hv : t.value with
    | ok r =>
      obtain ⟨r', hr'⟩ := hok.2 ⟨r, hv⟩
      rw [hv'] at hr'
      cases hr'
    | error e => rfl

/-- The account with money pays the other; that one has nothing to pay back with. -/
theorem transfer_outcome_pair :
    let b : Bank := ⟨.pair .none, [], []⟩
    (∃ r, ((Order.execute ⟨1, 2, 30⟩ ⟨false, none⟩).outcome.run b).value = .ok r ∧ r.balances = (70, 30)) ∧
      ∃ e, ((Order.execute ⟨2, 1, 30⟩ ⟨false, none⟩).outcome.run b).value = .error e ∧
        e.code = "INSUFFICIENT_BALANCE" := by
  intro b
  have hfits : ∀ {k a}, b.store.book.accounts.get? k = some a → Amount.Fits a.balance := by
    intro k a ha
    replace ha : ((Table.empty.put 1 (⟨1, "ann", 100, .cad, .epoch⟩ : Account)).put 2
      ⟨2, "bob", 0, .cad, .epoch⟩).get? k = some a := ha
    rw [Table.get?_put, Table.get?_put, Table.get?_empty] at ha
    split_ifs at ha <;> cases ha <;> decide
  have hfree : ∀ k, b.store.Free none k := fun k => .inl rfl
  have hpays : Order.Undisturbed ⟨1, 2, 30⟩ b :=
    ⟨Store.reachable_pair .none, rfl, rfl, ⟨hfree _, hfree _⟩, by decide, hfits⟩
  have hlacks : Order.Undisturbed ⟨2, 1, 30⟩ b :=
    ⟨Store.reachable_pair .none, rfl, rfl, ⟨hfree _, hfree _⟩, by decide, hfits⟩
  obtain ⟨hiff, hdone, -⟩ := transfer_outcome hpays ⟨false, none⟩
  obtain ⟨-, -, -, -, herror⟩ := transfer_outcome hlacks ⟨false, none⟩
  constructor
  · obtain ⟨r, hr⟩ := hiff.2 ⟨by decide, by decide, ⟨_, rfl, by decide⟩, ⟨_, rfl, by decide⟩⟩
    obtain ⟨m, n, hb, hbalances⟩ := (hdone r hr).balances
    obtain ⟨rfl, rfl⟩ : 100 = m ∧ 0 = n := by
      have hb' : (some 100, some 0) = (some m, some n) := hb
      simpa using hb'
    exact ⟨r, hr, hbalances⟩
  · exact herror rfl ⟨by decide, by decide, ⟨_, rfl, by decide, by decide⟩, ⟨_, rfl, by decide⟩⟩

end Teller
