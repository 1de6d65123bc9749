import Teller.Proofs.Transfer.Settle
import Teller.Proofs.Work.Execute

/-!
# The work on an order among others

While its unit of work is open, the work on an order either makes both adjustments under the rows'
locks, and then they come to the same until the unit ends (`Order.Ready`), or stops for one of the
reasons that `Order.Reason` lists. That others may commit in between makes no difference to either.
-/

namespace Teller

/-- The unit of work holds an order's rows, and publishing them carries the order out. -/
structure Order.Ready (o : Order) (overdraft : Bool) (u : Int) (r : Receipt) (s : Store) : Prop where
  draft : ∃ locks, s.drafts.get? u = some
    ⟨(Table.empty.put r.sourceAccount.id r.sourceAccount).put r.targetAccount.id r.targetAccount,
      [r.sourceEntry, r.targetEntry], [r.transfer], locks⟩
  adjust : o.adjust overdraft s.book.account = .ok (r.sourceAccount, r.targetAccount)
  records : o.Records r

/-- Why the work on an order may stop, and with which failure. -/
inductive Order.Reason (inv : Store → Prop) (o : Order) (overdraft : Bool) (b : Book) :
    StoreError → Prop
  | interrupted {e : StoreError} (h : e.Interrupts) : Reason inv o overdraft b e
  /-- An account was not there. -/
  | missing {e : StoreError} {s : Store} (hs : inv s) (h : o.missing? s.book = some e) :
    Reason inv o overdraft b e
  /-- An account was there first, and then no longer. -/
  | vanished {e : StoreError} {s s' : Store} (hs : inv s) (hs' : inv s') (h : o.missing? s.book = none)
    (h' : o.missing? s'.book ≠ none) : Reason inv o overdraft b e
  /-- An adjustment could not be made, and still cannot. -/
  | denied {e : StoreError} {s : Store} (hs : inv s) (h : o.missing? s.book = none)
    (ha : o.adjust overdraft b.account = .error e) : Reason inv o overdraft b e

/-- What holds after the work on an order for as long as its unit stays open. -/
def Order.Worked (inv : Store → Prop) (o : Order) (overdraft : Bool) (u : Int)
    (r : Except StoreError Receipt) (s : Store) : Prop :=
  match r with
  | .ok r => o.Ready overdraft u r s
  | .error e => o.Reason inv overdraft s.book e

namespace Store

variable {s s' : Store} {u k delta : Int} {d : Draft} {o : Order} {overdraft : Bool}

theorem setDraft_get? (s : Store) (u : Int) (d : Draft) : (s.setDraft u d).drafts.get? u = some d := by
  rw [setDraft, Table.get?_put_self]

/-- A locked row that is there reads the same for as long as it is locked. -/
theorem Untouched.account (h : Untouched u s s') (hd : s.drafts.get? u = some d) (hk : k ∈ d.locks)
    {a : Account} (ha : s.book.accounts.get? k = some a) : s.book.account k = s'.book.account k := by
  rw [Book.account_of_get? ha, Book.account_of_get? (h.row hd hk ha)]

/-- So an adjustment of a locked row that is there comes to the same for as long as it is locked. -/
theorem Untouched.apply (h : Untouched u s s') (hd : s.drafts.get? u = some d) {a : Adjustment}
    (hk : a.account ∈ d.locks) {x : Account} (hx : s.book.accounts.get? a.account = some x) :
    a.apply overdraft s'.book.account = a.apply overdraft s.book.account :=
  Adjustment.apply_congr (h.account hd hk hx).symm

/-- A unit of work that has not staged an account sees the committed one. -/
theorem seen?_of_unstaged (hu : s.drafts.get? u = some d) (hk : d.accounts.get? k = none) :
    s.seen? u k = s.book.accounts.get? k := by
  rw [seen?_eq hu, hk, Option.none_or]

theorem stageTransfer_of_unstaged (hu : s.drafts.get? u = some d) (hd : d.accounts = .empty)
    (ho : 0 < o.amount) :
    (∃ e, o.missing? s.book = some e ∧ s.stageTransfer u o.source o.target o.amount = (.error e, s)) ∨
      o.missing? s.book = none ∧ ∃ t, s.stageTransfer u o.source o.target o.amount =
          (.ok t, { s with nextTransfer := s.nextTransfer + 1 }.setDraft u
            { d with transfers := d.transfers ++ [t] }) ∧
        t.source = o.source ∧ t.target = o.target ∧ t.amount = o.amount := by
  have hsee : ∀ k, s.seen? u k = s.book.accounts.get? k := fun k =>
    seen?_of_unstaged hu (by rw [hd]; rfl)
  unfold stageTransfer Order.missing?
  rw [if_neg (Int.not_le.2 ho), hsee, hsee]
  by_cases hs : s.book.accounts.get? o.source = none
  · exact .inl ⟨.noSuchAccount o.source, by rw [Table.contains, hs]; rfl, if_pos hs⟩
  have hs' : s.book.accounts.contains o.source = true := Option.isSome_iff_ne_none.2 hs
  by_cases ht : s.book.accounts.get? o.target = none
  · refine .inl ⟨.noSuchAccount o.target, ?_, (if_neg hs).trans (if_pos ht)⟩
    rw [hs', Table.contains, ht]; rfl
  · have ht' : s.book.accounts.contains o.target = true := Option.isSome_iff_ne_none.2 ht
    rw [if_neg hs, if_neg ht, hs', ht', draft_eq hu]
    exact .inr ⟨rfl, _, rfl, rfl, rfl, rfl⟩

theorem stageEntry_of_unstaged (hu : s.drafts.get? u = some d) (hd : d.accounts = .empty)
    (account amount : Int) :
    s.book.accounts.contains account = false ∧
        s.stageEntry u account amount = (.error (.noSuchAccount account), s) ∨
      s.book.accounts.contains account = true ∧ ∃ e, s.stageEntry u account amount =
          (.ok e, { s with nextEntry := s.nextEntry + 1 }.setDraft u { d with entries := d.entries ++ [e] }) ∧
        e.account = account ∧ e.amount = amount := by
  have hsee : s.seen? u account = s.book.accounts.get? account :=
    seen?_of_unstaged hu (by rw [hd]; rfl)
  unfold stageEntry
  rw [hsee]
  by_cases ha : s.book.accounts.get? account = none
  · exact .inl ⟨by rw [Table.contains, ha]; rfl, if_pos ha⟩
  · rw [if_neg ha, draft_eq hu]
    exact .inr ⟨Option.isSome_iff_ne_none.2 ha, _, rfl, rfl, rfl⟩

/-- The first adjustment of an account is made to the committed one. -/
theorem adjust_of_unstaged {a : Adjustment} (hu : s.drafts.get? u = some d)
    (hk : d.accounts.get? a.account = none) :
    s.adjust u a.account a.delta (decide (a.delta < 0) && !overdraft) =
      match a.apply overdraft s.book.account with
      | .error e => (.error e, s)
      | .ok x => (.ok x, s.setDraft u { d with accounts := d.accounts.put x.id x }) := by
  have hsee := seen?_of_unstaged hu hk
  cases ha : s.book.accounts.get? a.account with
  | none =>
    have hs : s.seen u a.account = .error (.accountNotFound a.account) := by rw [seen, hsee, ha]
    have hb : s.book.account a.account = .error (.accountNotFound a.account) := by
      rw [Book.account, ha]
    rw [adjust_of_seen_error hs, Adjustment.apply, hb]
    rfl
  | some x =>
    have hs : s.seen u a.account = .ok x := by rw [seen, hsee, ha]
    rw [Adjustment.apply_of_see (Book.account_of_get? ha)]
    cases hx : x.add a.delta (decide (a.delta < 0) && !overdraft) with
    | error e => exact adjust_of_add_error hs hx
    | ok y => exact adjust_of_add_ok hu hs hx

end Store

namespace Order

/-- The receipt of an order whose adjustments came to these accounts. -/
def receipt (o : Order) (transfer : Transfer) (sourceEntry targetEntry : Entry) (x y : Account) :
    Receipt :=
  if x.id = o.source then ⟨transfer, x, y, sourceEntry, targetEntry⟩
  else ⟨transfer, y, x, sourceEntry, targetEntry⟩

theorem run_work (o : Order) (overdraft : Bool) (u : Int) : (o.work overdraft).run u = (do
    let transfer ← Bank.writeTransferIn u o.source o.target o.amount
    let sourceEntry ← Bank.writeEntryIn u o.source (-o.amount)
    let targetEntry ← Bank.writeEntryIn u o.target o.amount
    let x ← Bank.adjustIn u o.adjustments.1.account o.adjustments.1.delta
      (decide (o.adjustments.1.delta < 0) && !overdraft)
    let y ← Bank.adjustIn u o.adjustments.2.account o.adjustments.2.delta
      (decide (o.adjustments.2.delta < 0) && !overdraft)
    return o.receipt transfer sourceEntry targetEntry x y) := by
  unfold work
  rcases o.adjustments with ⟨p, q⟩
  simp only [Work.run_bind, Work.run_writeTransfer, Work.run_writeEntry, Adjustment.work,
    Work.run_adjust]
  refine bind_congr fun t => bind_congr fun e => bind_congr fun f => bind_congr fun x =>
    bind_congr fun y => ?_
  unfold receipt
  split <;> rfl

/-- Once both adjustments are staged, the unit of work can be published with the receipt. -/
theorem ready_receipt {o : Order} {overdraft : Bool} {u : Int} {s : Store} {t : Transfer} {e f : Entry}
    {x y : Account} {locks : List Int} (hxy : x.id ≠ y.id)
    (hu : s.drafts.get? u = some ⟨(Table.empty.put x.id x).put y.id y, [e, f], [t], locks⟩)
    (hadjust : o.adjust overdraft s.book.account = .ok (if x.id = o.source then (x, y) else (y, x)))
    (ht : t.source = o.source ∧ t.target = o.target ∧ t.amount = o.amount)
    (he : e.account = o.source ∧ e.amount = -o.amount) (hf : f.account = o.target ∧ f.amount = o.amount) :
    o.Ready overdraft u (o.receipt t e f x y) s := by
  unfold receipt
  by_cases hsource : x.id = o.source
  · rw [if_pos hsource] at hadjust ⊢
    exact ⟨⟨locks, hu⟩, hadjust, ⟨ht, he, hf⟩⟩
  · rw [if_neg hsource] at hadjust ⊢
    rw [Table.put_put_of_ne hxy] at hu
    exact ⟨⟨locks, hu⟩, hadjust, ⟨ht, he, hf⟩⟩

end Order

namespace Conduct

variable {ν : Type} {C : Conduct ν} {o : Order} {overdraft : Bool} {u : Int} {b : Bank}

/-- The adjustments of an order, once its rows are staged. -/
theorem follows_adjustments (hI : Store.Invariant C.inv) (hne : o.source ≠ o.target) {t : Transfer}
    {e f : Entry} (hu : b.store.drafts.get? u = some ⟨.empty, [e, f], [t], []⟩)
    (ht : t.source = o.source ∧ t.target = o.target ∧ t.amount = o.amount)
    (he : e.account = o.source ∧ e.amount = -o.amount) (hf : f.account = o.target ∧ f.amount = o.amount)
    {s : Store} (hs : C.inv s) (hmissing : o.missing? s.book = none) : (do
      let x ← Bank.adjustIn u o.adjustments.1.account o.adjustments.1.delta
        (decide (o.adjustments.1.delta < 0) && !overdraft)
      let y ← Bank.adjustIn u o.adjustments.2.account o.adjustments.2.delta
        (decide (o.adjustments.2.delta < 0) && !overdraft)
      return o.receipt t e f x y : Attempt StoreError Receipt).run.Follows
      (C.waitingAt ⟨some u, none⟩).rules
      (fun g r t => g = ⟨some u, none⟩ ∧ ∀ t', C.rules.others g t t' →
        o.Worked C.inv overdraft u r t'.store) ⟨some u, none⟩ b := by
  have hI' : Store.Invariant (C.waitingAt ⟨some u, none⟩).inv := hI
  have hfail : ∀ (e : StoreError) (t : Bank), e.Interrupts → (⟨some u, none⟩ : Stage ν) = ⟨some u, none⟩ ∧
      ∀ t', C.rules.others ⟨some u, none⟩ t t' → o.Worked C.inv overdraft u (.error e) t'.store :=
    fun e t he => ⟨rfl, fun t' _ => .interrupted he⟩
  have hpq := Order.adjustments_ne hne
  have hgone₁ : ∀ s' : Store, s'.book.accounts.get? o.adjustments.1.account = none → o.missing? s'.book ≠ none :=
    fun _ h => Order.missing?_ne_none_of_adjustments (.inl h)
  have hgone₂ : ∀ s' : Store, s'.book.accounts.get? o.adjustments.2.account = none → o.missing? s'.book ≠ none :=
    fun _ h => Order.missing?_ne_none_of_adjustments (.inr h)
  generalize hp : o.adjustments.1 = p at *
  generalize hq : o.adjustments.2 = q at *
  rw [Attempt.follows_bind]
  refine follows_adjustIn hI' rfl rfl hu List.not_mem_nil (fun t₁ ht₁ hd₁ _ => ?_)
    fun e t _ he => hfail e t he
  rw [Store.adjust_of_unstaged hd₁ rfl]
  cases hx : p.apply overdraft t₁.store.book.account with
  | error err =>
    refine ⟨rfl, fun t' ht' => ?_⟩
    cases hrow : t₁.store.book.accounts.get? p.account with
    | none => exact .vanished hs ht₁ hmissing (hgone₁ _ hrow)
    -- the row stays locked, so the adjustment still cannot be made when the failure is known
    | some a =>
      have hsame := (ht'.2 u rfl).account hd₁ List.mem_cons_self hrow
      refine .denied hs hmissing (Order.adjust_of_first_error ?_)
      rw [hp, ← Adjustment.apply_congr hsame, hx]
  | ok x =>
    obtain ⟨a, ha, -⟩ := Adjustment.of_apply_ok hx
    have hid : x.id = p.account :=
      Adjustment.id_of_apply_ok (fun _ _ h => ((hI.sound ht₁).account (Book.account_eq_ok_iff.1 h)).1) hx
    have hd₁' := Store.setDraft_get? t₁.store u
      { Draft.mk .empty [e, f] [t] [p.account] with accounts := Table.empty.put x.id x }
    refine Attempt.follows_bind.2 (follows_adjustIn hI' rfl rfl hd₁' ?_ (fun t₂ ht₂ hd₂ hsame₂ => ?_)
      fun e t _ he => hfail e t he)
    · exact fun hmem => hpq (List.mem_singleton.1 hmem).symm
    -- from now on both rows are locked
    have hrow₂ : t₂.store.book.accounts.get? p.account = some a :=
      hsame₂ p.account a (List.mem_singleton.2 rfl) (Book.account_eq_ok_iff.1 ha)
    have hx₂ : p.apply overdraft t₂.store.book.account = .ok x := by
      rw [← hx]
      exact Adjustment.apply_congr ((Book.account_of_get? hrow₂).trans ha.symm)
    rw [Store.adjust_of_unstaged hd₂ (by rw [Table.get?_put, hid, if_neg hpq]; rfl)]
    cases hy : q.apply overdraft t₂.store.book.account with
    | error err =>
      refine ⟨rfl, fun t' ht' => ?_⟩
      cases hrow : t₂.store.book.accounts.get? q.account with
      | none => exact .vanished hs ht₂ hmissing (hgone₂ _ hrow)
      | some a' =>
        have hx' := ((ht'.2 u rfl).apply hd₂ (List.mem_cons_of_mem _ List.mem_cons_self) hrow₂).trans hx₂
        have hy' := ((ht'.2 u rfl).apply hd₂ List.mem_cons_self hrow).trans hy
        exact .denied hs hmissing (Order.adjust_of_second_error (hp ▸ hx') (hq ▸ hy'))
    | ok y =>
      refine ⟨rfl, fun t' ht' => ?_⟩
      obtain ⟨a', ha', -⟩ := Adjustment.of_apply_ok hy
      have hyid : y.id = q.account :=
        Adjustment.id_of_apply_ok (fun _ _ h => ((hI.sound ht₂).account (Book.account_eq_ok_iff.1 h)).1) hy
      have hd₃ := Store.setDraft_get? t₂.store u ⟨(Table.empty.put x.id x).put y.id y, [e, f], [t],
        [q.account, p.account]⟩
      have hx' := ((ht'.2 u rfl).apply hd₃ (List.mem_cons_of_mem _ List.mem_cons_self) hrow₂).trans hx₂
      have hy' := ((ht'.2 u rfl).apply hd₃ List.mem_cons_self (Book.account_eq_ok_iff.1 ha')).trans hy
      have hadjust := Order.adjust_of_ok (hp ▸ hx') (hq ▸ hy')
      exact Order.ready_receipt (by rw [hid, hyid]; exact hpq) ((ht'.2 u rfl).draft.trans hd₃) hadjust ht he hf

/-- The work on an order in a unit of work that has just been opened. -/
theorem follows_work (hI : Store.Invariant C.inv) (ho : 0 < o.amount) (hne : o.source ≠ o.target)
    (hu : b.store.drafts.get? u = some .empty) :
    ((o.work overdraft).run u).run.Follows (C.waitingAt ⟨some u, none⟩).rules
      (fun g r t => g = ⟨some u, none⟩ ∧ ∀ t', C.rules.others g t t' →
        o.Worked C.inv overdraft u r t'.store) ⟨some u, none⟩ b := by
  have hI' : Store.Invariant (C.waitingAt ⟨some u, none⟩).inv := hI
  have hfail : ∀ (e : StoreError) (t : Bank), e.Interrupts → (⟨some u, none⟩ : Stage ν) = ⟨some u, none⟩ ∧
      ∀ t', C.rules.others ⟨some u, none⟩ t t' → o.Worked C.inv overdraft u (.error e) t'.store :=
    fun e t he => ⟨rfl, fun t' _ => .interrupted he⟩
  rw [Order.run_work, Attempt.follows_bind]
  refine follows_staging hI' rfl rfl hu (fun t₁ ht₁ hd₁ => ⟨.stageTransfer hd₁ _ _ _, ?_⟩)
    fun e t _ he => hfail e t he
  rcases Store.stageTransfer_of_unstaged hd₁ rfl ho with ⟨e, hm, heq⟩ | ⟨hm, t, heq, ht⟩ <;> rw [heq]
  · exact ⟨rfl, fun t' _ => .missing ht₁.1 hm⟩
  refine Attempt.follows_bind.2 (follows_staging hI' rfl rfl (Store.setDraft_get? _ u _)
    (fun t₂ ht₂ hd₂ => ⟨.stageEntry hd₂ _ _, ?_⟩) fun e t _ he => hfail e t he)
  rcases Store.stageEntry_of_unstaged hd₂ rfl o.source (-o.amount) with
    ⟨hm₂, heq⟩ | ⟨-, e, heq, he⟩ <;> rw [heq]
  · refine ⟨rfl, fun t' _ => .vanished ht₁.1 ht₂.1 hm fun hn => ?_⟩
    rw [(Order.missing?_eq_none_iff.1 hn).1] at hm₂
    cases hm₂
  refine Attempt.follows_bind.2 (follows_staging hI' rfl rfl (Store.setDraft_get? _ u _)
    (fun t₃ ht₃ hd₃ => ⟨.stageEntry hd₃ _ _, ?_⟩) fun e t _ he => hfail e t he)
  rcases Store.stageEntry_of_unstaged hd₃ rfl o.target o.amount with
    ⟨hm₃, heq⟩ | ⟨-, f, heq, hf⟩ <;> rw [heq]
  · refine ⟨rfl, fun t' _ => .vanished ht₁.1 ht₃.1 hm fun hn => ?_⟩
    rw [(Order.missing?_eq_none_iff.1 hn).2] at hm₃
    cases hm₃
  exact follows_adjustments hI hne (Store.setDraft_get? _ u _) ht he hf ht₁.1 hm

end Conduct

end Teller
