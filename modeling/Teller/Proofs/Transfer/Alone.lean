import Teller.Proofs.Bank.Alone
import Teller.Proofs.Transfer.Alike
import Teller.Proofs.Transfer.Execute

/-!
# An order alone, without faults

What the execution of an order comes to when nobody interferes and no faults are asked for
(`Order.foretell`): it depends on the book, on the rows that others keep locked, on the refusals and on
how long it may wait, and on nothing else. So the same order comes to the same again.
-/

namespace Teller

/-- The failure of a unit of work whose work failed alone; a wait beyond the deadline is cut short. -/
def Work.blame (deadline : Option Time.Span) (patience : Time.Span) (e : StoreError) : WorkError :=
  match e, deadline with
  | .lockTimeout _, some limit => if patience ≤ limit then .aborted e else .deadlineExceeded limit
  | _, _ => .aborted e

/-- What the execution of an order comes to. -/
def Order.foretell (o : Order) (terms : Terms) (b : Bank) : Except TransferError (Account × Account) :=
  match o.improper?, b.refusal? .opening none with
  | some e, _ => .error e
  | none, some e => .error (.work (.opening e))
  | none, none =>
    (o.settle terms.overdraft b.store.book b.store.reach).mapError fun e =>
      .work (Work.blame terms.deadline b.store.patience e)

theorem Adjustment.apply_ne_lockTimeout (a : Adjustment) (overdraft : Bool) (b : Book) (k : Int) :
    a.apply overdraft b.account ≠ .error (.lockTimeout k) := by
  cases ha : b.accounts.get? a.account with
  | none =>
    have hb : b.account a.account = .error (.accountNotFound a.account) := by rw [Book.account, ha]
    rw [Adjustment.apply, hb]
    exact fun h => by cases h
  | some x =>
    rw [Adjustment.apply_of_see (Book.account_of_get? ha), Account.add]
    split
    · exact fun h => by cases h
    · split <;> exact fun h => by cases h

namespace Bank

variable {b₀ b : Bank} {u : Int} {d : Draft}

theorem waited_of_ne {α : Type} {r : Except StoreError α} (h : ∀ k, r ≠ .error (.lockTimeout k)) (b : Bank) :
    b.waited r = [] := by
  unfold waited
  split
  · exact absurd rfl (h _)
  · rfl

theorem waited_error {α β : Type} (b : Bank) (e : StoreError) :
    b.waited (.error e : Except StoreError α) = b.waited (.error e : Except StoreError β) := by
  cases e <;> rfl

theorem InUnit.writeTransferIn (h : b₀.InUnit u d b) (hd : d.accounts = .empty) {o : Order}
    (ho : 0 < o.amount) :
    (∃ e, o.missing? b₀.store.book = some e ∧
      (writeTransferIn u o.source o.target o.amount).run.run b = ⟨[], .error e, b⟩) ∨
    o.missing? b₀.store.book = none ∧ ∃ t b',
      (writeTransferIn u o.source o.target o.amount).run.run b = ⟨[], .ok t, b'⟩ ∧
        b₀.InUnit u { d with transfers := d.transfers ++ [t] } b' := by
  rw [← h.book]
  rcases Store.stageTransfer_of_unstaged h.draft hd ho with ⟨e, hm, heq⟩ | ⟨hm, t, heq, -⟩
  · exact .inl ⟨e, hm, staging_alone h.faults _ heq⟩
  · exact .inr ⟨hm, t, _, staging_alone h.faults _ heq, h.setDraft rfl rfl rfl rfl⟩

theorem InUnit.writeEntryIn (h : b₀.InUnit u d b) (hd : d.accounts = .empty) {account : Int}
    (ha : b₀.store.book.accounts.contains account = true) (amount : Int) :
    ∃ e b', (writeEntryIn u account amount).run.run b = ⟨[], .ok e, b'⟩ ∧
      b₀.InUnit u { d with entries := d.entries ++ [e] } b' := by
  rcases Store.stageEntry_of_unstaged h.draft hd account amount with ⟨hno, -⟩ | ⟨-, e, heq, -⟩
  · rw [h.book, ha] at hno
    cases hno
  · exact ⟨e, _, staging_alone h.faults _ heq, h.setDraft rfl rfl rfl rfl⟩

/-- An adjustment is made to the account as it can be reached. -/
theorem InUnit.adjustIn (h : b₀.InUnit u d b) (hu : b₀.store.drafts.get? u = none) {a : Adjustment}
    (overdraft : Bool) (hk : a.account ∉ d.locks) (hd : d.accounts.get? a.account = none) :
    ∃ d' b', (adjustIn u a.account a.delta (decide (a.delta < 0) && !overdraft)).run.run b =
        ⟨b'.waited (a.apply overdraft b₀.store.reach), a.apply overdraft b₀.store.reach, b'⟩ ∧
      b₀.InUnit u d' b' ∧ ∀ x, a.apply overdraft b₀.store.reach = .ok x →
        d' = { d with locks := a.account :: d.locks, accounts := d.accounts.put x.id x } := by
  unfold Bank.adjustIn
  rw [Attempt.run_bind_ok (pass_alone h.faults _)]
  by_cases hfree : b₀.store.Free none a.account
  · have hreach : a.apply overdraft b₀.store.reach = a.apply overdraft b₀.store.book.account :=
      Adjustment.apply_congr (if_pos hfree)
    rw [hreach, Attempt.run_bind_ok
      ((lockRow_alone _ _ b).trans (if_pos ((h.free_iff hu hk).2 hfree)))]
    have hlock : b.store.lock u a.account =
        b.store.setDraft u { d with locks := a.account :: d.locks } := by
      simp only [Store.lock, Store.draft_eq h.draft, if_neg hk]
    have h₁ : b₀.InUnit u { d with locks := a.account :: d.locks }
        { b with store := b.store.lock u a.account } := by
      rw [hlock]
      exact h.setDraft rfl rfl rfl rfl
    have hadjust : (b.store.lock u a.account).adjust u a.account a.delta
        (decide (a.delta < 0) && !overdraft) = _ := Store.adjust_of_unstaged h₁.draft hd
    rw [h₁.book] at hadjust
    cases hx : a.apply overdraft b₀.store.book.account with
    | error e =>
      rw [hx] at hadjust
      refine ⟨_, _, ?_, h₁, fun x hx => by cases hx⟩
      have hne : ∀ k, (.error e : Except StoreError Account) ≠ .error (.lockTimeout k) := fun k hk =>
        a.apply_ne_lockTimeout overdraft b₀.store.book k (hx.trans hk)
      rw [waited_of_ne hne]
      exact Attempt.run_store hadjust
    | ok x =>
      rw [hx] at hadjust
      refine ⟨_, _, ?_, h₁.setDraft rfl rfl rfl rfl, fun y hy => by cases hy; rfl⟩
      exact Attempt.run_store hadjust
  · have hreach : a.apply overdraft b₀.store.reach = .error (.lockTimeout a.account) := by
      rw [Adjustment.apply, Store.reach, if_neg hfree]
      rfl
    refine ⟨d, b, ?_, h, fun x hx => by rw [hreach] at hx; cases hx⟩
    rw [hreach]
    exact Attempt.run_bind_error
      ((lockRow_alone _ _ b).trans (if_neg fun hf => hfree ((h.free_iff hu hk).1 hf))) _

end Bank

namespace Work

variable {α : Type} {work : Work α} {b b' : Bank} {u : Int}

theorem outcome_alone (deadline : Option Time.Span) {r : Except StoreError α} (h : (work.run u).run.run b = ⟨b'.waited r, r, b'⟩) :
    ((work.outcome deadline u).run b).value = r.mapError (blame deadline b'.store.patience) ∧
      ((work.outcome deadline u).run b).state = b' := by
  replace h : Timed.run (work.run u) b = ⟨b'.waited r, r, b'⟩ := h
  unfold outcome
  cases deadline with
  | none =>
    rw [Timed.run_bind, h]
    refine ⟨?_, rfl⟩
    cases r with
    | ok a => rfl
    | error e => cases e <;> rfl
  | some limit =>
    rw [Timed.run_bind, Timed.run_within, h]
    cases r with
    | ok a => exact ⟨rfl, rfl⟩
    | error e =>
      cases e with
      | lockTimeout k =>
        by_cases hp : b'.store.patience ≤ limit <;>
        · simp only [Bank.waited, Trace.cut?, Except.mapError, blame, hp, if_true, if_false]
          exact ⟨rfl, rfl⟩
      | _ => exact ⟨rfl, rfl⟩

theorem execute_refused (deadline : Option Time.Span) {e : StoreError}
    (hr : b.refusal? .opening none = some e) :
    ((work.execute deadline).run.run b).value = .error (.opening e) := by
  have hbegin : (Bank.beginUnit.mapError .opening : Attempt WorkError Int).run.run b =
      ⟨[], .error (.opening e), b⟩ := by
    rw [Attempt.run_mapError]
    unfold Bank.beginUnit
    rw [Attempt.run_bind_error ((Bank.receive_alone _ _ b).trans (by rw [hr]))]
    rfl
  unfold execute
  rw [Attempt.run_bind_error hbegin]

/-- Work that is alone comes to what its steps come to, if its unit can be opened and committed. -/
theorem execute_alone (deadline : Option Time.Span) {r : Except StoreError α} (hf : b.store.faults = .none)
    (hr : b.refusal? .opening none = none) (hf' : b'.store.faults = .none)
    (h : (work.run b.store.nextDraft).run.run { b with store := b.store.openDraft.2 } =
      ⟨b'.waited r, r, b'⟩) :
    ((work.execute deadline).run.run b).value = match r with
      | .ok a => ((b'.store.publish b.store.nextDraft).1.mapError .commit).map fun _ => a
      | .error e => .error (blame deadline b'.store.patience e) := by
  have houtcome := outcome_alone deadline h
  have hbegin : (Bank.beginUnit.mapError .opening : Attempt WorkError Int).run.run b =
      ⟨[], .ok b.store.nextDraft, { b with store := b.store.openDraft.2 }⟩ := by
    rw [Attempt.run_mapError, Bank.beginUnit_alone hf hr]
    rfl
  unfold execute
  rw [Attempt.run_bind_ok hbegin, Attempt.sure, ExceptT.run_bind_lift, Timed.value_bind, houtcome.1,
    houtcome.2]
  cases r with
  | ok a =>
    have hcommit : ((Bank.commit b.store.nextDraft).mapError .commit : Attempt WorkError Unit).run.run b' =
        ⟨[], (b'.store.publish b.store.nextDraft).1.mapError .commit,
          { b' with store := (b'.store.publish b.store.nextDraft).2 }⟩ := by
      rw [Attempt.run_mapError, Bank.commit_alone hf']
    dsimp only [Except.mapError]
    cases hp : (b'.store.publish b.store.nextDraft).1 with
    | ok =>
      rw [hp] at hcommit
      rw [Attempt.run_bind_ok hcommit]
      rfl
    | error e =>
      rw [hp] at hcommit
      rw [Attempt.run_bind_error hcommit]
      rfl
  | error e =>
    dsimp only [Except.mapError]
    rw [Attempt.run_sure_bind (Bank.note_alone _ _),
      Attempt.run_sure_bind (m := (Bank.rollback b.store.nextDraft).outcome)
        (Bank.rollback_alone (by exact hf') _)]
    rfl

end Work

namespace Order

variable {o : Order} {u : Int} {b₀ b : Bank}

theorem settle_of_missing {overdraft : Bool} {bk : Book} {see : Int → Except StoreError Account} {e : StoreError}
    (h : o.missing? bk = some e) : o.settle overdraft bk see = .error e := by
  rw [settle, h]

theorem settle_of_present {overdraft : Bool} {bk : Book} {see : Int → Except StoreError Account}
    (h : o.missing? bk = none) : o.settle overdraft bk see = o.adjust overdraft see := by
  rw [settle, h]

/-- The work on an order settles it. -/
theorem work_alone (overdraft : Bool) (hs : b₀.store.Sound) (ho : 0 < o.amount) (hne : o.source ≠ o.target)
    (hu : b₀.store.drafts.get? u = none) (h : b₀.InUnit u .empty b) :
    ∃ d' b' r, ((o.work overdraft).run u).run.run b = ⟨b'.waited r, r, b'⟩ ∧ b₀.InUnit u d' b' ∧
      r.map Receipt.accounts = o.settle overdraft b₀.store.book b₀.store.reach := by
  have hids : ∀ k x, b₀.store.reach k = .ok x → x.id = k := by
    intro k x hx
    unfold Store.reach at hx
    split at hx
    · exact (hs.account (Book.account_eq_ok_iff.1 hx)).1
    · cases hx
  have hpq := adjustments_ne hne
  rw [run_work]
  rcases h.writeTransferIn rfl ho with ⟨e, hm, hrun⟩ | ⟨hm, t, b₁, hrun, h₁⟩
  · obtain ⟨k, rfl⟩ := of_missing?_eq_some hm
    exact ⟨_, b, .error _, Attempt.run_bind_error hrun _, h, (settle_of_missing hm).symm⟩
  rw [Attempt.run_bind_ok hrun, settle_of_present hm]
  obtain ⟨hsource, htarget⟩ := missing?_eq_none_iff.1 hm
  obtain ⟨e, b₂, hrun, h₂⟩ := h₁.writeEntryIn rfl hsource (-o.amount)
  rw [Attempt.run_bind_ok hrun]
  obtain ⟨f, b₃, hrun, h₃⟩ := h₂.writeEntryIn rfl htarget o.amount
  rw [Attempt.run_bind_ok hrun]
  obtain ⟨d₄, b₄, hrun, h₄, hd₄⟩ := h₃.adjustIn hu overdraft (a := o.adjustments.1) List.not_mem_nil rfl
  cases hx : o.adjustments.1.apply overdraft b₀.store.reach with
  | error err =>
    rw [hx] at hrun
    rw [Bank.waited_error] at hrun
    exact ⟨d₄, b₄, .error err, Attempt.run_bind_error hrun _, h₄, (adjust_of_first_error hx).symm⟩
  | ok x =>
    rw [hx] at hrun
    rw [Attempt.run_bind_ok hrun]
    obtain rfl := hd₄ x hx
    have hxid := Adjustment.id_of_apply_ok hids hx
    obtain ⟨d₅, b₅, hrun, h₅, -⟩ := h₄.adjustIn hu overdraft (a := o.adjustments.2)
      (fun hmem => hpq (List.mem_singleton.1 hmem).symm)
      ((Table.get?_put _ _ _ _).trans (if_neg fun hid => hpq (hxid.symm.trans hid)))
    cases hy : o.adjustments.2.apply overdraft b₀.store.reach with
    | error err =>
      rw [hy] at hrun
      rw [Bank.waited_error] at hrun
      exact ⟨d₅, b₅, .error err, Attempt.run_bind_error hrun _, h₅, (adjust_of_second_error hx hy).symm⟩
    | ok y =>
      rw [hy] at hrun
      refine ⟨d₅, b₅, .ok (o.receipt t e f x y), Attempt.run_bind_ok hrun _, h₅, ?_⟩
      rw [adjust_of_ok hx hy]
      unfold receipt
      split <;> rfl

/-- An order that is alone comes to what is foretold. -/
theorem execute_alone {terms : Terms} (hs : b.store.Sound) (hf : b.store.faults = .none) :
    ((o.execute terms).outcome.run b).value.map Receipt.accounts = o.foretell terms b := by
  -- what it cannot come to is known from the rules that it keeps to
  have hends : ∃ g, o.Ends g ((o.execute terms).outcome.run b).value := by
    obtain ⟨g, hg, -⟩ := (o.follows_execute_sound terms b).path (J := fun b => b.store.Sound)
      (fun _ _ h => Conduct.others_refl h) (fun _ _ _ _ _ h => h.1) (Timed.path_run _ b) hs
    exact ⟨g, hg⟩
  unfold foretell
  rcases hproper : o.improper? with _ | e
  swap
  · rw [execute_of_improper hproper]
    rfl
  obtain ⟨ho, hne⟩ := improper?_eq_none_iff.1 hproper
  have hvalue : ((o.execute terms).outcome.run b).value =
      (((o.work terms.overdraft).execute terms.deadline).run.run b).value.mapError .work := by
    rw [execute_of_proper hproper]
    show (Timed.run (ExceptT.run (_ >>= _)) b).value = _
    rw [ExceptT.run_bind, Timed.value_bind, Attempt.run_mapError]
    cases (((o.work terms.overdraft).execute terms.deadline).run.run b).value <;> rfl
  rw [hvalue] at hends ⊢
  cases hr : b.refusal? .opening none with
  | some e => rw [Work.execute_refused terms.deadline hr]; rfl
  | none =>
    have hu := hs.get?_eq_none_of_le (Int.le_refl _)
    obtain ⟨d', b', r, hrun, h', hsettle⟩ := work_alone terms.overdraft hs ho hne hu (Bank.InUnit.openDraft hf)
    have hexec := Work.execute_alone terms.deadline hf hr h'.faults hrun
    rw [hexec] at hends ⊢
    dsimp only
    rw [← hsettle]
    cases r with
    | error e => rw [h'.patience]; rfl
    | ok r =>
      dsimp only at hends ⊢
      unfold Store.publish at hends ⊢
      dsimp only at hends ⊢
      split
      · rename_i x hx
        rw [hx] at hends
        obtain ⟨g, hg⟩ := hends
        cases hg with
        | improper h => exact absurd (hproper.symm.trans h) (by rintro ⟨⟩)
        | failed _ _ hknown => exact absurd trivial hknown
      · rfl

end Order

end Teller
