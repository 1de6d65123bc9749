import Teller.Proofs.Bank.History
import Teller.Proofs.Ledger.Call

/-!
# Transfers on behalf of principals

Accounts may come and go between the guard's reads and the step that commits the transfer. In that step
both accounts are there nevertheless, in the currency that the request names, and the account that pays
is the principal's.
-/

namespace Teller

variable {b s s' : Bank} {h : List (Happening Call)} {w : Traffic Call Reply} {n : Int}
  {r : TransferRequest} {terms : Terms} {t : Transfer}

/-- An order takes no account away, so a request that was admitted before still is. -/
theorem TransferRequest.Admitted.posts {receipt : Receipt} (h : r.Admitted s.store.book)
    (hs : s.store.Sound) (hlater : s.store.Precedes s'.store)
    (hp : r.order.Posts terms.overdraft receipt s.store.book s'.store.book) : r.Admitted s'.store.book := by
  have hkept : ∀ {k a}, s.store.book.accounts.get? k = some a →
      ∃ a', s'.store.book.accounts.get? k = some a' := by
    intro k a ha
    have hcontains := hp.contains (fun ha => (hs.account ha).1) k
    rw [Table.contains_iff.2 ⟨a, ha⟩] at hcontains
    exact Table.contains_iff.1 hcontains
  obtain ⟨a, ha, -⟩ := h.source
  obtain ⟨a', ha', -⟩ := h.target
  obtain ⟨x, hx⟩ := hkept ha
  obtain ⟨y, hy⟩ := hkept ha'
  exact (h.vetted.later hlater).admitted hx hy

/-- The transfer that a request comes to is over the accounts that it names, and when it is committed they
are as the guard wants them, whatever became of them since the guard has looked. -/
theorem guard_holds_at_commit (hb : b.store.Reachable) (hr : Traffic.Run Call.act b h w)
    (hm : .move n (.submit r terms) s s' ∈ h) (ht : t ∈ s'.store.book.transfers.values)
    (hnew : t ∉ s.store.book.transfers.values) :
    (t.source = r.source ∧ t.target = r.target ∧ t.amount = r.amount) ∧
      r.Admitted s.store.book ∧ r.Admitted s'.store.book := by
  obtain ⟨g, g', hs, hturn⟩ := hr.turn Call.kept hb.sound hm
  replace hs : s.store.Sound := hs
  rcases hturn.quiet_or_effect with ⟨hq, -⟩ | ⟨x, -, -, hx⟩
  · rw [hq.book] at ht
    exact absurd ht hnew
  have hadmitted : ∀ receipt, x = .posted receipt → r.Admitted s.store.book := hx.2
  replace hx : r.order.effect Store.Sound terms.overdraft x s s' := hx.1
  cases x with
  | posted receipt =>
    have hp : r.order.Posts terms.overdraft receipt s.store.book s'.store.book := hx.1
    obtain rfl : t = receipt.transfer :=
      (List.mem_cons.1 (hp.transfers_perm.mem_iff.1 ht)).resolve_right hnew
    have hguard := hadmitted receipt rfl
    exact ⟨hp.records.transfer, hguard, hguard.posts hs (hturn.move.precedes hs) hp⟩
  | failed cause =>
    have hbook : s'.store.book = s.store.book := congrArg (·.store.book) hx.1
    rw [hbook] at ht
    exact absurd ht hnew
  | opened a => exact hx.elim
  | removed id => exact hx.elim

/-- An account is opened between the guard's reads and the commit. -/
theorem guarded_while_account_opened : ∃ h w s s', Traffic.Run Call.act ⟨.pair .none, [], []⟩ h w ∧
    .move 1 (.submit ⟨"ann", 1, 2, 30, "CAD"⟩ ⟨false, none⟩) s s' ∈ h ∧
    s.store.book.accounts.size = 3 ∧ s.store.book.transfers.values = [] ∧
    ⟨1, 1, 2, 30, .epoch⟩ ∈ s'.store.book.transfers.values ∧
    (TransferRequest.mk "ann" 1 2 30 "CAD").Admitted s'.store.book := by
  have hr : Traffic.Run Call.act ⟨.pair .none, [], []⟩ [] (.quiet _) := .start
  have hr₁ := (hr.step (.arrival (.createAccount "cid" 5 .cad))).step
    (.arrival (.submit ⟨"ann", 1, 2, 30, "CAD"⟩ ⟨false, none⟩))
  -- the guard has read both accounts in 4 steps
  obtain ⟨h₂, w₂, f₂, hr₂, -, hb₂, hf₂, hc₂, hrest₂, hothers⟩ :=
    hr₁.path (Table.get?_put_self _ 1 _) (Timed.path_ahead 4 _ _)
  have hf : w₂.flights.get? 0 = some ⟨.createAccount "cid" 5 .cad, _, []⟩ := hothers 0 (by decide)
  obtain ⟨h₃, w₃, f₃, hr₃, -, hb₃, hf₃, -, -, hothers'⟩ := hr₂.path hf (Timed.path_run _ _)
  have hf' : w₃.flights.get? 1 = some f₂ := (hothers' 1 (by decide)).trans hf₂
  -- the order is ready to be committed after 25 more
  obtain ⟨h₄, w₄, f₄, hr₄, -, hb₄, hf₄, hc₄, hrest₄, -⟩ := hr₃.path hf' (Timed.path_ahead 25 _ _)
  rw [hb₂] at hb₃
  rw [hrest₂, hb₃] at hb₄ hrest₄
  have hbefore : w₄.bank.store.book.accounts.size = 3 ∧ w₄.bank.store.book.transfers.values = [] := by
    rw [hb₄]
    exact ⟨rfl, rfl⟩
  obtain ⟨m, b', hstep, ht⟩ : ∃ m b', Timed.Step f₄.rest w₄.bank m b' ∧
      b'.store.book.transfers.values = [⟨1, 1, 2, 30, .epoch⟩] := by
    rw [hb₄, hrest₄]
    exact ⟨_, _, .act, rfl⟩
  have hr₅ := hr₄.step (.move hf₄ hstep)
  rw [hc₄, hc₂] at hr₅
  have hnew : (⟨1, 1, 2, 30, .epoch⟩ : Transfer) ∉ w₄.bank.store.book.transfers.values := by
    rw [hbefore.2]
    exact List.not_mem_nil
  have ht' : (⟨1, 1, 2, 30, .epoch⟩ : Transfer) ∈ b'.store.book.transfers.values := by
    rw [ht]
    exact List.mem_cons_self
  have h := guard_holds_at_commit (b := ⟨.pair .none, [], []⟩) (Store.reachable_pair .none) hr₅
    List.mem_cons_self ht' hnew
  exact ⟨_, _, _, _, hr₅, List.mem_cons_self, hbefore.1, hbefore.2, ht', h.2.2⟩

end Teller
