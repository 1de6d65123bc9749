import Teller.Proofs.Bank.Pool
import Teller.Proofs.Transfer.Execute
import Teller.Transfer.Desk

/-!
# The guard among others

The guard reads the two accounts of a request before the work on it begins, and anything may happen to
them in between. What it found out stays true all the same, of the accounts of these numbers for as
long as there are any (`TransferRequest.Vetted`): owner and currency of an account never change, and no
number is handed out twice. An order is carried out only over accounts that are there, so these are as
the guard wants them (`TransferRequest.Admitted`).
-/

namespace Teller

namespace TransferRequest

def order (r : TransferRequest) : Order :=
  ⟨r.source, r.target, r.amount⟩

/-- Both accounts are there, in the currency of the request, and the one that pays is the principal's. -/
structure Admitted (r : TransferRequest) (b : Book) : Prop where
  source : ∃ a, b.accounts.get? r.source = some a ∧ a.owner = r.principal ∧ a.currency.code = r.currency
  target : ∃ a, b.accounts.get? r.target = some a ∧ a.currency.code = r.currency

/-- Either account is as the guard wants it, unless it is gone. -/
structure Vetted (r : TransferRequest) (s : Store) : Prop where
  source : ∃ a, s.Remembers r.source a ∧ a.owner = r.principal ∧ a.currency.code = r.currency
  target : ∃ a, s.Remembers r.target a ∧ a.currency.code = r.currency

/-- The step that gives the verdict on a request. -/
def effect (r : TransferRequest) (overdraft : Bool) (x : Verdict) (b b' : Bank) : Prop :=
  r.order.effect Store.Sound overdraft x b b' ∧ ∀ receipt, x = .posted receipt → r.Admitted b.store.book

def conduct (r : TransferRequest) (overdraft : Bool) : Conduct Verdict :=
  ⟨Store.Sound, r.effect overdraft, Stage.Idle⟩

variable {r : TransferRequest} {s s' : Store} {a a' : Account} {b : Bank}

theorem Vetted.later (h : r.Vetted s) (hs : s.Precedes s') : r.Vetted s' := by
  obtain ⟨⟨a, ha, hsource⟩, ⟨a', ha', htarget⟩⟩ := h
  exact ⟨⟨a, hs.remembers ha, hsource⟩, ⟨a', hs.remembers ha', htarget⟩⟩

theorem Admitted.vetted (h : r.Admitted s.book) : r.Vetted s := by
  obtain ⟨⟨a, ha, hsource⟩, ⟨a', ha', htarget⟩⟩ := h
  exact ⟨⟨a, .of_get? ha, hsource⟩, ⟨a', .of_get? ha', htarget⟩⟩

theorem Vetted.admitted (h : r.Vetted s) (hsource : s.book.accounts.get? r.source = some a)
    (htarget : s.book.accounts.get? r.target = some a') : r.Admitted s.book := by
  obtain ⟨⟨x, hx, howner, hcurrency⟩, ⟨y, hy, hcurrency'⟩⟩ := h
  obtain ⟨n, rfl⟩ := hx.get? hsource
  obtain ⟨m, rfl⟩ := hy.get? htarget
  exact ⟨⟨_, hsource, howner, hcurrency⟩, ⟨_, htarget, hcurrency'⟩⟩

end TransferRequest

/-! ### The guard's reads -/

namespace Conduct

variable {ν : Type} {C : Conduct ν} {g : Stage ν} {b : Bank}

theorem follows_accountIn {Q : Stage ν → Except TransferError Account → Bank → Prop} {c : Currency}
    {id : Int} (hfail : ∀ e t, Q g (.error e) t)
    (hok : ∀ a t, C.rules.others g b t → t.store.book.accounts.get? id = some a → a.currency = c →
      Q g (.ok a) t) :
    (TransferRequest.accountIn c id).run.Follows C.rules Q g b := by
  unfold TransferRequest.accountIn
  refine Attempt.follows_bind.2 (Attempt.follows_mapError.2 (follows_account fun res t ht hres => ?_))
  cases res with
  | error e => exact hfail _ t
  | ok a =>
    show Timed.Follows C.rules Q (ExceptT.run (if a.currency ≠ c then _ else _)) g t
    by_cases hc : a.currency = c
    · rw [if_neg (not_not_intro hc)]
      exact hok a t ht (Book.account_eq_ok_iff.1 (hres a rfl)) hc
    · rw [if_pos hc]
      exact hfail _ t

/-- A request that passes stands for its order, and its accounts are as the guard wants them. -/
theorem follows_check {r : TransferRequest} {Q : Stage ν → Except TransferError Order → Bank → Prop}
    (hfail : ∀ e t, Q g (.error e) t)
    (hok : ∀ t, C.inv t.store → r.Vetted t.store → Q g (.ok r.order) t) :
    r.check.run.Follows C.rules Q g b := by
  unfold TransferRequest.check
  dsimp only
  by_cases ho : r.amount ≤ 0
  · rw [if_pos ho]; exact hfail _ b
  rw [if_neg ho]
  cases hcode : Currency.ofCode? r.currency with
  | none => exact hfail _ b
  | some c =>
    have hc := Currency.ofCode?_eq_some_iff.1 hcode
    show Timed.Follows C.rules Q (ExceptT.run (if r.source = r.target then _ else _)) g b
    by_cases hne : r.source = r.target
    · rw [if_pos hne]; exact hfail _ b
    rw [if_neg hne]
    refine Attempt.follows_bind.2 (follows_accountIn hfail fun a t ht hsource hac => ?_)
    show Timed.Follows C.rules Q (ExceptT.run (if a.owner ≠ r.principal then _ else _)) g t
    by_cases howner : a.owner = r.principal
    · rw [if_neg (not_not_intro howner)]
      refine Attempt.follows_bind.2 (follows_accountIn hfail fun a' t' ht' htarget hac' => ?_)
      -- the account that pays was read before the other one
      refine hok t' ht'.inv ⟨⟨a, ht'.precedes.account hsource, howner, ?_⟩, ⟨a', .of_get? htarget, ?_⟩⟩
      · rw [hac, hc]
      · rw [hac', hc]
    · rw [if_pos howner]; exact hfail _ t

end Conduct

namespace TransferRequest

variable {b : Bank}

/-- What was found out about the accounts still holds when the order is carried out. -/
theorem follows_execute (r : TransferRequest) (terms : Terms) (hs : b.store.Sound) (hr : r.Vetted b.store) :
    (r.order.execute terms).outcome.Follows (r.conduct terms.overdraft).rules
      (fun g x _ => r.order.Ends g x) .start b := by
  refine (r.order.follows_execute_sound terms b).keeping (K := fun t => t.store.Sound ∧ r.Vetted t.store)
    ⟨hs, hr⟩ ?_ ?_ fun _ hg => hg
  · intro g t t' hk ht
    exact ⟨⟨ht.inv, ht.untouched, ht.precedes⟩, ht.inv, hk.2.later ht.precedes⟩
  · rintro g t g' t' ⟨hs, hr⟩ ⟨hs', hturn⟩
    refine ⟨⟨hs', hturn.mono fun x hx => ⟨hx, ?_⟩⟩, hs', hr.later (hturn.move.precedes hs)⟩
    rintro receipt rfl
    have hp : r.order.Posts terms.overdraft receipt t.store.book t'.store.book := hx.1
    obtain ⟨a, a', hsource, htarget, -⟩ := hp.accounts fun ha => (hs.account ha).1
    exact hr.admitted hsource htarget

theorem follows_submit (r : TransferRequest) (terms : Terms) :
    (r.submit terms).outcome.Follows (r.conduct terms.overdraft).rules (fun g _ _ => g.unit = none)
      .start b := by
  unfold TransferRequest.submit
  refine Attempt.follows_bind.2 (Conduct.follows_check (fun _ _ => rfl) fun t hs hr => ?_)
  refine Attempt.follows_sure_bind.2 ((r.follows_execute terms hs hr).mono ?_)
  intro g res t hends
  cases res with
  | ok receipt => exact hends.unit
  | error e =>
    exact Attempt.follows_sure_bind.2 (Conduct.follows_note (by rintro c ⟨⟩) fun t' _ => hends.unit)

end TransferRequest

end Teller
