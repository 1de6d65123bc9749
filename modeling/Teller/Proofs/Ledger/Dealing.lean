import Teller.Holder
import Teller.Proofs.Bank.Mute
import Teller.Proofs.Transfer.Guard

/-!
# Dealings with the book

What the calls of principals do to the book, for all of them together (`Book.Deals`): pay from an account,
open one or remove one, and only accounts that are the caller's. Each call does so at most once, announces
it if it does, and then succeeds; a call that fails has left the book alone (`Progress.Settles`).
-/

namespace Teller

/-- Exactly the rows of a receipt have been committed: a new transfer, an entry for each account, and the
two accounts, of which nothing but the balance has changed. -/
structure Receipt.Committed (r : Receipt) (b b' : Book) : Prop where
  transfer : b.transfers.get? r.transfer.id = none ∧ b'.transfers = b.transfers.put r.transfer.id r.transfer
  newEntries : b.entries.get? r.sourceEntry.id = none ∧ b.entries.get? r.targetEntry.id = none ∧
    r.sourceEntry.id ≠ r.targetEntry.id
  entries : b'.entries = (b.entries.put r.sourceEntry.id r.sourceEntry).put r.targetEntry.id r.targetEntry
  distinct : r.transfer.source ≠ r.transfer.target
  amount : 0 < r.transfer.amount
  source : ∃ a, b.accounts.get? r.transfer.source = some a ∧
    r.sourceAccount = { a with balance := a.balance - r.transfer.amount }
  target : ∃ a, b.accounts.get? r.transfer.target = some a ∧
    r.targetAccount = { a with balance := a.balance + r.transfer.amount }
  accounts : b'.accounts =
    (b.accounts.put r.transfer.source r.sourceAccount).put r.transfer.target r.targetAccount
  sourceEntry : r.sourceEntry.account = r.transfer.source ∧ r.sourceEntry.amount = -r.transfer.amount
  targetEntry : r.targetEntry.account = r.transfer.target ∧ r.targetEntry.amount = r.transfer.amount

theorem Order.Posts.committed {o : Order} {overdraft : Bool} {r : Receipt} {b b' : Book}
    (h : o.Posts overdraft r b b') (hb : ∀ {k a}, b.accounts.get? k = some a → a.id = k) : r.Committed b b' := by
  obtain ⟨⟨hsource, htarget, hamount⟩, hentry, hentry'⟩ := h.records
  obtain ⟨x, y, hx, hy, hrx, hry⟩ := h.accounts hb
  obtain ⟨hxid, hyid⟩ := h.ids hb
  have hbook := h.book
  constructor
  case transfer => exact ⟨h.newTransfer, by rw [hbook, Book.post]⟩
  case newEntries => exact h.newEntries
  case entries => rw [hbook, Book.post]
  case distinct =>
    rw [hsource, htarget]
    exact h.distinct
  case amount =>
    rw [hamount]
    exact h.amount
  case source =>
    rw [hsource, hamount, hrx]
    exact ⟨x, hx, by rw [Int.sub_eq_add_neg]⟩
  case target =>
    rw [htarget, hamount, hry]
    exact ⟨y, hy, rfl⟩
  case accounts => rw [hbook, Book.post, hsource, htarget, hxid, hyid]
  case sourceEntry =>
    rw [hsource, hamount]
    exact hentry
  case targetEntry =>
    rw [htarget, hamount]
    exact hentry'

/-- What a call does to the book; `mine` are the accounts that the caller may pay from, open and remove. -/
def Book.Deals (mine : Account → Prop) (overdraft : Bool) : Verdict → Book → Book → Prop
  | .posted r, b, b' => ∃ o a, Order.Posts o overdraft r b b' ∧ b.accounts.get? o.source = some a ∧ mine a
  | .opened a, b, b' => b.Opens 0 a b' ∧ mine a
  | .removed id, b, b' => b.Removes id b' ∧ ∃ a, b.accounts.get? id = some a ∧ mine a
  | .failed _, b, b' => b' = b

/-- What a call that deals with the book may do. -/
def Conduct.dealing (mine : Account → Prop) (overdraft : Bool) : Conduct Verdict :=
  ⟨Store.Sound, fun x b b' => Book.Deals mine overdraft x b.store.book b'.store.book, Stage.Idle⟩

/-- A call has ended: it has done what its result stands for and has said so, or it has failed and done
nothing. -/
inductive Progress.Settles {ε α : Type} (verdict : α → Verdict) : Progress → Except ε α → Prop
  | ok (a : α) : Settles verdict ⟨⟨none, some (verdict a)⟩, true⟩ (.ok a)
  | error {p : Progress} {e : ε} (hidle : p.stage.Idle) (hunit : p.stage.unit = none) :
    Settles verdict p (.error e)

variable {mine mine' : Account → Prop} {overdraft : Bool} {b : Bank}

theorem Progress.settles_start {ε α : Type} {verdict : α → Verdict} {e : ε} :
    Progress.start.Settles verdict (.error e) :=
  .error (Stage.idle_of_none rfl) rfl

theorem Book.Deals.mono {x : Verdict} {b b' : Book} (hmine : ∀ a, mine a → mine' a)
    (h : Book.Deals mine overdraft x b b') : Book.Deals mine' overdraft x b b' := by
  cases x with
  | posted r =>
    obtain ⟨o, a, hp, ha, hm⟩ := h
    exact ⟨o, a, hp, ha, hmine a hm⟩
  | opened a => exact ⟨h.1, hmine a h.2⟩
  | removed id =>
    obtain ⟨hr, a, ha, hm⟩ := h
    exact ⟨hr, a, ha, hmine a hm⟩
  | failed cause => exact h

/-- What is the caller's may be more than what the call needs. -/
theorem Conduct.dealing_mono {α : Type} {m : Act α} {Q : Progress → α → Bank → Prop} {p : Progress}
    (hmine : ∀ a, mine a → mine' a) (h : m.Follows (Conduct.dealing mine overdraft).telling Q p b) :
    m.Follows (Conduct.dealing mine' overdraft).telling Q p b := by
  refine (h.simulate (S := Eq) ?_ ?_ ?_ rfl).mono ?_
  · rintro p _ s t rfl ht
    exact ht
  · rintro p _ s p' t rfl ⟨hinv, htelling⟩
    exact ⟨p', ⟨hinv, htelling.mono fun x hx => hx.mono hmine⟩, rfl⟩
  · rintro p _ rfl hidle
    exact hidle
  · rintro p a t ⟨_, rfl, hQ⟩
    exact hQ

/-! ### Calls that nobody interferes with -/

/-- What a call has done to the book so far, by its verdict. -/
def Stage.Dealt (mine : Account → Prop) (overdraft : Bool) (g : Stage Verdict) (b b' : Book) : Prop :=
  match g.verdict with
  | none => b' = b
  | some x => Book.Deals mine overdraft x b b'

namespace Stage.Dealt

variable {g g' : Stage Verdict} {b₀ b' : Bank}

theorem book_of_idle {k k' : Book} (h : g.Dealt mine overdraft k k') (hg : g.Idle) : k' = k := by
  unfold Dealt at h
  cases hx : g.verdict with
  | none =>
    rw [hx] at h
    exact h
  | some x =>
    obtain ⟨cause, rfl⟩ := hg x hx
    rw [hx] at h
    exact h

theorem turn (h : g.Dealt mine overdraft b₀.store.book b.store.book)
    (ht : Turn (Conduct.dealing mine overdraft).effect g b g' b') :
    g'.Dealt mine overdraft b₀.store.book b'.store.book := by
  rcases ht.quiet_or_effect with ⟨hquiet, hv⟩ | ⟨x, hnone, hx, heffect⟩
  · rw [Dealt, hv, hquiet.book]
    exact h
  · -- there was no verdict before, so the book was still the first one
    have hbook := h.book_of_idle (Stage.idle_of_none hnone)
    rw [Dealt, hx, ← hbook]
    exact heffect

end Stage.Dealt

/-- What a call that nobody interferes with has done to the book is what its verdict says. -/
theorem Conduct.dealt_of_path {α : Type} {m n : Act α} {Q : Progress → α → Bank → Prop} {b' : Bank}
    (h : m.Follows (Conduct.dealing mine overdraft).telling Q .start b) (hs : b.store.Sound)
    (hp : Timed.Path m b n b') : ∃ p, n.Follows (Conduct.dealing mine overdraft).telling Q p b' ∧
      p.stage.Dealt mine overdraft b.store.book b'.store.book := by
  have hrefl : ∀ p t, t.store.Sound → (Conduct.dealing mine overdraft).telling.others p t t :=
    fun p _ hs => Conduct.others_refl (C := Conduct.dealing mine overdraft) (g := p.stage) hs
  have hsound : ∀ p t p' t', t.store.Sound → (Conduct.dealing mine overdraft).telling.own p t p' t' →
      t'.store.Sound := fun _ _ _ _ _ hown => hown.1
  obtain ⟨p, hn, hreach, -⟩ := Timed.Follows.path hrefl hsound hp h hs
  refine ⟨p, hn, ?_⟩
  suffices hall : ∀ y, (Conduct.dealing mine overdraft).telling.Reaches (.start, b) y →
      y.1.stage.Dealt mine overdraft b.store.book y.2.store.book from hall _ hreach
  intro y hy
  induction hy with
  | refl => exact rfl
  | tail _ hown ih => exact ih.turn hown.2.turn

/-! ### Orders -/

namespace Order

variable {o : Order} {terms : Terms}

/-- The verdict on an order is a dealing of whoever owns the account that pays. -/
theorem effect_deals {x : Verdict} {b b' : Bank} (hs : b.store.Sound) (hx : o.effect Store.Sound overdraft x b b')
    (hmine : ∀ a, b.store.book.accounts.get? o.source = some a → b.store.book.accounts.contains o.target = true →
      mine a) : Book.Deals mine overdraft x b.store.book b'.store.book := by
  cases x with
  | posted r =>
    obtain ⟨a, a', hsource, htarget, -⟩ := hx.1.accounts fun ha => (hs.account ha).1
    exact ⟨o, a, hx.1, hsource, hmine a hsource (Table.contains_iff.2 ⟨a', htarget⟩)⟩
  | failed cause => exact congrArg (·.store.book) hx.1
  | opened a => exact hx.elim
  | removed id => exact hx.elim

/-- The execution of an order, with its announcement. -/
theorem telling_execute (o : Order) (terms : Terms) (b : Bank) :
    (o.execute terms).outcome.Follows (o.conduct Store.Sound terms.overdraft).telling
      (fun p r _ => p.Settles .posted r) .start b := by
  rcases hproper : o.improper? with _ | e
  swap
  · rw [execute_of_improper hproper]
    exact Progress.settles_start
  show Timed.Follows _ _ (ExceptT.run (o.execute terms)) _ _
  rw [execute_of_proper hproper]
  have hunit : (((o.work terms.overdraft).execute terms.deadline).mapError TransferError.work).run.Follows
      (o.conduct Store.Sound terms.overdraft).rules (fun g r _ => o.Ends g r) .start b :=
    o.follows_unit Store.Sound.invariant (fun hs hm _ => hm.sound hs) hproper b
  -- the announcement names what the order asks for, and so do the records of its receipt
  have hrecords := Conduct.follows_verdict (V := fun x => ∀ r, x = .posted r → o.Records r)
    (fun {x t t'} hx r hr => by rw [hr] at hx; exact hx.1.records) (by rintro x ⟨⟩) hunit
  have hmute := Attempt.mute_mapError (Work.mute_execute terms.deadline (o.work terms.overdraft))
    TransferError.work
  refine Attempt.follows_bind.2 ((Conduct.telling_of_mute false hrecords hmute).mono ?_)
  rintro ⟨g, _⟩ r t ⟨rfl, ⟨hends, hverdict⟩, -⟩
  cases r with
  | error e => exact .error hends.idle hends.unit
  | ok r =>
    obtain rfl : g = ⟨none, some (.posted r)⟩ := by
      cases hends
      rfl
    obtain ⟨⟨hsource, htarget, hamount⟩, -⟩ := hverdict _ rfl r rfl
    rw [← hsource, ← htarget, ← hamount]
    exact Attempt.follows_sure_bind.2 (Conduct.follows_tell rfl (.posted r) fun t' => .ok r)

/-- Whoever carries out an order without the guard may pay from any account. -/
theorem telling_dealing (o : Order) (terms : Terms) (hs : b.store.Sound) :
    (o.execute terms).outcome.Follows (Conduct.dealing (fun _ => True) terms.overdraft).telling
      (fun p r _ => p.Settles .posted r) .start b :=
  Conduct.telling_narrow (K := fun _ => True) hs trivial (fun _ _ => trivial)
    (fun hs _ hx => effect_deals hs hx fun _ _ _ => trivial) (o.telling_execute terms b)

end Order

/-! ### Requests for transfers -/

namespace TransferRequest

theorem looks_accountIn (currency : Currency) (id : Int) : (accountIn currency id).run.Looks := by
  refine Attempt.looks_bind (Attempt.looks_mapError (Bank.looks_account id) _) fun a => ?_
  show Timed.Looks (ExceptT.run (if a.currency ≠ currency then _ else _))
  split <;> trivial

theorem looks_check (r : TransferRequest) : r.check.run.Looks := by
  unfold check
  dsimp only
  split
  · trivial
  cases Currency.ofCode? r.currency with
  | none => trivial
  | some c =>
    show Timed.Looks (ExceptT.run (if r.source = r.target then _ else _))
    split
    · trivial
    refine Attempt.looks_bind (looks_accountIn c r.source) fun a => ?_
    show Timed.Looks (ExceptT.run (if a.owner ≠ r.principal then _ else _))
    split
    · trivial
    · exact Attempt.looks_bind (looks_accountIn c r.target) fun _ => trivial

/-- A principal pays only from an account of their own. -/
theorem telling_submit (r : TransferRequest) (terms : Terms) (b : Bank) :
    (r.submit terms).outcome.Follows (Conduct.dealing (·.owner = r.principal) terms.overdraft).telling
      (fun p x _ => p.Settles .posted x) .start b := by
  have hcheck := Conduct.follows_check (C := Conduct.dealing (·.owner = r.principal) terms.overdraft)
    (g := .start) (b := b) (r := r) (Q := fun g x t => g = .start ∧ ∀ o, x = .ok o →
      t.store.Sound ∧ r.Vetted t.store ∧ o = r.order) (fun e t => ⟨rfl, by rintro o ⟨⟩⟩)
    fun t hs hr => ⟨rfl, fun o ho => ⟨hs, hr, (Except.ok.inj ho).symm⟩⟩
  unfold submit
  refine Attempt.follows_bind.2 ((Conduct.telling_of_mute false hcheck r.looks_check.mute).mono ?_)
  rintro ⟨g, _⟩ x t ⟨rfl, ⟨rfl, hx⟩, -⟩
  cases x with
  | error e => exact Progress.settles_start
  | ok o =>
    obtain ⟨hs, hr, rfl⟩ := hx o rfl
    have hexecute : (r.order.execute terms).outcome.Follows
        (Conduct.dealing (·.owner = r.principal) terms.overdraft).telling
        (fun p x _ => p.Settles .posted x) .start t := by
      refine Conduct.telling_narrow (K := r.Vetted) hs hr (fun hv hlater => hv.later hlater) ?_
        (r.order.telling_execute terms t)
      -- the guard's findings still hold when the order is carried out
      intro x t t' hs hv hx
      refine Order.effect_deals hs hx fun a hsource htarget => ?_
      obtain ⟨a', htarget⟩ := Table.contains_iff.1 htarget
      obtain ⟨y, hy, howner, -⟩ := (hv.admitted hsource htarget).source
      obtain rfl := Option.some.inj (hsource.symm.trans hy)
      exact howner
    refine Attempt.follows_sure_bind.2 (hexecute.mono ?_)
    rintro p x t' hp
    cases hp with
    | ok receipt => exact .ok receipt
    | @error p e hidle hunit =>
      refine Attempt.follows_sure_bind.2 ((Conduct.telling_of_looks hidle
        (Bank.looks_note rfl (by rintro c ⟨⟩))).mono ?_)
      rintro p' _ t'' ⟨rfl, -⟩
      exact .error hidle hunit

end TransferRequest

/-! ### Accounts of holders -/

namespace Holder

/-- A holder opens an account of their own. -/
theorem telling_openAccount (owner currency : String) (overdraft : Bool) (b : Bank) :
    (openAccount owner currency).outcome.Follows
      (Conduct.dealing (·.owner = Text.trim owner) overdraft).telling
      (fun p r _ => p.Settles .opened r) .start b := by
  show Timed.Follows _ _ (ExceptT.run (openAccount owner currency)) _ _
  unfold openAccount
  dsimp only
  split
  · exact Progress.settles_start
  cases Currency.ofCode? currency with
  | none => exact Progress.settles_start
  | some c =>
    dsimp only
    rw [pure_bind]
    have hopening : (Bank.createAccount (Text.trim owner) 0 c).run.Follows
        (Conduct.dealing (·.owner = Text.trim owner) overdraft).rules
        (fun g r _ => (∃ a, r = .ok a ∧ g = ⟨none, some (.opened a)⟩ ∧ a.IsOf (Text.trim owner) c) ∨
          ∃ e, r = .error e ∧ g = ⟨none, none⟩) ⟨none, none⟩ b :=
      Conduct.follows_opening (fun a t t' ha ho _ => ⟨ho, ha.1⟩) (fun e t => .inr ⟨e, rfl, rfl⟩)
        fun a t ha => .inl ⟨a, rfl, rfl, ha⟩
    have hmute := Bank.mute_createAccount (Text.trim owner) 0 c
    refine Attempt.follows_bind.2 (Attempt.follows_mapError.2
      ((Conduct.telling_of_mute false hopening hmute).mono ?_))
    rintro ⟨g, _⟩ r t ⟨rfl, ⟨a, rfl, rfl, howner, hcurrency⟩ | ⟨e, rfl, rfl⟩, -⟩
    · rw [← howner, ← hcurrency]
      exact Attempt.follows_sure_bind.2 (Conduct.follows_tell rfl (.opened a) fun t' => .ok a)
    · exact Progress.settles_start

theorem looks_account (owner : String) (id : Int) : (account owner id).run.Looks := by
  refine Attempt.looks_bind (Attempt.looks_mapError (Bank.looks_account id) _) fun a => ?_
  show Timed.Looks (ExceptT.run (if a.owner ≠ owner then _ else _))
  split <;> trivial

theorem follows_account (owner : String) (id : Int) (C : Conduct Verdict) (b : Bank) :
    (account owner id).run.Follows C.rules
      (fun g r t => g = .start ∧ ∀ a, r = .ok a → t.store.book.accounts.get? id = some a ∧ a.owner = owner)
      .start b := by
  unfold account
  refine Attempt.follows_bind.2 (Attempt.follows_mapError.2 (Conduct.follows_account fun r t _ hr => ?_))
  cases r with
  | error e => exact ⟨rfl, by rintro a ⟨⟩⟩
  | ok a =>
    show Timed.Follows _ _ (ExceptT.run (if a.owner ≠ owner then _ else _)) _ _
    by_cases howner : a.owner = owner
    · rw [if_neg (not_not_intro howner)]
      refine ⟨rfl, fun a' ha' => ?_⟩
      cases ha'
      exact ⟨Book.account_eq_ok_iff.1 (hr a rfl), howner⟩
    · rw [if_pos howner]
      exact ⟨rfl, by rintro a' ⟨⟩⟩

/-- A holder removes only an account of their own: it was theirs when it was read, and owners never
change. -/
theorem telling_deleteAccount (owner : String) (id : Int) (overdraft : Bool) (b : Bank) :
    (deleteAccount owner id).outcome.Follows (Conduct.dealing (·.owner = owner) overdraft).telling
      (fun p r _ => p.Settles (fun _ => .removed id) r) .start b := by
  have haccount := follows_account owner id (Conduct.dealing (·.owner = owner) overdraft) b
  unfold deleteAccount
  refine Attempt.follows_bind.2
    ((Conduct.telling_of_mute false haccount (looks_account owner id).mute).mono ?_)
  rintro ⟨g, _⟩ r t ⟨rfl, ⟨rfl, hr⟩, -⟩
  cases r with
  | error e => exact Progress.settles_start
  | ok a =>
    obtain ⟨ha, howner⟩ := hr a rfl
    have hremoval : (Bank.deleteAccount id).run.Follows (Conduct.dealing (·.owner = owner) overdraft).rules
        (fun g r _ => match r with
          | .ok _ => g = ⟨none, some (.removed id)⟩
          | .error _ => g = ⟨none, none⟩) ⟨none, none⟩ t := by
      refine Conduct.follows_removal ?_ (fun e t => rfl) fun t => rfl
      intro a' s s' hs ha' hremoves _ _
      obtain ⟨n, rfl⟩ := (hs.precedes.account ha).get? ha'
      exact ⟨hremoves, _, ha', howner⟩
    refine Attempt.follows_bind.2 (Attempt.follows_mapError.2
      ((Conduct.telling_of_mute false hremoval (Bank.mute_deleteAccount id)).mono ?_))
    rintro ⟨g, _⟩ r t' ⟨rfl, hr, -⟩
    cases r with
    | error e =>
      obtain rfl : g = ⟨none, none⟩ := hr
      exact Progress.settles_start
    | ok u =>
      obtain rfl : g = ⟨none, some (.removed id)⟩ := hr
      exact Attempt.follows_sure.2 (Conduct.follows_tell rfl (.removed id owner) fun t'' => .ok ())

end Holder

end Teller
