import Teller.Proofs.Bank.Unit
import Teller.Proofs.Store.Gone

/-!
# Requests outside units of work, among others

An account is opened in the step that publishes its draft, at a number that no account has, and
removed in one step, while nobody has its row locked and nothing refers to it. Reads change nothing.
-/

namespace Teller

/-- The book with an account opened in it. -/
structure Book.Opens (balance : Int) (a : Account) (b b' : Book) : Prop where
  balance : a.balance = balance
  newAccount : b.accounts.get? a.id = none
  book : b' = { b with accounts := b.accounts.put a.id a }

/-- The book with an account removed from it. -/
structure Book.Removes (id : Int) (b b' : Book) : Prop where
  unreferenced : ¬ b.Refers id
  book : b' = { b with accounts := b.accounts.erase id }

/-- The step that gives the verdict on the opening or the removal of an account. -/
def Bank.effect (balance : Int) : Verdict → Bank → Bank → Prop
  | .opened a, b, b' => Book.Opens balance a b.store.book b'.store.book ∧ b'.journal = b.journal
  | .removed id, b, b' =>
    Book.Removes id b.store.book b'.store.book ∧ b'.journal = b.journal ∧ b'.store.Gone id
  | _, _, _ => False

/-- What the opening or the removal of an account may do. -/
def Bank.conduct (balance : Int) : Conduct Verdict :=
  ⟨Store.Sound, Bank.effect balance, Stage.Idle⟩

namespace Store

variable {s : Store} {u : Int} {d : Draft} {a : Account}

/-- A staged account is as it was asked for. -/
theorem stageAccount_of_ok (hu : s.drafts.get? u = some .empty) {owner : String} {balance : Int}
    {currency : Currency} (h : (s.stageAccount u owner balance currency).1 = .ok a) :
    a.IsOf owner currency ∧ a.balance = balance ∧
      (s.stageAccount u owner balance currency).2.drafts.get? u =
        some { Draft.empty with accounts := Table.empty.put a.id a } := by
  simp only [stageAccount, draft_eq hu] at h ⊢
  split at h
  · cases h
  · rename_i hfree
    rw [if_neg hfree]
    cases h
    refine ⟨⟨rfl, rfl⟩, rfl, ?_⟩
    rw [setDraft, Table.get?_put_self]
    rfl

/-- Publishing a new account adds it to the book, unless its owner has got another one. -/
theorem publish_account (hs : s.Sound)
    (hu : s.drafts.get? u = some { Draft.empty with accounts := Table.empty.put a.id a }) :
    (∃ e, s.publish u = (.error e, s.discard u)) ∨
      s.book.accounts.get? a.id = none ∧ s.publish u =
        (.ok (), { s.discard u with book := { s.book with accounts := s.book.accounts.put a.id a } }) := by
  simp only [publish, draft_eq hu]
  cases Draft.rival? _ s.book with
  | some x => exact .inl ⟨_, rfl⟩
  | none =>
    refine .inr ⟨?_, rfl⟩
    cases ha : s.book.accounts.get? a.id with
    | none => rfl
    | some x =>
      have := ((hs.draft hu).original (Table.get?_put_self _ _ _) ha).1
      cases this

end Store

namespace Conduct

variable {ν α : Type} {C : Conduct ν} {g : Stage ν} {b : Bank}

/-- An account that is read was committed at that moment. -/
theorem follows_account {Q : Stage ν → Except StoreError Account → Bank → Prop} {id : Int}
    (h : ∀ r t, C.rules.others g b t → (∀ a, r = .ok a → t.store.book.account id = .ok a) → Q g r t) :
    (Bank.account id).run.Follows C.rules Q g b := by
  unfold Bank.account
  rw [Attempt.follows_bind]
  refine follows_receive fun r t ht => ?_
  cases r with
  | error e => exact h _ t ht (by rintro a ⟨⟩)
  | ok => exact follows_read fun t' ht' => h _ t' (others_trans ht ht') fun a ha => ha

/-- An account is opened in one step, or the call fails and nothing came of it. -/
theorem follows_opening {effect : Verdict → Bank → Bank → Prop} {balance : Int} {owner : String}
    {currency : Currency} {Q : Stage Verdict → Except StoreError Account → Bank → Prop}
    (hx : ∀ (a : Account) (t t' : Bank), a.IsOf owner currency →
      Book.Opens balance a t.store.book t'.store.book → t'.journal = t.journal → effect (.opened a) t t')
    (hfail : ∀ e t, Q ⟨none, none⟩ (.error e) t)
    (hok : ∀ a t, a.IsOf owner currency → Q ⟨none, some (.opened a)⟩ (.ok a) t) :
    (Bank.createAccount owner balance currency).run.Follows
      (Conduct.mk Store.Sound effect Stage.Idle).rules Q ⟨none, none⟩ b := by
  have hI : Store.Invariant (Conduct.mk Store.Sound effect Stage.Idle).inv := Store.Sound.invariant
  have hidle : ∀ u, (Conduct.mk Store.Sound effect Stage.Idle).idle ⟨u, none⟩ := fun u =>
    Stage.idle_of_none rfl
  have hundo : ∀ (u : Int) (e : StoreError) (t : Bank), (Bank.undoOpening u e).run.Follows
      (Conduct.mk Store.Sound effect Stage.Idle).rules Q ⟨some u, none⟩ t := by
    intro u e t
    unfold Bank.undoOpening
    refine Attempt.follows_sure_bind.2 (follows_rollback hI (hidle _) fun r t' hr => ?_)
    rcases hr with rfl | rfl
    · exact hfail _ t'
    · exact Attempt.follows_sure_bind.2 (follows_note (by rintro c ⟨⟩) fun t'' _ => hfail _ _)
  unfold Bank.createAccount
  refine Attempt.follows_bind.2 (follows_beginUnit hI (hidle _) (fun u t _ hu => ?_) fun e t => hfail _ t)
  refine Attempt.follows_sure_bind.2 (follows_staging hI (hidle _) rfl hu (fun t₁ ht₁ hd₁ =>
    ⟨.stageAccount hd₁ _ _ _, ?_⟩) fun e t₁ _ _ => hundo u e t₁)
  cases ha : (t₁.store.stageAccount u owner balance currency).1 with
  | error e => exact hundo u e _
  | ok a =>
    obtain ⟨hisOf, hbal, hd⟩ := Store.stageAccount_of_ok hd₁ ha
    refine Attempt.follows_bind.2 (follows_commit hI (hidle _) (fun t₂ ht₂ => ?_) fun t₂ => hfail _ t₂)
    have hd₂ := (ht₂.2 u rfl).draft.trans hd
    rcases Store.publish_account ht₂.1 hd₂ with ⟨e, he⟩ | ⟨hnew, hp⟩
    · refine ⟨⟨none, none⟩, ⟨(Store.Move.publish hd₂).sound ht₂.1, ?_⟩, ?_⟩ <;> rw [he]
      · exact .closing
      · exact hfail _ _
    · have hmove : Store.Move (some u) t₂.store (t₂.store.publish u).2 := .publish hd₂
      refine ⟨⟨none, some (.opened a)⟩, ⟨hmove.sound ht₂.1, .verdict (hx a _ _ hisOf
        ⟨hbal, hnew, by rw [hp]⟩ rfl) hmove (by rw [hp]; rfl) rfl (.inr ⟨rfl, fun k hk => ?_⟩)⟩, ?_⟩
      · obtain rfl := Option.some.inj hk
        rw [hp]
        exact Table.get?_erase_self _ _
      · rw [hp]
        exact hok a _ hisOf

theorem follows_createAccount {balance : Int} {owner : String} {currency : Currency}
    {Q : Stage Verdict → Except StoreError Account → Bank → Prop} (hQ : ∀ x r t, Q ⟨none, x⟩ r t) :
    (Bank.createAccount owner balance currency).run.Follows (Bank.conduct balance).rules Q
      ⟨none, none⟩ b :=
  follows_opening (fun _ _ _ _ ho hj => ⟨ho, hj⟩) (fun _ _ => hQ _ _ _) fun _ _ _ => hQ _ _ _

/-- An account that is there is removed in one step, or the call fails and nothing came of it. -/
theorem follows_removal {effect : Verdict → Bank → Bank → Prop} {id : Int}
    {Q : Stage Verdict → Except StoreError Unit → Bank → Prop}
    (hx : ∀ (a : Account) (t t' : Bank),
      (Conduct.mk Store.Sound effect Stage.Idle).rules.others ⟨none, none⟩ b t →
      t.store.book.accounts.get? id = some a → Book.Removes id t.store.book t'.store.book →
      t'.journal = t.journal → t'.store.Gone id → effect (.removed id) t t')
    (hfail : ∀ e t, Q ⟨none, none⟩ (.error e) t) (hok : ∀ t, Q ⟨none, some (.removed id)⟩ (.ok ()) t) :
    (Bank.deleteAccount id).run.Follows (Conduct.mk Store.Sound effect Stage.Idle).rules Q ⟨none, none⟩ b := by
  unfold Bank.deleteAccount
  rw [Attempt.follows_bind]
  refine follows_receive fun r t ht => ?_
  cases r with
  | error e => exact hfail e t
  | ok =>
    have hI : Store.Invariant (Conduct.mk Store.Sound effect Stage.Idle).inv := Store.Sound.invariant
    have hidle : (Conduct.mk Store.Sound effect Stage.Idle).idle ⟨none, none⟩ := Stage.idle_of_none rfl
    refine (casual hI _).follows_onceFree hidle (fun t' ht' hfree => ?_) fun t' _ => hfail _ t'
    have hmove : Store.Move none t'.store (t'.store.remove id).2 := .remove hfree
    rcases t'.store.remove_cases id with ⟨e, he⟩ | ⟨⟨a, ha⟩, href, hr⟩
    · refine ⟨⟨none, none⟩, ⟨hmove.sound ht'.1, ?_⟩, ?_⟩ <;> rw [he]
      · exact .refl _ t'
      · exact hfail e _
    · have hgone := ht'.1.gone_remove hfree (by rw [hr])
      refine ⟨⟨none, some (.removed id)⟩, ⟨hmove.sound ht'.1, .verdict (hx a _ _ (others_trans ht ht') ha
        ⟨href, by rw [hr]⟩ rfl hgone) hmove (by rw [hr]) rfl (.inl rfl)⟩, ?_⟩
      rw [hr]
      exact hok _

theorem follows_deleteAccount {balance id : Int}
    {Q : Stage Verdict → Except StoreError Unit → Bank → Prop} (hfail : ∀ e t, Q ⟨none, none⟩ (.error e) t)
    (hok : ∀ t, Q ⟨none, some (.removed id)⟩ (.ok ()) t) :
    (Bank.deleteAccount id).run.Follows (Bank.conduct balance).rules Q ⟨none, none⟩ b :=
  follows_removal (fun _ _ _ _ _ hr hj hg => ⟨hr, hj, hg⟩) hfail hok

end Conduct

end Teller
