import Teller.Proofs.Bank.Floor
import Teller.Proofs.Ledger.Statement

/-!
# No lost updates

Adjustments of a balance add up, whatever units of work make them at the same time. `Tallied` is the
invariant: a committed balance is what was created and settled; a staged one is the committed one, or
the created one if the account is new, and what its unit has added. Publishing a draft turns the second
into the first, and nobody else can have changed the committed balance in between, since its row is
locked.
-/

namespace Teller

/-- The committed balance of an account, or what it was created with if it is not committed. -/
def Store.baseline (s : Store) (h : List Answered) (k : Int) : Int :=
  match s.book.accounts.get? k with
  | some a => a.balance
  | none => created h k

/-- The balances are what the history says. -/
structure Tallied (h : List Answered) (s : Store) : Prop where
  /-- Every account that is committed or staged has been created. -/
  accountCreated : ∀ {k a}, s.book.accounts.get? k = some a → ((creations h).lookup k).isSome = true
  stagedCreated : ∀ {u d k a}, s.drafts.get? u = some d → d.accounts.get? k = some a →
    ((creations h).lookup k).isSome = true
  account : ∀ {k a}, s.book.accounts.get? k = some a → a.balance = created h k + settled h k
  staged : ∀ {u d k a}, s.drafts.get? u = some d → d.accounts.get? k = some a →
    a.balance = s.baseline h k + added h u k
  unstaged : ∀ {u d k}, s.drafts.get? u = some d → d.accounts.get? k = none → added h u k = 0
  /-- Nobody has adjusted a new account but the unit of work that created it. -/
  new : ∀ {u d k a}, s.drafts.get? u = some d → d.accounts.get? k = some a →
    s.book.accounts.get? k = none → settled h k = 0
  running : ∀ {u d}, s.drafts.get? u = some d → u ∉ commits h
  /-- Nothing is told of units of work and accounts whose numbers have not been handed out. -/
  nextDraft : ∀ {u}, s.nextDraft ≤ u → u ∉ commits h ∧ ∀ k, added h u k = 0
  nextAccount : ∀ {k}, s.nextAccount ≤ k → settled h k = 0

namespace Tallied

variable {h : List Answered} {s s' : Store} {e : Answered} {u k : Int} {d : Draft}

theorem new_store (patience : Time.Span) (now : Time.Instant) : Tallied [] (.new patience now) where
  accountCreated h := by cases h
  stagedCreated h := by cases h
  account h := by cases h
  staged h := by cases h
  unstaged h := by cases h
  new h := by cases h
  running h := by cases h
  nextDraft _ := ⟨by simp [commits], fun _ => rfl⟩
  nextAccount _ := rfl

theorem neutral (ht : Tallied h s) (he : e.Neutral) : Tallied (e :: h) s := by
  obtain ⟨hcommits, hcreations, hadded, hsettled⟩ := neutral_cons (h := h) he
  have hcreated : created (e :: h) = created h := by
    funext k
    rw [created, created, hcreations]
  have hbase : s.baseline (e :: h) = s.baseline h := by
    funext k
    rw [Store.baseline, Store.baseline, hcreated]
  constructor
  case accountCreated => rw [hcreations]; exact ht.accountCreated
  case stagedCreated => rw [hcreations]; exact ht.stagedCreated
  case account => rw [hcreated, hsettled]; exact ht.account
  case staged => rw [hbase, hadded]; exact ht.staged
  case unstaged => rw [hadded]; exact ht.unstaged
  case new => rw [hsettled]; exact ht.new
  case running => rw [hcommits]; exact ht.running
  case nextDraft => rw [hcommits, hadded]; exact ht.nextDraft
  case nextAccount => rw [hsettled]; exact ht.nextAccount

/-- The book is the same, and no draft has other accounts. -/
theorem of_drafts (ht : Tallied h s) (hbook : s'.book = s.book) (hd : s'.nextDraft = s.nextDraft)
    (ha : s'.nextAccount = s.nextAccount)
    (hdrafts : ∀ {u d'}, s'.drafts.get? u = some d' →
      ∃ d, s.drafts.get? u = some d ∧ d'.accounts = d.accounts) : Tallied h s' := by
  have hbase : s'.baseline h = s.baseline h := by
    funext k
    rw [Store.baseline, Store.baseline, hbook]
  constructor
  case accountCreated => rw [hbook]; exact ht.accountCreated
  case stagedCreated =>
    intro u d' k a hu hk
    obtain ⟨d, hd, heq⟩ := hdrafts hu
    exact ht.stagedCreated hd (heq ▸ hk)
  case account => rw [hbook]; exact ht.account
  case staged =>
    intro u d' k a hu hk
    obtain ⟨d, hd, heq⟩ := hdrafts hu
    rw [hbase]
    exact ht.staged hd (heq ▸ hk)
  case unstaged =>
    intro u d' k hu hk
    obtain ⟨d, hd, heq⟩ := hdrafts hu
    exact ht.unstaged hd (heq ▸ hk)
  case new =>
    intro u d' k a hu hk hnone
    obtain ⟨d, hd, heq⟩ := hdrafts hu
    exact ht.new hd (heq ▸ hk) (hbook ▸ hnone)
  case running =>
    intro u d' hu
    obtain ⟨d, hd, -⟩ := hdrafts hu
    exact ht.running hd
  case nextDraft => rw [hd]; exact ht.nextDraft
  case nextAccount => rw [ha]; exact ht.nextAccount

theorem discard (ht : Tallied h s) (u : Int) : Tallied h (s.discard u) :=
  ht.of_drafts rfl rfl rfl fun {_ d} hv => ⟨d, (Table.get?_erase_eq_some_iff.1 hv).2, rfl⟩

theorem setDraft (ht : Tallied h s) (hu : s.drafts.get? u = some d) {d' : Draft} (hbook : s'.book = s.book)
    (hd : s'.nextDraft = s.nextDraft) (ha : s'.nextAccount = s.nextAccount)
    (hdrafts : s'.drafts = s.drafts.put u d') (hd' : d'.accounts = d.accounts) : Tallied h s' := by
  refine ht.of_drafts hbook hd ha fun {v e} hv => ?_
  rw [hdrafts] at hv
  rcases Table.get?_put_eq_some_iff.1 hv with ⟨rfl, rfl⟩ | ⟨-, hv⟩
  · exact ⟨d, hu, hd'⟩
  · exact ⟨e, hv, rfl⟩

theorem silent {w : Option Int} (ht : Tallied h s) (hs : Store.Silent w s s') : Tallied h s' := by
  cases hs with
  | setting faults now => exact ht.of_drafts rfl rfl rfl fun {u d} hu => ⟨d, hu, rfl⟩
  | lock hu hk =>
    rcases Store.lock_cases hu _ with ⟨-, heq⟩ | ⟨-, heq⟩ <;> rw [heq]
    · exact ht
    · exact ht.setDraft hu rfl rfl rfl rfl rfl
  | discard u => exact ht.discard u

theorem openDraft (ht : Tallied h s) : Tallied h s.openDraft.2 := by
  have hfresh := ht.nextDraft (Int.le_refl _)
  have hget : ∀ {u d}, s.openDraft.2.drafts.get? u = some d →
      (u = s.nextDraft ∧ d = .empty) ∨ s.drafts.get? u = some d := fun hu =>
    (Table.get?_put_eq_some_iff.1 hu).imp_right And.right
  constructor
  case accountCreated => exact ht.accountCreated
  case stagedCreated =>
    intro u d k a hu hk
    rcases hget hu with ⟨-, rfl⟩ | hu
    · cases hk
    · exact ht.stagedCreated hu hk
  case account => exact ht.account
  case staged =>
    intro u d k a hu hk
    rcases hget hu with ⟨-, rfl⟩ | hu
    · cases hk
    · exact ht.staged hu hk
  case unstaged =>
    intro u d k hu hk
    rcases hget hu with ⟨rfl, -⟩ | hu
    · exact hfresh.2 k
    · exact ht.unstaged hu hk
  case new =>
    intro u d k a hu hk hnone
    rcases hget hu with ⟨-, rfl⟩ | hu
    · cases hk
    · exact ht.new hu hk hnone
  case running =>
    intro u d hu
    rcases hget hu with ⟨rfl, -⟩ | hu
    · exact hfresh.1
    · exact ht.running hu
  case nextDraft =>
    intro u hu
    have hle : s.nextDraft + 1 ≤ u := hu
    exact ht.nextDraft (by omega)
  case nextAccount => exact ht.nextAccount

theorem openAccount (hs : s.Sound) (ht : Tallied h s) (hu : s.drafts.get? u = some d) {a : Account}
    (ha : a.id = s.nextAccount) {owner : String} {currency : Currency} :
    Tallied (⟨.openAccount u owner a.balance currency, .account (.ok a), s⟩ :: h)
      ({ s with nextAccount := s.nextAccount + 1 }.setDraft u { d with accounts := d.accounts.put a.id a }) := by
  have hnone := hs.account_new ha
  have hfresh : ∀ {v e}, s.drafts.get? v = some e → e.accounts.get? a.id = none :=
    fun hv => hs.unstaged_new hv ha
  -- what was known of other accounts stays as it is
  have hbase : ∀ {k}, k ≠ a.id →
      Store.baseline s (⟨.openAccount u owner a.balance currency, .account (.ok a), s⟩ :: h) k =
        s.baseline h k := by
    intro k hk
    rw [Store.baseline, Store.baseline, created_openAccount, if_neg hk]
  have hcreated : ∀ {k}, ((creations h).lookup k).isSome = true → ((creations
      (⟨.openAccount u owner a.balance currency, .account (.ok a), s⟩ :: h)).lookup k).isSome = true := by
    intro k hk
    rw [creations_openAccount]
    split
    · rfl
    · exact hk
  constructor
  case accountCreated => exact fun hb => hcreated (ht.accountCreated hb)
  case stagedCreated =>
    intro v e k b hv hb
    rcases Table.get?_put_eq_some_iff.1 hv with ⟨rfl, rfl⟩ | ⟨-, hv⟩
    · rcases Table.get?_put_eq_some_iff.1 hb with ⟨rfl, -⟩ | ⟨-, hb⟩
      · rw [creations_openAccount, if_pos rfl]; rfl
      · exact hcreated (ht.stagedCreated hu hb)
    · exact hcreated (ht.stagedCreated hv hb)
  case account =>
    intro k b hb
    have hk : k ≠ a.id := by rintro rfl; cases hnone.symm.trans hb
    rw [created_openAccount, if_neg hk]
    exact ht.account hb
  case staged =>
    intro v e k b hv hb
    rcases Table.get?_put_eq_some_iff.1 hv with ⟨rfl, rfl⟩ | ⟨-, hv⟩
    · rcases Table.get?_put_eq_some_iff.1 hb with ⟨rfl, rfl⟩ | ⟨hk, hb⟩
      · have hadded : added h v b.id = 0 := ht.unstaged hu (hfresh hu)
        show b.balance = Store.baseline s _ b.id + added h v b.id
        rw [Store.baseline, hnone, hadded]
        simp only [created_openAccount, if_true]
        omega
      · exact (ht.staged hu hb).trans (congrArg (· + _) (hbase hk).symm)
    · have hk : k ≠ a.id := by rintro rfl; cases (hfresh hv).symm.trans hb
      exact (ht.staged hv hb).trans (congrArg (· + _) (hbase hk).symm)
  case unstaged =>
    intro v e k hv hk
    rcases Table.get?_put_eq_some_iff.1 hv with ⟨rfl, rfl⟩ | ⟨-, hv⟩
    · have hk' : k ≠ a.id := by
        rintro rfl
        rw [Table.get?_put_self] at hk
        cases hk
      exact ht.unstaged hu ((Table.get?_put_of_ne hk' a).symm.trans hk)
    · exact ht.unstaged hv hk
  case new =>
    intro v e k b hv hb hk
    rcases Table.get?_put_eq_some_iff.1 hv with ⟨rfl, rfl⟩ | ⟨-, hv⟩
    · rcases Table.get?_put_eq_some_iff.1 hb with ⟨rfl, rfl⟩ | ⟨-, hb⟩
      · exact ht.nextAccount (Int.le_of_eq ha.symm)
      · exact ht.new hu hb hk
    · exact ht.new hv hb hk
  case running =>
    intro v e hv
    rcases Table.get?_put_eq_some_iff.1 hv with ⟨rfl, rfl⟩ | ⟨-, hv⟩
    · exact ht.running hu
    · exact ht.running hv
  case nextDraft => exact ht.nextDraft
  case nextAccount =>
    intro k hk
    have hle : s.nextAccount + 1 ≤ k := hk
    exact ht.nextAccount (by omega)

/-- What a unit of work sees is the baseline and what it has added. -/
theorem seen (ht : Tallied h s) (hu : s.drafts.get? u = some d) {a : Account} (ha : s.seen u k = .ok a) :
    a.balance = s.baseline h k + added h u k := by
  have hseen := Store.seen?_of_seen ha
  rw [Store.seen?_eq hu] at hseen
  cases hk : d.accounts.get? k with
  | some b =>
    rw [hk] at hseen
    cases hseen
    exact ht.staged hu hk
  | none =>
    rw [hk, Option.none_or] at hseen
    rw [Store.baseline, hseen, ht.unstaged hu hk]
    exact (Int.add_zero _).symm

theorem adjust (hs : s.Sound) (ht : Tallied h s) (hu : s.drafts.get? u = some d) {a b : Account}
    {delta : Int} {floor : Bool} (ha : s.seen u k = .ok a)
    (hb : b = { a with balance := a.balance + delta }) :
    Tallied (⟨.adjust u k delta floor, .account (.ok b), s⟩ :: h)
      (s.setDraft u { d with accounts := d.accounts.put b.id b }) := by
  have hid : b.id = k := by rw [hb]; exact (hs.seen hu ha).1
  have hbal : b.balance = s.baseline h k + (delta + added h u k) := by
    have hseen := ht.seen hu ha
    rw [hb]
    show a.balance + delta = _
    omega
  have hsame : ∀ {v j}, (v ≠ u ∨ j ≠ k) →
      added (⟨.adjust u k delta floor, .account (.ok b), s⟩ :: h) v j = added h v j := by
    intro v j hne
    rw [added_adjust, if_neg, Int.zero_add]
    rintro ⟨rfl, rfl⟩
    exact hne.elim (· rfl) (· rfl)
  have hget : ∀ {v e}, (s.setDraft u { d with accounts := d.accounts.put b.id b }).drafts.get? v = some e →
      (v = u ∧ e.accounts = d.accounts.put k b) ∨ v ≠ u ∧ s.drafts.get? v = some e := by
    intro v e hv
    rcases Table.get?_put_eq_some_iff.1 hv with ⟨rfl, rfl⟩ | hv
    · exact .inl ⟨rfl, by rw [hid]⟩
    · exact .inr hv
  have hrunning := ht.running hu
  have hcreated : ((creations h).lookup k).isSome = true := by
    have hseen := Store.seen?_of_seen ha
    rw [Store.seen?_eq hu] at hseen
    rcases Option.or_eq_some_iff.1 hseen with hk | ⟨-, hk⟩
    · exact ht.stagedCreated hu hk
    · exact ht.accountCreated hk
  constructor
  case accountCreated => exact ht.accountCreated
  case stagedCreated =>
    intro v e j c hv hc
    rcases hget hv with ⟨rfl, he⟩ | ⟨-, hv⟩
    · rw [he] at hc
      rcases Table.get?_put_eq_some_iff.1 hc with ⟨rfl, -⟩ | ⟨-, hc⟩
      · exact hcreated
      · exact ht.stagedCreated hu hc
    · exact ht.stagedCreated hv hc
  case account => intro j c hc; rw [settled_adjust hrunning]; exact ht.account hc
  case staged =>
    intro v e j c hv hc
    show c.balance = s.baseline h j + _
    rcases hget hv with ⟨rfl, he⟩ | ⟨hvu, hv⟩
    · rw [he] at hc
      rcases Table.get?_put_eq_some_iff.1 hc with ⟨rfl, rfl⟩ | ⟨hj, hc⟩
      · rw [added_adjust, if_pos ⟨rfl, rfl⟩, hbal]
      · rw [hsame (.inr hj)]
        exact ht.staged hu hc
    · rw [hsame (.inl hvu)]
      exact ht.staged hv hc
  case unstaged =>
    intro v e j hv hj
    rcases hget hv with ⟨rfl, he⟩ | ⟨hvu, hv⟩
    · have hjk : j ≠ k := by
        rintro rfl
        rw [he, Table.get?_put_self] at hj
        cases hj
      rw [he, Table.get?_put_of_ne hjk] at hj
      rw [hsame (.inr hjk)]
      exact ht.unstaged hu hj
    · rw [hsame (.inl hvu)]
      exact ht.unstaged hv hj
  case new =>
    intro v e j c hv hc hbook
    have hnone : s.book.accounts.get? j = none := hbook
    rw [settled_adjust hrunning]
    rcases hget hv with ⟨rfl, he⟩ | ⟨-, hv⟩
    · -- a new account that a unit of work adjusts has been staged by it before
      obtain ⟨c₀, hc₀⟩ : ∃ c₀, d.accounts.get? j = some c₀ := by
        rw [he] at hc
        rcases Table.get?_put_eq_some_iff.1 hc with ⟨rfl, -⟩ | ⟨-, hc⟩
        · have hseen := Store.seen?_of_seen ha
          rw [Store.seen?_eq hu, hnone, Option.or_none] at hseen
          exact ⟨a, hseen⟩
        · exact ⟨c, hc⟩
      exact ht.new hu hc₀ hnone
    · exact ht.new hv hc hnone
  case running =>
    intro v e hv
    rcases hget hv with ⟨rfl, -⟩ | ⟨-, hv⟩
    · exact hrunning
    · exact ht.running hv
  case nextDraft =>
    intro v hv
    have hlt := hs.number hu
    have hle : s.nextDraft ≤ v := hv
    refine ⟨(ht.nextDraft hv).1, fun j => ?_⟩
    rw [hsame (.inl (by omega))]
    exact (ht.nextDraft hv).2 j
  case nextAccount => intro j hj; rw [settled_adjust hrunning]; exact ht.nextAccount hj

/-- What a unit of work has staged is committed, and what it has added is settled. -/
theorem publish (hs : s.Sound) (ht : Tallied h s) (hu : s.drafts.get? u = some d) :
    Tallied (⟨.commit u, .done (.ok ()), s⟩ :: h) { s.discard u with book := d.publish s.book } := by
  have hd := hs.draft hu
  have hrunning := ht.running hu
  have hcommit : ∀ j, settled (⟨.commit u, .done (.ok ()), s⟩ :: h) j = settled h j + added h u j :=
    fun _ => settled_commit hrunning
  have hget : ∀ {v e}, (s.discard u).drafts.get? v = some e → v ≠ u ∧ s.drafts.get? v = some e :=
    Table.get?_erase_eq_some_iff.1
  have hbook : ∀ {j}, d.accounts.get? j = none →
      (d.publish s.book).accounts.get? j = s.book.accounts.get? j := by
    intro j hj
    rw [hd.publish_account, Draft.account?, hj, Option.none_or]
  -- the rows of other units of work are not among those that are published
  have hother : ∀ {v e j c}, (s.discard u).drafts.get? v = some e → e.accounts.get? j = some c →
      d.accounts.get? j = none := fun hv hc =>
    (hs.apart (hget hv).1 (hget hv).2 hu).accounts hc
  constructor
  case accountCreated =>
    intro k a ha
    have hseen := hd.publish_account.symm.trans ha
    rcases Option.or_eq_some_iff.1 hseen with hk | ⟨-, hk⟩
    · exact ht.stagedCreated hu hk
    · exact ht.accountCreated hk
  case stagedCreated => exact fun hv hk => ht.stagedCreated (hget hv).2 hk
  case account =>
    intro k a ha
    rw [hcommit]
    show a.balance = created h k + _
    cases hk : d.accounts.get? k with
    | none =>
      rw [ht.unstaged hu hk, Int.add_zero]
      exact ht.account ((hbook hk).symm.trans ha)
    | some b =>
      have hab : b = a := by
        have ha' := hd.publish_account.symm.trans ha
        rw [Draft.account?, hk] at ha'
        exact Option.some.inj ha'
      have hbal := ht.staged hu hk
      rw [hab, Store.baseline] at hbal
      cases hb : s.book.accounts.get? k with
      | none =>
        have hnew := ht.new hu hk hb
        rw [hb] at hbal
        dsimp only at hbal
        omega
      | some c =>
        have hc := ht.account hb
        rw [hb] at hbal
        dsimp only at hbal
        omega
  case staged =>
    intro v e k a hv hk
    show a.balance = Store.baseline { s.discard u with book := d.publish s.book } h k + added h v k
    rw [Store.baseline, hbook (hother hv hk)]
    exact ht.staged (hget hv).2 hk
  case unstaged => exact fun hv hk => ht.unstaged (hget hv).2 hk
  case new =>
    intro v e k a hv hk hnone
    have hd' := hother hv hk
    rw [hcommit, ht.unstaged hu hd', Int.add_zero]
    exact ht.new (hget hv).2 hk ((hbook hd').symm.trans hnone)
  case running =>
    intro v e hv hmem
    rcases List.mem_cons.1 hmem with rfl | hmem
    · exact (hget hv).1 rfl
    · exact ht.running (hget hv).2 hmem
  case nextDraft =>
    intro v hv
    have hlt := hs.number hu
    have hle : s.nextDraft ≤ v := hv
    obtain ⟨hmem, hadded⟩ := ht.nextDraft hle
    refine ⟨fun hmem' => ?_, hadded⟩
    rcases List.mem_cons.1 hmem' with rfl | hmem'
    · omega
    · exact hmem hmem'
  case nextAccount =>
    intro k hk
    have hnone : d.accounts.get? k = none := by
      refine Option.eq_none_iff_forall_ne_some.2 fun b hb => ?_
      have hlt := (hd.account hb).2
      have hle : s.nextAccount ≤ k := hk
      omega
    rw [hcommit, ht.unstaged hu hnone, Int.add_zero]
    exact ht.nextAccount hk

theorem remove (hs : s.Sound) (ht : Tallied h s) (hfree : s.Free none k) {a₀ : Account}
    (ha₀ : s.book.accounts.get? k = some a₀) :
    Tallied h { s with book := { s.book with accounts := s.book.accounts.erase k } } := by
  have hne : ∀ {v e j c}, s.drafts.get? v = some e → e.accounts.get? j = some c → j ≠ k := by
    rintro v e j c hv hc rfl
    cases hs.free_iff.1 hfree v e hv ((hs.draft hv).original hc ha₀).1
  constructor
  case accountCreated => exact fun hj => ht.accountCreated (Table.get?_erase_eq_some_iff.1 hj).2
  case stagedCreated => exact ht.stagedCreated
  case account => exact fun hj => ht.account (Table.get?_erase_eq_some_iff.1 hj).2
  case staged =>
    intro v e j c hv hc
    rw [Store.baseline]
    dsimp only
    rw [Table.get?_erase_of_ne (hne hv hc)]
    exact ht.staged hv hc
  case unstaged => exact ht.unstaged
  case new =>
    intro v e j c hv hc hnone
    exact ht.new hv hc ((Table.get?_erase_of_ne (hne hv hc)).symm.trans hnone)
  case running => exact ht.running
  case nextDraft => exact ht.nextDraft
  case nextAccount => exact ht.nextAccount

theorem answer (hs : s.Sound) (ht : Tallied h s) {p : Primitive} {x : Answer} (hx : p.Answers x s s') :
    Tallied (⟨p, x, s⟩ :: h) s' := by
  have hfailed : x.Failed → Tallied h s' → Tallied (⟨p, x, s⟩ :: h) s' :=
    fun hx ht' => ht'.neutral (Answered.neutral_of_failed hx)
  cases hx with
  | beginUnit => exact ht.openDraft.neutral ⟨rfl, rfl, rfl⟩
  | readAccount id => exact ht.neutral ⟨rfl, rfl, rfl⟩
  | openAccount hu owner balance currency =>
    rcases Store.stageAccount_cases hu owner balance currency with
      ⟨e, heq⟩ | ⟨a, ha, rfl, -, -, -, heq⟩ <;> rw [heq] at hfailed ⊢
    · exact hfailed trivial ht
    · exact ht.openAccount hs hu ha
  | writeTransfer hu source target amount =>
    refine Tallied.neutral ?_ ⟨rfl, rfl, rfl⟩
    rcases Store.stageTransfer_cases hu source target amount with
      ⟨e, heq⟩ | ⟨-, -, -, t, -, -, -, -, heq⟩ <;> rw [heq]
    · exact ht
    · exact ht.setDraft hu rfl rfl rfl rfl rfl
  | writeEntry hu account amount =>
    refine Tallied.neutral ?_ ⟨rfl, rfl, rfl⟩
    rcases Store.stageEntry_cases hu account amount with ⟨e, heq⟩ | ⟨-, e, -, -, -, heq⟩ <;> rw [heq]
    · exact ht
    · exact ht.setDraft hu rfl rfl rfl rfl rfl
  | @adjust _ u k d hu hk delta floor =>
    rcases Store.adjust_cases hu k delta floor with ⟨e, heq⟩ | ⟨a, b, ha, hb, heq⟩ <;>
      rw [heq] at hfailed ⊢
    · exact hfailed trivial ht
    · exact ht.adjust hs hu ha hb
  | commit hu =>
    rcases Store.publish_cases hu with ⟨e, heq⟩ | ⟨-, heq⟩ <;> rw [heq] at hfailed ⊢
    · exact hfailed trivial (ht.discard _)
    · exact ht.publish hs hu
  | uncommitted e => exact hfailed trivial (ht.discard _)
  | rollback r => exact (ht.discard _).neutral ⟨rfl, rfl, rfl⟩
  | @deleteAccount _ id hfree =>
    refine Tallied.neutral ?_ ⟨rfl, rfl, rfl⟩
    rcases Store.remove_cases s id with ⟨e, heq⟩ | ⟨⟨a, ha⟩, -, heq⟩ <;> rw [heq]
    · exact ht
    · exact ht.remove hs hfree ha

theorem deed (hs : s.Sound) (ht : Tallied h s) {w : Option Int} {l : List Answered}
    (hd : Store.Deed w l s s') : Tallied (l ++ h) s' := by
  cases hd with
  | silent hs => exact ht.silent hs
  | failed hx hs => exact (ht.silent hs).neutral (Answered.neutral_of_failed hx)
  | answer hx => exact ht.answer hs hx

end Tallied

variable {patience : Time.Span} {now : Time.Instant} {h : List Answered} {w : Floor}

/-- Adjustments are answered with the balance that they add to, and with what the unit of work has added. -/
def Truthful (h : List Answered) : Prop :=
  ∀ u k delta floor a s earlier,
    ⟨.adjust u k delta floor, .account (.ok a), s⟩ :: earlier <:+ h →
      a.id = k ∧ a.balance = s.baseline earlier k +
        added (⟨.adjust u k delta floor, .account (.ok a), s⟩ :: earlier) u k

theorem Primitive.Answers.adjusted {u k delta : Int} {floor : Bool} {a : Account} {s s' : Store}
    (hx : Answers (.adjust u k delta floor) (.account (.ok a)) s s') : ∃ d b, s.drafts.get? u = some d ∧
      s.seen u k = .ok b ∧ a = { b with balance := b.balance + delta } := by
  generalize hans : Answer.account (.ok a) = x at hx
  cases hx with
  | adjust hu hk =>
    rcases Store.adjust_cases hu k delta floor with ⟨e, heq⟩ | ⟨b, b', hb, hb', heq⟩ <;> rw [heq] at hans
    · cases hans
    · cases hans
      exact ⟨_, b, hu, hb, hb'⟩

theorem Tallied.truthful {u : Option Int} {l : List Answered} {s s' : Store} (hs : s.Sound) (ht : Tallied h s)
    (hd : Store.Deed u l s s') (hh : Truthful h) : Truthful (l ++ h) := by
  intro v k delta floor a t earlier hsuffix
  cases hd with
  | silent hs => exact hh v k delta floor a t earlier hsuffix
  | failed hx hs =>
    rcases List.suffix_cons_iff.1 hsuffix with heq | hsuffix
    · cases heq
      exact hx.elim
    · exact hh v k delta floor a t earlier hsuffix
  | answer hx =>
    rcases List.suffix_cons_iff.1 hsuffix with heq | hsuffix
    · obtain ⟨heq, rfl⟩ := List.cons.inj heq
      cases heq
      obtain ⟨d, b, hu, hb, hab⟩ := hx.adjusted
      have hseen := ht.seen hu hb
      rw [added_adjust, if_pos ⟨rfl, rfl⟩, hab]
      refine ⟨(hs.seen hu hb).1, ?_⟩
      show b.balance + delta = _
      omega
    · exact hh v k delta floor a t earlier hsuffix

namespace Floor.Run

theorem tallied (hr : Run (Bank.new patience now) h w) : Tallied h w.bank.store ∧ Truthful h := by
  have hs : (Bank.new patience now).store.Sound := .new patience now
  refine hr.induct (J := fun h s => Tallied h s ∧ Truthful h) hs ⟨.new_store patience now, ?_⟩ ?_
  · intro u k delta floor a s earlier hsuffix
    cases List.suffix_nil.1 hsuffix
  · rintro h u l s s' hs hd ⟨ht, hh⟩
    exact ⟨ht.deed hs hd, ht.truthful hs hd hh⟩

end Floor.Run

/-- Whatever units of work are open at once, and whatever becomes of them, the balance of a committed
account is what it was created with and what the units that were committed have added. An adjustment is
answered with the committed balance of that moment and what its own unit has added so far. -/
theorem no_lost_update (hr : Floor.Run (Bank.new patience now) h w) :
    (∀ a ∈ w.bank.store.book.accounts.values,
      (a.id, created h a.id) ∈ creations h ∧ a.balance = created h a.id + settled h a.id) ∧
      ∀ u k delta floor a s earlier,
        ⟨.adjust u k delta floor, .account (.ok a), s⟩ :: earlier <:+ h →
          a.id = k ∧ a.balance = s.baseline earlier k +
            added (⟨.adjust u k delta floor, .account (.ok a), s⟩ :: earlier) u k := by
  obtain ⟨ht, hh⟩ := hr.tallied
  refine ⟨fun a ha => ?_, hh⟩
  obtain ⟨k, hk⟩ := Table.mem_values.1 ha
  have hs : w.bank.store.Sound := (hr.orderly (.new patience now)).sound
  rw [(hs.account hk).1]
  exact ⟨mem_creations (ht.accountCreated hk), ht.account hk⟩

/-- A unit of work waits in vain for the row of another, and adds to its balance when that one is over. -/
theorem adjusted_in_turn : ∃ h earlier w s a, Floor.Run (.new (.millis 5000) .epoch) h w ∧
    h = ⟨.adjust 3 1 5 true, .account (.ok a), s⟩ :: earlier ∧
    created h 1 + settled h 1 = 70 ∧ s.baseline earlier 1 + added h 3 1 = 75 := by
  obtain ⟨h, w, hr, hbank, -, hh⟩ := Floor.Run.carry (b := .new (.millis 5000) .epoch) (.new _ _)
    [.adjust 3 1 5 true, .commit 2, .adjust 3 1 5 true, .adjust 2 1 (-30) true, .beginUnit, .beginUnit,
      .commit 1, .openAccount 1 "ann" 100 .cad, .beginUnit] (by decide)
  obtain ⟨⟨p, x, s⟩, earlier, rfl, he, -⟩ := List.map_eq_cons_iff.1 hh
  obtain rfl : p = .adjust 3 1 5 true := congrArg Prod.fst he
  obtain rfl : x = .account (.ok ⟨1, "ann", 75, .cad, .epoch⟩) := congrArg Prod.snd he
  have hmem : (⟨1, "ann", 70, .cad, .epoch⟩ : Account) ∈ w.bank.store.book.accounts.values := by
    rw [hbank]
    exact List.mem_singleton.2 rfl
  have hlaw := no_lost_update hr
  have hbalance := (hlaw.1 _ hmem).2
  have hanswer := (hlaw.2 3 1 5 true _ s earlier List.suffix_rfl).2
  exact ⟨_, earlier, w, s, _, hr, rfl, hbalance.symm, hanswer.symm⟩

end Teller
