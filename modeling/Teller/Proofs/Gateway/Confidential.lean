import Teller.Proofs.Bank.Alone
import Teller.Proofs.Bank.Twice
import Teller.Proofs.Gateway.Serve

/-!
# What accounts of others do not give away

Two books may differ in whatever does not concern a principal (`Book.AgreeFor`); the routes for accounts
answer the principal the same in both: their calls are blind for the difference (`Timed.Blind`).
-/

namespace Teller

theorem Attempt.mapError_bind {ε δ α β : Type} (m : Attempt ε α) (g : α → Attempt ε β) (f : ε → δ) :
    (m >>= g).mapError f = m.mapError f >>= fun a => (g a).mapError f := by
  show (m.run >>= _ >>= _ : Act (Except δ β)) = (m.run >>= _ >>= _)
  rw [bind_assoc, bind_assoc]
  refine congrArg _ (funext fun r => ?_)
  cases r <;> rfl

/-! ### Books that agree for a principal -/

/-- The account is there and is the principal's. -/
def Book.Owns (b : Book) (p : String) (id : Int) : Prop :=
  ∃ a, b.accounts.get? id = some a ∧ a.owner = p

/-- The books agree on the accounts of a principal, on the entries and transfers that involve them, and on
which accounts there are. -/
structure Book.AgreeFor (p : String) (b c : Book) : Prop where
  accounts : ∀ id a, a.owner = p → (b.accounts.get? id = some a ↔ c.accounts.get? id = some a)
  contains : ∀ id, b.accounts.contains id = c.accounts.contains id
  entries : ∀ k e, b.Owns p e.account → (b.entries.get? k = some e ↔ c.entries.get? k = some e)
  transfers : ∀ k t id, b.Owns p id → t.Involves id → (b.transfers.get? k = some t ↔ c.transfers.get? k = some t)

namespace Book.AgreeFor

variable {p : String} {b c : Book} {id : Int}

theorem accountsOf (h : b.AgreeFor p c) : b.accountsOf p = c.accountsOf p :=
  Table.filter_values_congr fun id a ha => h.accounts id a (of_decide_eq_true ha)

theorem entriesOf (h : b.AgreeFor p c) (hid : b.Owns p id) : b.entriesOf id = c.entriesOf id :=
  Table.filter_values_congr fun k e he => h.entries k e (of_decide_eq_true he ▸ hid)

theorem refers_iff (h : b.AgreeFor p c) (hid : b.Owns p id) : b.Refers id ↔ c.Refers id := by
  refine or_congr (exists_congr fun e => and_congr_left fun he => ?_)
    (exists_congr fun t => and_congr_left fun ht => ?_)
  · rw [Table.mem_values, Table.mem_values]
    exact exists_congr fun k => h.entries k e (he ▸ hid)
  · rw [Table.mem_values, Table.mem_values]
    exact exists_congr fun k => h.transfers k t id hid ht

end Book.AgreeFor

/-- Whether an account can be removed. -/
theorem Store.remove_congr {s t : Store} {p : String} {id : Int} (h : s.book.AgreeFor p t.book)
    (hid : s.book.Owns p id) : (s.remove id).1 = (t.remove id).1 := by
  have hrefers := h.refers_iff hid
  unfold Store.remove
  rw [h.contains id]
  by_cases hc : t.book.accounts.contains id = true
  · by_cases hr : t.book.Refers id
    · simp [hc, hr, hrefers]
    · simp [hc, hr, hrefers]
  · simp [hc]

/-- The banks are alike for a principal, and no unit of work is open. -/
structure Bank.AgreeFor (p : String) (b c : Bank) : Prop where
  refusals : b.refusals = c.refusals
  book : b.store.book.AgreeFor p c.store.book
  drafts : b.store.drafts = .empty ∧ c.store.drafts = .empty

namespace Bank

variable {p : String} {R : Bank → Bank → Prop}

theorem blind_receive (hR : ∀ b c, R b c → b.AgreeFor p c) (request : Request) (row : Option Int) :
    (receive request row).run.Blind R fun _ => R := by
  intro b c hbc
  have hrefusal : b.refusal? request row = c.refusal? request row := by
    unfold refusal?
    rw [(hR b c hbc).refusals]
  rw [receive_alone, receive_alone, hrefusal]
  exact ⟨rfl, hbc⟩

theorem blind_read {α : Type} {f : Store → Except StoreError α} (hR : ∀ b c, R b c → b.AgreeFor p c)
    (h : ∀ b c, R b c → f b.store = f c.store) (request : Request) (row : Option Int) :
    (do receive request row; Attempt.look f : Attempt StoreError α).run.Blind R fun _ => R :=
  Attempt.blind_bind (blind_receive hR request row) (fun _ => Attempt.blind_look h) fun _ _ _ h => h

theorem free_of_drafts {s : Store} (h : s.drafts = .empty) (id : Int) : s.Free none id := by
  refine .inl (Store.holder?_eq_none_iff.2 fun u d hd => ?_)
  rw [h] at hd
  cases hd

end Bank

/-- An account as it is shown to a principal. -/
def Book.shown (b : Book) (p : String) (id : Int) : Except AccountError Account :=
  match b.accounts.get? id with
  | some a => if a.owner = p then .ok a else .error (.forbidden id)
  | none => .error (.notFound id)

theorem Book.AgreeFor.shown {p : String} {b c : Book} (h : b.AgreeFor p c) (id : Int) :
    b.shown p id = c.shown p id := by
  have hcontains := h.contains id
  have haccounts := h.accounts id
  unfold Table.contains at hcontains
  unfold Book.shown
  cases hb : b.accounts.get? id with
  | none =>
    cases hc : c.accounts.get? id with
    | none => rfl
    | some y =>
      rw [hb, hc] at hcontains
      cases hcontains
  | some x =>
    cases hc : c.accounts.get? id with
    | none =>
      rw [hb, hc] at hcontains
      cases hcontains
    | some y =>
      rw [hb, hc] at haccounts
      dsimp only
      by_cases hx : x.owner = p
      · rw [Option.some.inj ((haccounts x hx).1 rfl)]
      · have hy : ¬ y.owner = p := by
          intro hy
          rw [← Option.some.inj ((haccounts y hy).2 rfl)] at hy
          exact hx hy
        rw [if_neg hx, if_neg hy]

theorem Book.owns_of_shown {p : String} {b : Book} {id : Int} {a : Account} (h : b.shown p id = .ok a) :
    b.Owns p id := by
  unfold Book.shown at h
  split at h
  · rename_i x hx
    split at h
    · rename_i howner
      exact ⟨x, hx, howner⟩
    · cases h
  · cases h

namespace Holder

variable {p : String} {id : Int}

theorem account_eq (p : String) (id : Int) : account p id =
    ((Bank.receive .account (some id)).mapError (fun
      | .notFound _ _ => .notFound id
      | e => .store e) >>= fun _ => .look (·.book.shown p id)) := by
  unfold account Bank.account
  rw [Attempt.mapError_bind, bind_assoc]
  refine congrArg _ (funext fun _ => congrArg (Timed.act _) (funext fun b => ?_))
  dsimp only [Book.account, Book.shown]
  cases b.store.book.accounts.get? id with
  | none => rfl
  | some a =>
    dsimp only
    by_cases ha : a.owner = p
    · rw [if_pos ha]
      show ExceptT.run (if a.owner ≠ p then _ else _) = _
      rw [if_neg (not_not_intro ha)]
      rfl
    · rw [if_neg ha]
      show ExceptT.run (if a.owner ≠ p then _ else _) = _
      rw [if_pos ha]
      rfl

/-- Whether somebody else owns an account is all that a principal is told about it. -/
theorem blind_account (p : String) (id : Int) : (account p id).run.Blind (Bank.AgreeFor p) fun r b c =>
    b.AgreeFor p c ∧ ∀ a, r = .ok a → b.store.book.Owns p id := by
  rw [account_eq]
  refine Attempt.blind_bind (Q := fun _ => Bank.AgreeFor p)
    (Attempt.blind_mapError (Bank.blind_receive (fun _ _ h => h) _ _)) (fun _ => ?_)
    fun e b c hbc => ⟨hbc, by rintro a ⟨⟩⟩
  intro b c hbc
  exact ⟨hbc.book.shown id, hbc, fun a ha => Book.owns_of_shown ha⟩

theorem blind_accounts (p : String) (number size : Int) :
    (accounts p number size).run.Blind (Bank.AgreeFor p) Timed.any := by
  refine Attempt.blind_bind (m := ExceptT.mk (pure (page number size))) (Q := fun _ => Bank.AgreeFor p)
    (.done fun _ _ h => h) (fun page => ?_) fun _ _ _ _ => trivial
  refine Attempt.blind_mapError ((Bank.blind_read (fun _ _ h => h) (fun b c hbc => ?_) _ _).mono
    (fun _ _ h => h) fun _ _ _ _ => trivial)
  rw [hbc.book.accountsOf]

theorem blind_entries (p : String) (id number size : Int) :
    (entries p id number size).run.Blind (Bank.AgreeFor p) Timed.any := by
  refine Attempt.blind_bind (m := ExceptT.mk (pure (page number size))) (Q := fun _ => Bank.AgreeFor p)
    (.done fun _ _ h => h) (fun page => ?_) fun _ _ _ _ => trivial
  refine Attempt.blind_bind (blind_account p id) (fun a => ?_) fun _ _ _ _ => trivial
  refine Attempt.blind_mapError ((Bank.blind_read (fun _ _ h => h.1) (fun b c hbc => ?_) _ _).mono
    (fun _ _ h => h) fun _ _ _ _ => trivial)
  rw [hbc.1.book.entriesOf (hbc.2 a rfl)]

/-- Whether an account of the principal's can be removed depends on rows of the principal's only. -/
theorem blind_deleteAccount (p : String) (id : Int) :
    (deleteAccount p id).run.Blind (Bank.AgreeFor p) Timed.any := by
  refine Attempt.blind_bind (blind_account p id) (fun a => ?_) fun _ _ _ _ => trivial
  refine Attempt.blind_bind (Q := Timed.any) (Attempt.blind_mapError ?_) (fun u => ?_) fun _ _ _ _ => trivial
  · refine Attempt.blind_bind (Bank.blind_receive (fun _ _ h => h.1) _ _) (fun _ => ?_) fun _ _ _ _ => trivial
    rintro b c ⟨hbc, howns⟩
    have hremove := Store.remove_congr hbc.book (howns a rfl)
    rw [Bank.onceFree_alone, Bank.onceFree_alone, if_pos (Bank.free_of_drafts hbc.drafts.1 id),
      if_pos (Bank.free_of_drafts hbc.drafts.2 id)]
    exact ⟨hremove, trivial⟩
  · exact fun b c _ => ⟨rfl, trivial⟩

end Holder

namespace Gateway

variable {p : String}

theorem Reads.blind_bind {α β : Type} {m : Serving α} {f : α → Serving β} {R : Bank → Bank → Prop}
    (h : Reads m) (hf : ∀ a, (f a).run.Blind R Timed.any) : (m >>= f).run.Blind R Timed.any := by
  rcases h with ⟨a, rfl⟩ | ⟨x, -, rfl⟩
  · rw [pure_bind]
    exact hf a
  · exact .done fun _ _ _ => trivial

/-- What is answered to a call comes from its result. -/
theorem blind_answered {ε α β : Type} {m : Attempt ε α} {hidden : ε → Act Unit} {answer : ε → Answer}
    {R : Bank → Bank → Prop} (h : m.run.Blind R Timed.any) (f : α → β) :
    (do let a ← answered m hidden answer; return f a : Serving β).run.Blind R Timed.any := by
  have hanswered : (answered m hidden answer).run.Blind R Timed.any := by
    refine Attempt.blind_sure_bind h fun r => ?_
    cases r with
    | ok a => exact .done fun _ _ _ => trivial
    | error e => exact Attempt.blind_sure_bind (.unit _) fun _ => .done fun _ _ _ => trivial
  exact Attempt.blind_bind hanswered (fun _ => .done fun _ _ _ => trivial) fun _ _ _ _ => trivial

theorem blind_forAccounts {α β : Type} {m : Attempt AccountError α} {R : Bank → Bank → Prop}
    (h : m.run.Blind R Timed.any) (f : α → β) :
    (do let a ← forAccounts m; return f a : Serving β).run.Blind R Timed.any := by
  rw [forAccounts_eq]
  exact blind_answered h f

theorem blind_forTransfers {α β : Type} {m : Attempt TransferError α} {R : Bank → Bank → Prop}
    (h : m.run.Blind R Timed.any) (f : α → β) :
    (do let a ← forTransfers m; return f a : Serving β).run.Blind R Timed.any := by
  rw [forTransfers_eq]
  exact blind_answered h f

theorem blind_serveAccounts (p : String) (query : List Char) :
    (serveAccounts p query).run.Blind (Bank.AgreeFor p) Timed.any :=
  (reads_pageOf query).blind_bind fun q => blind_forAccounts (Holder.blind_accounts p q.number q.size) _

theorem blind_serveAccount (p : String) (raw : List Char) :
    (serveAccount p raw).run.Blind (Bank.AgreeFor p) Timed.any := by
  refine (reads_rowNumber raw).blind_bind fun id => blind_forAccounts ?_ _
  exact (Holder.blind_account p id).mono (fun _ _ h => h) fun _ _ _ _ => trivial

theorem blind_serveDeletion (p : String) (raw : List Char) :
    (serveDeletion p raw).run.Blind (Bank.AgreeFor p) Timed.any :=
  (reads_rowNumber raw).blind_bind fun id => blind_forAccounts (Holder.blind_deleteAccount p id) fun _ => _

theorem blind_serveEntries (p : String) (raw query : List Char) :
    (serveEntries p raw query).run.Blind (Bank.AgreeFor p) Timed.any :=
  (reads_rowNumber raw).blind_bind fun id => (reads_pageOf query).blind_bind fun q =>
    blind_forAccounts (Holder.blind_entries p id q.number q.size) _

/-- The request is to read accounts or entries, or to delete an account. -/
inductive Request.ForAccounts (r : Request) : Prop
  | list (hmethod : r.method = "GET") (hroute : r.route? = some .accounts)
  | read {raw : List Char} (hmethod : r.method = "GET") (hroute : r.route? = some (.account raw))
  | entries {raw : List Char} (hmethod : r.method = "GET") (hroute : r.route? = some (.entries raw))
  | delete {raw : List Char} (hmethod : r.method = "DELETE") (hroute : r.route? = some (.account raw))

theorem blind_serve (terms : Terms) {r : Request} (hp : r.principal? = some p) (hr : r.ForAccounts) :
    (serve terms r).run.Blind (Bank.AgreeFor p) Timed.any := by
  cases hr with
  | list hmethod hroute =>
    rw [serve_of_served hp hroute (by rw [hmethod]; decide) rfl, serveRoute, if_neg (by rw [hmethod]; decide)]
    exact blind_serveAccounts p _
  | read hmethod hroute =>
    rw [serve_of_served hp hroute (by rw [hmethod]; simp [Route.methods]) rfl, serveRoute,
      if_neg (by rw [hmethod]; decide)]
    exact blind_serveAccount p _
  | entries hmethod hroute =>
    rw [serve_of_served hp hroute (by rw [hmethod]; simp [Route.methods]) rfl, serveRoute]
    exact blind_serveEntries p _ _
  | delete hmethod hroute =>
    rw [serve_of_served hp hroute (by rw [hmethod]; simp [Route.methods]) rfl, serveRoute, if_pos hmethod]
    exact blind_serveDeletion p _

/-- The routes for accounts do not give away what concerns the accounts of others only. -/
theorem accounts_of_others_hidden {terms : Terms} {r : Request} {b c : Bank} (hp : r.principal? = some p)
    (hr : r.ForAccounts) (hbook : b.store.book.AgreeFor p c.store.book) (hrefusals : b.refusals = c.refusals)
    (hb : b.store.drafts = .empty) (hc : c.store.drafts = .empty) :
    ((respond terms r).run b).value = ((respond terms r).run c).value := by
  have hserve := blind_serve terms hp hr b c ⟨hrefusals, hbook, hb, hc⟩
  rw [value_respond, value_respond, hserve.1]

/-- To Ann it makes no difference whose account she tries to delete, and whether there are entries of it. -/
theorem deletion_of_another_account :
    let b : Bank := ⟨.pair .none, [], []⟩
    let book : Book := ⟨(Table.empty.put 1 ⟨1, "ann", 100, .cad, .epoch⟩).put 2 ⟨2, "dora", 70, .usd, .epoch⟩,
      Table.empty.put 1 ⟨1, 2, 70, .epoch⟩, .empty⟩
    let c : Bank := ⟨{ Store.pair .none with book := book }, [], []⟩
    let r : Request := ⟨"DELETE", "/api/v1/accounts/2", [("x-principal", "ann")], ""⟩
    ((respond ⟨false, none⟩ r).run b).value.status = 401 ∧
      ((respond ⟨false, none⟩ r).run b).value = ((respond ⟨false, none⟩ r).run c).value := by
  intro b book c r
  have hstatus : ((respond ⟨false, none⟩ r).run b).value.status = 401 := by decide +kernel
  have hroute : r.route? = some (.account ['2']) := by decide +kernel
  have hbook : b.store.book.AgreeFor "ann" c.store.book := by
    have hown : ∀ id, b.store.book.Owns "ann" id → id = 1 := by
      rintro id ⟨a, ha, howner⟩
      rcases Table.get?_put_eq_some_iff.1 ha with ⟨-, rfl⟩ | ⟨-, ha⟩
      · exact absurd howner (by decide)
      · rcases Table.get?_put_eq_some_iff.1 ha with ⟨hid, -⟩ | ⟨-, ha⟩
        · exact hid
        · cases ha
    constructor
    case accounts =>
      intro id a ha
      have hbob : (⟨2, "bob", 0, .cad, .epoch⟩ : Account) ≠ a := by
        rintro rfl
        exact absurd ha (by decide)
      have hdora : (⟨2, "dora", 70, .usd, .epoch⟩ : Account) ≠ a := by
        rintro rfl
        exact absurd ha (by decide)
      by_cases hid : id = 2
      · subst hid
        simp [b, c, book, Store.pair, hbob, hdora]
      · simp [b, c, book, Store.pair, Ne.symm hid]
    case contains =>
      intro id
      by_cases hid : id = 2
      · subst hid
        rfl
      · simp [b, c, book, Store.pair, Table.contains, Ne.symm hid]
    case entries =>
      intro k e he
      have hne : (⟨1, 2, 70, .epoch⟩ : Entry) ≠ e := by
        rintro rfl
        exact absurd (hown 2 he) (by decide)
      by_cases hk : k = 1
      · subst hk
        simp [b, c, book, Store.pair, hne]
      · simp [b, c, book, Store.pair, Ne.symm hk]
    case transfers => exact fun k t id _ _ => Iff.rfl
  exact ⟨hstatus, accounts_of_others_hidden (b := b) (c := c) (by decide +kernel) (.delete rfl hroute) hbook rfl rfl rfl⟩

end Gateway

end Teller
