import Teller.Proofs.Bank.Alone
import Teller.Proofs.Transfer.Guard

/-!
# What the guard objects to

Each condition that a request has to meet is an objection of its own, which looks at nothing but the request
and the row that it is about. The guard tells the first of them and lets through what none of them applies to.
The objections about the account that is paid come last, so they are heard only by who owns the one that pays.
-/

namespace Teller

namespace TransferRequest

/-! ### Objections -/

def missing? (b : Book) (id : Int) : Option TransferError :=
  match b.accounts.get? id with
  | some _ => none
  | none => some (.accountNotFound id)

/-- The account is held in another currency than the request names. -/
def mismatch? (r : TransferRequest) (b : Book) (id : Int) : Option TransferError :=
  match b.accounts.get? id with
  | some a => if a.currency.code = r.currency then none else some (.currencyMismatch id a.currency.code r.currency)
  | none => none

/-- The account that pays is somebody else's. -/
def foreign? (r : TransferRequest) (b : Book) : Option TransferError :=
  match b.accounts.get? r.source with
  | some a => if a.owner = r.principal then none else some (.forbidden r.source)
  | none => none

/-- What the guard may object to, in its order, and whether it applies. -/
def objections (r : TransferRequest) (b : Book) : List (Option TransferError) :=
  [if 0 < r.amount then none else some .invalidAmount,
    if ∃ c ∈ Currency.all, c.code = r.currency then none else some (.unsupportedCurrency r.currency),
    if r.source = r.target then some .sameAccount else none,
    missing? b r.source, r.mismatch? b r.source, r.foreign? b,
    missing? b r.target, r.mismatch? b r.target]

def objection? (r : TransferRequest) (b : Book) : Option TransferError :=
  (r.objections b).findSome? id

structure Valid (r : TransferRequest) (b : Book) : Prop where
  amount : 0 < r.amount
  currency : ∃ c : Currency, c.code = r.currency
  distinct : r.source ≠ r.target
  accounts : r.Admitted b

variable {r r' : TransferRequest} {b b' : Bank} {book book' : Book} {k : Int} {c : Currency}

theorem missing?_eq_none_iff : missing? book k = none ↔ ∃ a, book.accounts.get? k = some a := by
  unfold missing?
  cases book.accounts.get? k <;> simp

theorem mismatch?_eq_none_iff :
    r.mismatch? book k = none ↔ ∀ a, book.accounts.get? k = some a → a.currency.code = r.currency := by
  unfold mismatch?
  cases book.accounts.get? k <;> simp

theorem foreign?_eq_none_iff :
    r.foreign? book = none ↔ ∀ a, book.accounts.get? r.source = some a → a.owner = r.principal := by
  unfold foreign?
  cases book.accounts.get? r.source <;> simp

theorem admitted_iff : r.Admitted book ↔
    missing? book r.source = none ∧ r.mismatch? book r.source = none ∧ r.foreign? book = none ∧
      missing? book r.target = none ∧ r.mismatch? book r.target = none := by
  rw [missing?_eq_none_iff, missing?_eq_none_iff, mismatch?_eq_none_iff, mismatch?_eq_none_iff,
    foreign?_eq_none_iff]
  constructor
  · rintro ⟨⟨a, ha, howner, hcurrency⟩, a', ha', hcurrency'⟩
    simp [ha, ha', howner, hcurrency, hcurrency']
  · rintro ⟨⟨a, ha⟩, hcurrency, howner, ⟨a', ha'⟩, hcurrency'⟩
    exact ⟨⟨a, ha, howner a ha, hcurrency a ha⟩, a', ha', hcurrency' a' ha'⟩

theorem supported_iff : (∃ c ∈ Currency.all, c.code = r.currency) ↔ ∃ c : Currency, c.code = r.currency :=
  exists_congr fun c => and_iff_right c.mem_all

/-- Nothing is objected to in a valid request. -/
theorem objection?_eq_none_iff : r.objection? book = none ↔ r.Valid book := by
  have hvalid : r.Valid book ↔ 0 < r.amount ∧ (∃ c : Currency, c.code = r.currency) ∧
      r.source ≠ r.target ∧ r.Admitted book :=
    ⟨fun h => ⟨h.amount, h.currency, h.distinct, h.accounts⟩, fun ⟨h, h', h'', h'''⟩ => ⟨h, h', h'', h'''⟩⟩
  rw [hvalid, admitted_iff, ← supported_iff]
  simp [objection?, objections, List.findSome?_eq_none_iff]

/-- What applies to the row that pays is heard before anything about the row that is paid. -/
theorem objection?_congr (hforeign : ∀ a, book.accounts.get? r.source = some a → a.owner ≠ r.principal)
    (hrow : book'.accounts.get? r.source = book.accounts.get? r.source) {target : Int}
    (hsame : r.source = target ↔ r.source = r.target) :
    { r with target := target }.objection? book' = r.objection? book := by
  unfold objection? objections
  simp only [missing?, mismatch?, foreign?, hrow, hsame]
  cases ha : book.accounts.get? r.source with
  | none => simp [List.findSome?_cons]
  | some a => simp [List.findSome?_cons, hforeign a ha]

/-! ### The guard alone -/

def verdict {α : Type} (objection : Option TransferError) (x : α) : Except TransferError α :=
  match objection with
  | some e => .error e
  | none => .ok x

theorem verdict_eq_ok_iff {α : Type} {objection : Option TransferError} {x y : α} :
    verdict objection x = .ok y ↔ objection = none ∧ y = x := by
  cases objection <;> simp [verdict, eq_comm]

theorem verdict_eq_error_iff {α : Type} {objection : Option TransferError} {x : α} {e : TransferError} :
    verdict objection x = .error e ↔ objection = some e := by
  cases objection <;> simp [verdict]

/-- The call changes nothing and tells the first of these objections; if there is none, it returns the value. -/
def Tells {α : Type} (b : Bank) (es : List (Option TransferError)) (x : α) (m : Attempt TransferError α) : Prop :=
  m.run.run b = ⟨[], verdict (es.findSome? id) x, b⟩

theorem tells_accountIn {α : Type} {x : α} {es : List (Option TransferError)} {f : Account → Attempt TransferError α}
    (hread : b.refusal? .account (some k) = none) (hc : c.code = r.currency)
    (hf : ∀ a, b.store.book.accounts.get? k = some a → Tells b es x (f a)) :
    Tells b (missing? b.store.book k :: r.mismatch? b.store.book k :: es) x (accountIn c k >>= f) := by
  unfold Tells accountIn Bank.account missing? mismatch?
  rw [bind_assoc, Bank.run_read_bind, hread, Book.account]
  cases ha : b.store.book.accounts.get? k with
  | none => rfl
  | some a =>
    dsimp only
    by_cases hac : a.currency = c
    · rw [if_neg (not_not_intro hac), if_pos (hac ▸ hc)]
      exact hf a ha
    · rw [if_pos hac, if_neg fun h => hac (Currency.code_injective (h.trans hc.symm)), hc]
      rfl

theorem tells_check (hs : b.store.Sound) (hread : ∀ k, b.refusal? .account (some k) = none)
    (r : TransferRequest) : Tells b (r.objections b.store.book) r.order r.check := by
  unfold check objections
  dsimp only
  by_cases ho : r.amount ≤ 0
  · rw [if_pos ho, if_neg (Int.not_lt.2 ho)]
    rfl
  rw [if_neg ho, if_pos (Int.not_le.1 ho)]
  cases hcode : Currency.ofCode? r.currency with
  | none =>
    have hunsupported : ¬ ∃ c ∈ Currency.all, c.code = r.currency := by
      rintro ⟨c, -, hc⟩
      rw [Currency.ofCode?_eq_some_iff.2 hc] at hcode
      cases hcode
    rw [if_neg hunsupported]
    rfl
  | some c =>
    have hc := Currency.ofCode?_eq_some_iff.1 hcode
    rw [if_pos ⟨c, c.mem_all, hc⟩]
    show Tells b (none :: none :: _) _ (if r.source = r.target then _ else _)
    by_cases hne : r.source = r.target
    · rw [if_pos hne, if_pos hne]
      rfl
    rw [if_neg hne, if_neg hne]
    refine tells_accountIn (hread _) hc fun a ha => ?_
    show Tells b _ _ (if a.owner ≠ r.principal then _ else _)
    simp only [foreign?, ha]
    by_cases howner : a.owner = r.principal
    · rw [if_neg (not_not_intro howner), if_pos howner]
      exact tells_accountIn (hread _) hc fun a' ha' => rfl
    · rw [if_pos howner, if_neg howner, (hs.account ha).1]
      rfl

/-- The guard lets through the valid requests and tells the first objection to any other one. Who does not own
the account that pays learns the same whatever else is in the book, and whatever the account that is paid. -/
theorem guard_in_order (hb : b.store.Reachable) (hread : ∀ k, b.refusal? .account (some k) = none)
    (r : TransferRequest) :
    (r.check.run.run b).pauses = [] ∧ (r.check.run.run b).state = b ∧
      (∀ o, (r.check.run.run b).value = .ok o ↔ r.Valid b.store.book ∧ o = ⟨r.source, r.target, r.amount⟩) ∧
      (∀ e, (r.check.run.run b).value = .error e ↔ r.objection? b.store.book = some e) ∧
      ∀ (target : Int) (b' : Bank), b'.store.Reachable → (∀ k, b'.refusal? .account (some k) = none) →
        b'.store.book.accounts.get? r.source = b.store.book.accounts.get? r.source →
        (∀ a, b.store.book.accounts.get? r.source = some a → a.owner ≠ r.principal) →
        (r.source = target ↔ r.source = r.target) →
        ({ r with target := target }.check.run.run b').value = (r.check.run.run b).value := by
  have hrun : r.check.run.run b = ⟨[], verdict (r.objection? b.store.book) r.order, b⟩ :=
    tells_check hb.sound hread r
  refine ⟨by rw [hrun], by rw [hrun], fun o => ?_, fun e => ?_, ?_⟩
  · rw [hrun, verdict_eq_ok_iff, objection?_eq_none_iff]
    rfl
  · rw [hrun, verdict_eq_error_iff]
  · intro target b' hb' hread' hrow hforeign hsame
    have hrun' : ({ r with target := target }.check.run.run b').value = verdict _ _ :=
      congrArg Trace.value (tells_check hb'.sound hread' { r with target := target })
    have hobjection := objection?_congr hforeign hrow hsame
    cases he : r.objection? b.store.book with
    | some e =>
      rw [hrun', hrun, he]
      rw [he] at hobjection
      exact congrArg (verdict · _) hobjection
    | none =>
      -- such a request is not valid
      obtain ⟨a, ha, howner, -⟩ := (objection?_eq_none_iff.1 he).accounts.source
      exact absurd howner (hforeign a ha)

/-- Bob is told that Ann's account is not his, also if he would pay to an account that is not there, but
first that it is held in another currency. -/
theorem objections_to_bob :
    let b : Bank := ⟨.pair .none, [], []⟩
    let r : TransferRequest := ⟨"bob", 1, 2, 30, "CAD"⟩
    b.store.Reachable ∧ (∀ k, b.refusal? .account (some k) = none) ∧
      (r.check.run.run b).value = .error (.forbidden 1) ∧
      ({ r with target := 9 }.check.run.run b).value = (r.check.run.run b).value ∧
      ({ r with currency := "EUR" }.check.run.run b).value = .error (.currencyMismatch 1 "CAD" "EUR") ∧
      ({ r with principal := "ann" }.check.run.run b).value = .ok ⟨1, 2, 30⟩ := by
  intro b r
  have hb : b.store.Reachable := Store.reachable_pair .none
  have hread : ∀ k, b.refusal? .account (some k) = none := fun _ => rfl
  have hforeign : ∀ a, b.store.book.accounts.get? 1 = some a → a.owner ≠ "bob" := by
    intro a ha
    obtain rfl : (⟨1, "ann", 100, .cad, .epoch⟩ : Account) = a := Option.some.inj ha
    decide
  obtain ⟨-, -, -, herror, hblind⟩ := guard_in_order hb hread r
  refine ⟨hb, hread, (herror _).2 (by decide), hblind 9 b hb hread rfl hforeign (by decide), ?_, ?_⟩
  · exact ((guard_in_order hb hread { r with currency := "EUR" }).2.2.2.1 _).2 (by decide)
  · have hvalid : { r with principal := "ann" }.Valid b.store.book := objection?_eq_none_iff.1 (by decide)
    exact ((guard_in_order hb hread { r with principal := "ann" }).2.2.1 _).2 ⟨hvalid, rfl⟩

end TransferRequest

end Teller
