import Teller.Holder
import Teller.Proofs.Bank.Opening
import Teller.Proofs.Store.Move

/-!
# A principal opens an account, all or nothing

What may stop the opening of an account are a name that is blank, an unknown currency, a fault at a point that is
passed, and an account that the owner has already. Each is an objection of its own, and the first that applies is
told (`openingObjection?`). Without any, exactly the new account is added to the book; with one, nothing is.
-/

namespace Teller

namespace Holder

/-- What may be objected to the opening of an account, in the order in which it is found out. -/
def openingObjections (s : Store) (owner currency : String) : List (Option AccountError) :=
  [if Text.trim owner = "" then some .emptyOwner else none,
    if ∃ c ∈ Currency.all, c.code = currency then none else some (.unsupportedCurrency currency),
    (s.fault? .opening).map .store,
    (s.fault? .createAccount).map .store,
    if ∃ a ∈ s.book.accounts.values, a.owner = Text.trim owner ∧ a.currency.code = currency then
      some (.alreadyExists (Text.trim owner) currency) else none,
    (s.fault? .commit).map .store]

def openingObjection? (s : Store) (owner currency : String) : Option AccountError :=
  (openingObjections s owner currency).findSome? id

/-- What the failure to open an account is to its owner. -/
def openingError (owner : String) (c : Currency) : StoreError → AccountError
  | .uniqueViolation _ => .alreadyExists owner c.code
  | e => .store e

variable {s : Store} {owner currency : String} {c : Currency}

theorem map_fault? (owner : String) (c : Currency) (s : Store) (p : Point) :
    (s.fault? p).map (openingError owner c) = (s.fault? p).map .store := by
  unfold Store.fault?
  split <;> rfl

theorem map_taken? (s : Store) (owner : String) (c : Currency) : (s.taken? owner c).map (openingError owner c) =
    if ∃ a ∈ s.book.accounts.values, a.owner = owner ∧ a.currency.code = c.code then
      some (.alreadyExists owner c.code) else none := by
  have htaken : s.book.Taken owner c ↔
      ∃ a ∈ s.book.accounts.values, a.owner = owner ∧ a.currency.code = c.code := by
    refine exists_congr fun a => and_congr_right fun _ => and_congr_right fun _ => ?_
    exact ⟨congrArg _, Currency.code_injective⟩
  unfold Store.taken?
  simp only [htaken]
  split <;> rfl

theorem findSome?_map {α β : Type} (f : α → β) (l : List (Option α)) :
    (l.map (Option.map f)).findSome? id = (l.findSome? id).map f := by
  rw [List.findSome?_map, List.map_findSome?]
  rfl

/-- A principal with a name is told what has stopped the bank. -/
theorem openingObjection?_eq (howner : Text.trim owner ≠ "") :
    openingObjection? s owner c.code = (s.obstacle? (Text.trim owner) c).map (openingError (Text.trim owner) c) := by
  have hsupported : ∃ d ∈ Currency.all, d.code = c.code := ⟨c, c.mem_all, rfl⟩
  unfold Store.obstacle? Store.obstaclesIn
  rw [← findSome?_map, List.map_cons, List.map_cons, List.map_cons, List.map_cons, List.map_nil, map_fault?,
    map_fault?, map_fault?, map_taken?]
  simp only [openingObjection?, openingObjections, howner, hsupported, if_true, if_false, List.findSome?_cons, id_eq]

theorem taken_of_code_iff {b : Book} {name : String} :
    (∃ a ∈ b.accounts.values, a.owner = name ∧ a.currency.code = currency) ↔
      ∃ c : Currency, c.code = currency ∧ b.Taken name c := by
  constructor
  · rintro ⟨a, ha, howner, hcode⟩
    exact ⟨a.currency, hcode, a, ha, howner, rfl⟩
  · rintro ⟨c, hcode, a, ha, howner, rfl⟩
    exact ⟨a, ha, howner, hcode⟩

theorem openingObjection?_eq_none_iff : openingObjection? s owner currency = none ↔ Text.trim owner ≠ "" ∧
    (∃ c : Currency, c.code = currency ∧ ¬ s.book.Taken (Text.trim owner) c) ∧
    ∀ p ∈ [Point.opening, .createAccount, .commit], ¬ s.faults.Fires p := by
  simp only [openingObjection?, openingObjections, List.findSome?_eq_none_iff, List.forall_mem_cons, id_eq,
    Store.fault?, Option.map_eq_none_iff, ite_eq_right_iff, ite_eq_left_iff, reduceCtorEq, imp_false, not_not,
    taken_of_code_iff]
  constructor
  · rintro ⟨howner, ⟨c, -, hc⟩, hopening, hcreate, hfree, hcommit, -⟩
    exact ⟨howner, ⟨c, hc, fun h => hfree ⟨c, hc, h⟩⟩, hopening, hcreate, hcommit, by simp⟩
  · rintro ⟨howner, ⟨c, hc, hfree⟩, hopening, hcreate, hcommit, -⟩
    refine ⟨howner, ⟨c, c.mem_all, hc⟩, hopening, hcreate, ?_, hcommit, by simp⟩
    rintro ⟨d, hd, h⟩
    obtain rfl := Currency.code_injective (hd.trans hc.symm)
    exact hfree h

/-- Who is told of another account has met nothing else before. -/
theorem openingObjection?_eq_alreadyExists_iff {name code : String} :
    openingObjection? s owner currency = some (.alreadyExists name code) ↔
      (name = Text.trim owner ∧ code = currency) ∧ Text.trim owner ≠ "" ∧
      (∃ c : Currency, c.code = currency ∧ s.book.Taken (Text.trim owner) c) ∧
      ¬ s.faults.Fires .opening ∧ ¬ s.faults.Fires .createAccount := by
  rw [← taken_of_code_iff]
  simp only [openingObjection?, openingObjections, List.findSome?_cons, List.findSome?_nil, id_eq, Store.fault?]
  by_cases howner : Text.trim owner = ""
  · simp [howner]
  by_cases hsupported : ∃ c ∈ Currency.all, c.code = currency
  swap
  · have huntaken : ¬ ∃ a ∈ s.book.accounts.values, a.owner = Text.trim owner ∧ a.currency.code = currency := by
      rintro ⟨a, -, -, hcode⟩
      exact hsupported ⟨a.currency, a.currency.mem_all, hcode⟩
    simp [howner, hsupported, huntaken]
  by_cases hopening : s.faults.Fires .opening
  · simp [howner, hsupported, hopening]
  by_cases hcreate : s.faults.Fires .createAccount
  · simp [howner, hsupported, hopening, hcreate]
  by_cases htaken : ∃ a ∈ s.book.accounts.values, a.owner = Text.trim owner ∧ a.currency.code = currency
  · simp only [howner, hsupported, hopening, hcreate, htaken, if_true, if_false, Option.map_none, Option.some.injEq,
      AccountError.alreadyExists.injEq, and_true, not_false_eq_true, ne_eq]
    exact and_congr eq_comm eq_comm
  · by_cases hcommit : s.faults.Fires .commit
    · simp [howner, hsupported, hopening, hcreate, htaken, hcommit]
    · simp [howner, hsupported, hopening, hcreate, htaken, hcommit]

/-- What comes of the opening of an account: the account, or the first objection. -/
inductive Opens (s : Store) (owner currency : String) : Except AccountError Account → Book → Prop
  | opened {c : Currency} (hc : c.code = currency) (h : openingObjection? s owner currency = none) :
    Opens s owner currency (.ok (s.newAccount (Text.trim owner) 0 c))
      { s.book with accounts := s.book.accounts.put s.nextAccount (s.newAccount (Text.trim owner) 0 c) }
  | refused {e : AccountError} (h : openingObjection? s owner currency = some e) :
    Opens s owner currency (.error e) s.book

namespace Opens

variable {r : Except AccountError Account} {a : Account} {e : AccountError} {b : Book}

theorem ok_iff (h : Opens s owner currency r b) : (∃ a, r = .ok a) ↔ openingObjection? s owner currency = none := by
  cases h with
  | opened hc hnone => simp [hnone]
  | refused he => simp [he]

theorem error_iff (h : Opens s owner currency r b) : r = .error e ↔ openingObjection? s owner currency = some e := by
  cases h with
  | opened hc hnone => simp [hnone]
  | refused he => simp [he]

theorem of_ok (h : Opens s owner currency (.ok a) b) : s.Unused a.id ∧ a.owner = Text.trim owner ∧
    a.currency.code = currency ∧ a.balance = 0 ∧ b = { s.book with accounts := s.book.accounts.put a.id a } := by
  cases h with
  | opened hc hnone => exact ⟨s.unused_nextAccount, rfl, hc, rfl, rfl⟩

theorem of_error (h : Opens s owner currency (.error e) b) : b = s.book := by
  cases h with
  | refused he => rfl

end Opens

theorem gives_openAccount {b : Bank} (hs : b.store.Sound) (hr : b.refusal? .opening none = none)
    (owner currency : String) : ∃ r s', (openAccount owner currency).Gives b r s' ∧
      Opens b.store owner currency r s'.book ∧ s'.drafts = b.store.drafts := by
  unfold openAccount
  dsimp only
  by_cases howner : Text.trim owner = ""
  · rw [if_pos howner]
    have hthrown : Attempt.Gives (throw .emptyOwner : Attempt AccountError PUnit) b (.error .emptyOwner) b.store :=
      .done rfl _
    refine ⟨_, _, hthrown.bind_error, .refused ?_, rfl⟩
    rw [openingObjection?, openingObjections, if_pos howner]
    rfl
  rw [if_neg howner]
  cases hcode : Currency.ofCode? currency with
  | none =>
    have hthrown : Attempt.Gives (throw (.unsupportedCurrency currency) : Attempt AccountError Currency) b
        (.error (.unsupportedCurrency currency)) b.store := .done rfl _
    refine ⟨_, _, hthrown.bind_error, .refused ?_, rfl⟩
    have hunsupported : ¬ ∃ c ∈ Currency.all, c.code = currency := by
      rintro ⟨c, -, hc⟩
      rw [Currency.ofCode?_eq_some_iff.2 hc] at hcode
      cases hcode
    rw [openingObjection?, openingObjections, if_neg howner, if_neg hunsupported]
    rfl
  | some c =>
    obtain rfl := Currency.ofCode?_eq_some_iff.1 hcode
    obtain ⟨s', hcreated, hdrafts, hbook⟩ := Bank.gives_createAccount hs hr (Text.trim owner) 0 c
    have hmapped := hcreated.mapError (openingError (Text.trim owner) c)
    have hobjection := openingObjection?_eq (s := b.store) (c := c) howner
    cases hobstacle : b.store.obstacle? (Text.trim owner) c with
    | none =>
      rw [hobstacle] at hmapped hbook hobjection
      have hopened : Opens b.store owner c.code (.ok (b.store.newAccount (Text.trim owner) 0 c)) s'.book := by
        rw [hbook]
        exact .opened rfl hobjection
      refine ⟨_, s', hmapped.bind_ok fun b' hb' _ => ?_, hopened, hdrafts⟩
      exact Attempt.Gives.sure_bind (n := Act.note _) hb' rfl fun b'' hb'' _ => .done hb'' _
    | some e =>
      rw [hobstacle] at hmapped hbook hobjection
      have hrefused : Opens b.store owner c.code (.error (openingError (Text.trim owner) c e)) s'.book := by
        rw [hbook]
        exact .refused hobjection
      exact ⟨_, s', hmapped.bind_error, hrefused, hdrafts⟩

/-- An account is opened if the name is not blank, the currency is known, the owner has none in it and no point fails
on the way; then exactly that account is added, at a number that no account has had. Otherwise the first objection
is told, however the rollback fares, and all rows and units of work are as before. -/
theorem account_opened_or_nothing {b : Bank} (hb : b.store.Reachable) (hr : b.refusal? .opening none = none)
    (owner currency : String) :
    let t := (openAccount owner currency).run.run b
    let s := b.store
    let s' := t.state.store
    ((∃ a, t.value = .ok a) ↔ Text.trim owner ≠ "" ∧
        (∃ c : Currency, c.code = currency ∧ ¬ s.book.Taken (Text.trim owner) c) ∧
        ∀ p ∈ [Point.opening, .createAccount, .commit], ¬ s.faults.Fires p) ∧
      (∀ a, t.value = .ok a → s.Unused a.id ∧ a.owner = Text.trim owner ∧ a.currency.code = currency ∧
        a.balance = 0 ∧ s'.book = { s.book with accounts := s.book.accounts.put a.id a }) ∧
      (∀ e, t.value = .error e ↔ openingObjection? s owner currency = some e) ∧
      (∀ name code, t.value = .error (.alreadyExists name code) ↔ (name = Text.trim owner ∧ code = currency) ∧
        Text.trim owner ≠ "" ∧ (∃ c : Currency, c.code = currency ∧ s.book.Taken (Text.trim owner) c) ∧
        ¬ s.faults.Fires .opening ∧ ¬ s.faults.Fires .createAccount) ∧
      (∀ e, t.value = .error e → s'.book = s.book) ∧ s'.drafts = s.drafts := by
  obtain ⟨r, s₁, hgives, hopens, hdrafts⟩ := gives_openAccount hb.sound hr owner currency
  simp only [hgives.value, hgives.store, ← openingObjection?_eq_none_iff, ← openingObjection?_eq_alreadyExists_iff]
  refine ⟨hopens.ok_iff, ?_, fun e => hopens.error_iff, fun name code => hopens.error_iff, ?_, hdrafts⟩
  · rintro a rfl
    exact hopens.of_ok
  · rintro e rfl
    exact hopens.of_error

/-- Dora opens an account while another unit of work still has one for her; Ann has hers already. That an account
cannot be added is told even if it cannot be rolled back either. -/
theorem dora_opens_while_staged :
    let staged (faults : Faults) : Bank := ⟨((Store.pair faults).openDraft.2.stageAccount 3 "dora" 0 .usd).2, [], []⟩
    let b := staged .none
    let c := staged ((Faults.none.failOn .createAccount 1).failOn .rollback 1)
    (∃ a, ((openAccount " dora " "USD").run.run b).value = .ok a ∧ b.store.Unused a.id ∧ a.owner = "dora" ∧
        ((openAccount " dora " "USD").run.run b).state.store.drafts = b.store.drafts) ∧
      ((openAccount "ann" "CAD").run.run b).value = .error (.alreadyExists "ann" "CAD") ∧
      ((openAccount "erik" "USD").run.run c).value = .error (.store (.injectedAt .createAccount)) ∧
      ((openAccount "erik" "USD").run.run c).state.store.book = c.store.book := by
  intro staged b c
  have hstaged (faults : Faults) : (staged faults).store.Reachable :=
    ((Store.reachable_pair faults).move (w := none) .openDraft).move (.stageAccount (u := 3) rfl "dora" 0 .usd)
  have hdora := account_opened_or_nothing (b := b) (hstaged _) rfl " dora " "USD"
  have hann := account_opened_or_nothing (b := b) (hstaged _) rfl "ann" "CAD"
  have herik := account_opened_or_nothing (b := c) (hstaged _) rfl "erik" "USD"
  have htrim : Text.trim " dora " = "dora" := by decide +kernel
  obtain ⟨a, ha⟩ := hdora.1.2 ⟨by decide +kernel, ⟨.usd, rfl, by decide +kernel⟩, by decide +kernel⟩
  have hopened := hdora.2.1 a ha
  have hunadded := (herik.2.2.1 (.store (.injectedAt .createAccount))).2 (by decide +kernel)
  refine ⟨⟨a, ha, hopened.1, hopened.2.1.trans htrim, hdora.2.2.2.2.2⟩, ?_, hunadded, herik.2.2.2.2.1 _ hunadded⟩
  exact (hann.2.2.2.1 _ _).2 ⟨by decide +kernel, by decide +kernel, ⟨.cad, rfl, by decide +kernel⟩, by decide +kernel,
    by decide +kernel⟩

end Holder

end Teller
