import Teller.Proofs.Bank.Alone
import Teller.Proofs.Bank.Inside

/-!
# An account is opened, whatever is asked to fail

An account is opened in a unit of work of its own. Three points are passed on the way, each of which may fail, and
between the second and the third the owner must not have an account in the currency yet. What is met first decides
(`Store.obstacle?`); a unit that is given up leaves no trace, and how the rollback fares has no say in the result.

`Attempt.Gives` is what a call that is alone returns and which store it leaves behind, however long it takes.
-/

namespace Teller

/-! ### Points that fail -/

/-- The next call of the point fails. -/
def Faults.Fires (f : Faults) (p : Point) : Prop :=
  ∃ r, f.rule? p = some r ∧ r.nth ≤ r.seen + 1

namespace Faults

variable {f : Faults} {p q : Point}

theorem fires_iff {r : FailRule} (h : f.rule? p = some r) : f.Fires p ↔ r.nth ≤ r.seen + 1 := by
  simp [Fires, h]

instance (f : Faults) (p : Point) : Decidable (f.Fires p) :=
  match h : f.rule? p with
  | some _ => decidable_of_iff _ (fires_iff h).symm
  | .none => isFalse fun ⟨_, hr, _⟩ => by cases h.symm.trans hr

theorem trip_fst (f : Faults) (p : Point) : (f.trip p).1 = decide (f.Fires p) := by
  unfold trip
  cases h : f.rule? p with
  | none =>
    refine (decide_eq_false ?_).symm
    rintro ⟨r, hr, -⟩
    cases h.symm.trans hr
  | some r => exact decide_eq_decide.2 (fires_iff h).symm

/-- The calls of one point do not count for another. -/
theorem fires_trip_of_ne (h : p ≠ q) : (f.trip q).2.Fires p ↔ f.Fires p := by
  rw [Fires, Fires, rule?_trip_of_ne h]

end Faults

/-- The value, unless there is a failure. -/
def orFail {ε α : Type} (a : α) : Option ε → Except ε α
  | some e => .error e
  | none => .ok a

namespace Store

variable {s : Store} {p : Point}

/-- The store after a call of a point. -/
def tripped (s : Store) (p : Point) : Store :=
  { s with faults := (s.faults.trip p).2 }

/-- The failure of the next call of a point. -/
def fault? (s : Store) (p : Point) : Option StoreError :=
  if s.faults.Fires p then some (.injectedAt p) else none

theorem trip_eq (s : Store) (p : Point) : s.trip p = (orFail () (s.fault? p), s.tripped p) := by
  have htrip : s.trip p = (if (s.faults.trip p).1 = true then .error (.injectedAt p) else .ok (), s.tripped p) := rfl
  rw [htrip, Faults.trip_fst, fault?]
  by_cases h : s.faults.Fires p
  · rw [if_pos h, if_pos (decide_eq_true h)]
    rfl
  · rw [if_neg h, if_neg (by simpa using h)]
    rfl

theorem fault?_congr {s' : Store} (h : s'.faults.Fires p ↔ s.faults.Fires p) : s'.fault? p = s.fault? p := by
  unfold fault?
  simp only [h]

end Store

/-! ### Calls that are alone -/

/-- Alone, the call returns `r` and leaves the store `s` behind. -/
structure Attempt.Gives {ε α : Type} (m : Attempt ε α) (b : Bank) (r : Except ε α) (s : Store) : Prop where
  value : (m.run.run b).value = r
  store : (m.run.run b).state.store = s
  refusals : (m.run.run b).state.refusals = b.refusals

namespace Attempt.Gives

variable {ε δ α β : Type} {m : Attempt ε α} {f : α → Attempt ε β} {b : Bank} {a : α} {e : ε} {r : Except ε α}
  {r' : Except ε β} {s s' : Store}

theorem done (hs : b.store = s) (r : Except ε α) : Gives (ExceptT.mk (Timed.done r)) b r s :=
  ⟨rfl, hs, rfl⟩

theorem of_run {pauses : List (Time.Span × Bank)} {b' : Bank} (h : m.run.run b = ⟨pauses, r, b'⟩)
    (hr : b'.refusals = b.refusals) : m.Gives b r b'.store :=
  ⟨by rw [h], by rw [h], by rw [h]; exact hr⟩

theorem of_store {g : Store → Except ε α × Store} (h : g b.store = (r, s)) : Gives (Attempt.store g) b r s :=
  of_run (run_store h) rfl

theorem bind (h : m.Gives b (.ok a) s) (hf : (f a).Gives (m.run.run b).state r' s') : (m >>= f).Gives b r' s' := by
  have hrun := run_bind_of_ok h.value f
  exact ⟨by rw [hrun]; exact hf.value, by rw [hrun]; exact hf.store,
    by rw [hrun]; exact hf.refusals.trans h.refusals⟩

theorem bind_ok (h : m.Gives b (.ok a) s)
    (hf : ∀ b' : Bank, b'.store = s → b'.refusals = b.refusals → (f a).Gives b' r' s') :
    (m >>= f).Gives b r' s' :=
  h.bind (hf _ h.store h.refusals)

theorem bind_error (h : m.Gives b (.error e) s) : (m >>= f).Gives b (.error e) s := by
  have hrun := run_bind_of_error h.value f
  exact ⟨by rw [hrun], by rw [hrun]; exact h.store, by rw [hrun]; exact h.refusals⟩

theorem mapError (h : m.Gives b r s) (g : ε → δ) : (m.mapError g).Gives b (r.mapError g) s := by
  have hrun := run_mapError m g b
  exact ⟨by rw [hrun]; exact congrArg (·.mapError g) h.value, by rw [hrun]; exact h.store,
    by rw [hrun]; exact h.refusals⟩

/-- What is done surely may do what it likes but for the store and the refusals. -/
theorem sure_bind {n : Act α} (hs : (n.run b).state.store = s) (hr : (n.run b).state.refusals = b.refusals)
    (hf : ∀ b' : Bank, b'.store = s → b'.refusals = b.refusals → (f (n.run b).value).Gives b' r' s') :
    (sure n >>= f).Gives b r' s' := by
  have hrest := hf _ hs hr
  refine ⟨(value_sure_bind n f b).trans hrest.value, (state_sure_bind n f b).symm ▸ hrest.store, ?_⟩
  rw [state_sure_bind]
  exact hrest.refusals.trans hr

theorem of_sure {n : Act α} (hr : (n.run b).state.refusals = b.refusals) :
    Gives (sure n : Attempt ε α) b (.ok (n.run b).value) (n.run b).state.store := by
  have hrun : (sure n : Attempt ε α).run.run b = _ := Timed.run_bind n _ b
  exact ⟨by rw [hrun]; rfl, by rw [hrun]; rfl, by rw [hrun]; exact hr⟩

theorem outcome_bind {n : Attempt δ β} {x : Except δ β} {g : Except δ β → Attempt ε α} (h : n.Gives b x s)
    (hf : ∀ b' : Bank, b'.store = s → b'.refusals = b.refusals → (g x).Gives b' r s') :
    (sure n.outcome >>= g).Gives b r s' := by
  refine sure_bind (n := n.outcome) h.store h.refusals fun b' hs hr => ?_
  have hvalue : (n.outcome.run b).value = x := h.value
  rw [hvalue]
  exact hf b' hs hr

end Attempt.Gives

namespace Bank

open Attempt

variable {b : Bank} {u : Int} {d : Draft}

theorem gives_strike (p : Point) (b : Bank) :
    (strike p).Gives b (orFail () (b.store.fault? p)) (b.store.tripped p) := by
  have htrip := b.store.trip_eq p
  refine Gives.sure_bind (n := Act.store (·.trip p)) (congrArg Prod.snd htrip) rfl fun b' hs _ => ?_
  have hvalue : ((Act.store (·.trip p)).run b).value = orFail () (b.store.fault? p) := congrArg Prod.fst htrip
  rw [hvalue]
  cases b.store.fault? p with
  | none => exact .done hs _
  | some e => exact Gives.sure_bind (n := Act.note _) hs rfl fun b'' hs' _ => .done hs' _

theorem gives_pass (p : Point) (b : Bank) : (pass p).Gives b (orFail () (b.store.fault? p)) (b.store.tripped p) := by
  have hstrike : ∀ b' : Bank, b'.store = b.store →
      (strike p).Gives b' (orFail () (b.store.fault? p)) (b.store.tripped p) := fun b' hs => hs ▸ gives_strike p b'
  refine Gives.sure_bind (n := Act.look (·.faults.delay? p)) rfl rfl fun b' hs _ => ?_
  cases ((Act.look (·.faults.delay? p)).run b).value with
  | none => exact hstrike b' hs
  | some d => exact Gives.sure_bind (n := Timed.sleep d) hs rfl fun b'' hs' _ => hstrike b'' hs'

theorem gives_receive {request : Request} {row : Option Int} (hr : b.refusal? request row = none) :
    (receive request row).Gives b (.ok ()) b.store := by
  have hrun := receive_alone request row b
  rw [hr] at hrun
  exact .of_run hrun rfl

theorem gives_read {α : Type} {request : Request} {row : Option Int} {f : Store → Except StoreError α}
    (hr : b.refusal? request row = none) :
    (do receive request row; Attempt.look f : Attempt StoreError α).Gives b (f b.store) b.store := by
  have hrun := read_alone request row f b
  rw [hr] at hrun
  exact .of_run hrun rfl

theorem gives_onceFree {α : Type} {w : Option Int} {k : Int} {f : Store → Except StoreError α × Store}
    {r : Except StoreError α} {s : Store} (hfree : b.store.Free w k) (h : f b.store = (r, s)) :
    (onceFree w k f).Gives b r s := by
  have hrun := onceFree_alone w k f b
  rw [if_pos hfree, h] at hrun
  exact .of_run hrun rfl

theorem gives_beginUnit (hr : b.refusal? .opening none = none) (hf : b.store.fault? .opening = none) :
    beginUnit.Gives b (.ok b.store.nextDraft) (b.store.tripped .opening).openDraft.2 := by
  refine (gives_receive hr).bind_ok fun b' hs _ => ?_
  have hpass := gives_pass .opening b'
  rw [hs, hf] at hpass
  refine hpass.bind_ok fun b'' hs' _ => ?_
  have hopen : (sure (Act.store (·.openDraft)) : Attempt StoreError Int).Gives b'' (.ok b''.store.nextDraft)
      b''.store.openDraft.2 := .of_sure rfl
  rw [hs'] at hopen
  exact hopen

theorem gives_beginUnit_of_fault (hr : b.refusal? .opening none = none) {e : StoreError}
    (hf : b.store.fault? .opening = some e) : beginUnit.Gives b (.error e) (b.store.tripped .opening) := by
  refine (gives_receive hr).bind_ok fun b' hs _ => ?_
  have hpass := gives_pass .opening b'
  rw [hs, hf] at hpass
  exact hpass.bind_error

theorem gives_openAccountIn (hf : b.store.fault? .createAccount = none) {owner : String} {balance : Int}
    {currency : Currency} {r : Except StoreError Account} {s : Store}
    (h : (b.store.tripped .createAccount).stageAccount u owner balance currency = (r, s)) :
    (openAccountIn u owner balance currency).Gives b r s := by
  have hpass := gives_pass .createAccount b
  rw [hf] at hpass
  exact hpass.bind_ok fun b' hs _ => .of_store (by rw [hs, h])

theorem gives_openAccountIn_of_fault {e : StoreError} (hf : b.store.fault? .createAccount = some e) (u : Int)
    (owner : String) (balance : Int) (currency : Currency) :
    (openAccountIn u owner balance currency).Gives b (.error e) (b.store.tripped .createAccount) := by
  have hpass := gives_pass .createAccount b
  rw [hf] at hpass
  exact hpass.bind_error

theorem gives_commit (hf : b.store.fault? .commit = none) {r : Except StoreError Unit} {s : Store}
    (h : (b.store.tripped .commit).publish u = (r, s)) : (commit u).Gives b r s := by
  refine Gives.outcome_bind (gives_pass .commit b) fun b' hs _ => ?_
  rw [hf]
  exact .of_store (by rw [hs, h])

theorem gives_commit_of_fault {e : StoreError} (hf : b.store.fault? .commit = some e) (u : Int) :
    (commit u).Gives b (.error e) ((b.store.tripped .commit).discard u) := by
  refine Gives.outcome_bind (gives_pass .commit b) fun b' hs _ => ?_
  rw [hf]
  exact Gives.sure_bind (n := abandon u) (congrArg (·.discard u) hs) rfl fun b'' hs' _ => .done hs' _

theorem gives_rollback (u : Int) (b : Bank) :
    (rollback u).Gives b (orFail () (b.store.fault? .rollback)) ((b.store.tripped .rollback).discard u) := by
  refine Gives.outcome_bind (gives_pass .rollback b) fun b' hs _ => ?_
  refine Gives.sure_bind (n := abandon u) (congrArg (·.discard u) hs) rfl fun b'' hs' _ => ?_
  cases b.store.fault? .rollback <;> exact .done hs' _

/-- How the rollback fares has no say in the result. -/
theorem gives_undoOpening (u : Int) (e : StoreError) (b : Bank) :
    (undoOpening u e).Gives b (.error e) ((b.store.tripped .rollback).discard u) := by
  refine Gives.outcome_bind (gives_rollback u b) fun b' hs _ => ?_
  cases b.store.fault? .rollback with
  | none => exact .done hs _
  | some f => exact Gives.sure_bind (n := Act.note _) hs rfl fun b'' hs' _ => .done hs' _

end Bank

/-! ### What stands in the way -/

/-- The book with an account opened in it, unless something has stopped that. -/
def Book.opened (b : Book) (a : Account) (obstacle : Option StoreError) : Book :=
  match obstacle with
  | some _ => b
  | none => { b with accounts := b.accounts.put a.id a }

namespace Store

/-- The account that is opened next. -/
def newAccount (s : Store) (owner : String) (balance : Int) (currency : Currency) : Account :=
  ⟨s.nextAccount, owner, balance, currency, s.now⟩

/-- The owner has an account in the currency. -/
def taken? (s : Store) (owner : String) (currency : Currency) : Option StoreError :=
  if s.book.Taken owner currency then some (.ownerHasAccount owner currency.code) else none

/-- What may stop the opening of an account in its unit of work, in the order in which it is met. -/
def obstaclesIn (s : Store) (owner : String) (currency : Currency) : List (Option StoreError) :=
  [s.fault? .createAccount, s.taken? owner currency, s.fault? .commit]

/-- What stops the opening of an account. -/
def obstacle? (s : Store) (owner : String) (currency : Currency) : Option StoreError :=
  (s.fault? .opening :: s.obstaclesIn owner currency).findSome? id

variable {s : Store} {u : Int} {a : Account}

theorem stage_taken {owner : String} {currency : Currency} (h : s.book.Taken owner currency) (u balance : Int) :
    s.stageAccount u owner balance currency = (.error (.ownerHasAccount owner currency.code), s) :=
  if_pos (.inr h)

/-- The first account that a unit of work opens. -/
theorem stage_new (hu : s.drafts.get? u = some .empty) {owner : String} {currency : Currency}
    (h : ¬ s.book.Taken owner currency) (balance : Int) :
    ∃ s', s.stageAccount u owner balance currency = (.ok (s.newAccount owner balance currency), s') ∧
      s'.drafts = s.drafts.put u
        { Draft.empty with accounts := Table.empty.put s.nextAccount (s.newAccount owner balance currency) } ∧
      s'.book = s.book ∧ s'.faults = s.faults := by
  have hnone : ¬ Draft.empty.Stages owner currency := by
    rintro ⟨x, hx, -⟩
    cases hx
  unfold stageAccount
  rw [draft_eq hu, if_neg (not_or.2 ⟨hnone, h⟩)]
  exact ⟨_, rfl, rfl, rfl, rfl⟩

/-- An account is published if its owner has no other. -/
theorem publish_new (hu : s.drafts.get? u = some { Draft.empty with accounts := Table.empty.put a.id a })
    (hfree : ¬ s.book.Taken a.owner a.currency) :
    ∃ s', s.publish u = (.ok (), s') ∧ s'.drafts = s.drafts.erase u ∧ s'.book = s.book.opened a none := by
  have hrival : Draft.rival? { Draft.empty with accounts := Table.empty.put a.id a } s.book = none := by
    refine List.find?_eq_none.2 fun x hx => ?_
    obtain rfl : x = a := List.mem_singleton.1 hx
    simp [hfree]
  rw [publish, draft_eq hu, hrival]
  exact ⟨_, rfl, rfl, rfl⟩

end Store

namespace Bank

open Attempt

variable {b : Bank} {u : Int}

/-- The unit of work is open: the account is staged and committed, or the unit is given up. -/
theorem gives_opening_in (hu : b.store.drafts.get? u = some .empty) (owner : String) (balance : Int)
    (currency : Currency) :
    let a := b.store.newAccount owner balance currency
    let obstacle := (b.store.obstaclesIn owner currency).findSome? id
    ∃ s', Gives (do
        match ← .sure (openAccountIn u owner balance currency).outcome with
        | .ok a =>
          commit u
          return a
        | .error e => undoOpening u e) b (orFail a obstacle) s' ∧
      s'.drafts = b.store.drafts.erase u ∧ s'.book = b.store.book.opened a obstacle := by
  intro a obstacle
  have hundone (e : StoreError) (b₂ : Bank) (hb : b₂.store = b.store.tripped .createAccount) :
      (undoOpening u e).Gives b₂ (.error e) (((b.store.tripped .createAccount).tripped .rollback).discard u) :=
    hb ▸ gives_undoOpening u e b₂
  have hobstacle : obstacle = (b.store.obstaclesIn owner currency).findSome? id := rfl
  unfold Store.obstaclesIn Store.taken? at hobstacle
  cases hcreate : b.store.fault? .createAccount with
  | some e =>
    have hstage := gives_openAccountIn_of_fault hcreate u owner balance currency
    simp only [hcreate, List.findSome?_cons, id_eq] at hobstacle
    rw [hobstacle]
    exact ⟨_, Gives.outcome_bind hstage fun b₂ hb _ => hundone e b₂ hb, rfl, rfl⟩
  | none =>
  by_cases htaken : b.store.book.Taken owner currency
  · have hstage := gives_openAccountIn hcreate
      (Store.stage_taken (s := b.store.tripped .createAccount) htaken u balance)
    simp only [hcreate, htaken, if_true, List.findSome?_cons, id_eq] at hobstacle
    rw [hobstacle]
    exact ⟨_, Gives.outcome_bind hstage fun b₂ hb _ => hundone _ b₂ hb, rfl, rfl⟩
  obtain ⟨s₂, hstaged, hdrafts, hbook, hfaults⟩ :=
    Store.stage_new (s := b.store.tripped .createAccount) hu htaken balance
  have hstage : (openAccountIn u owner balance currency).Gives b (.ok a) s₂ := gives_openAccountIn hcreate hstaged
  have hcommit : s₂.fault? .commit = b.store.fault? .commit := by
    refine Store.fault?_congr ?_
    rw [hfaults]
    exact Faults.fires_trip_of_ne (by decide)
  have herase : (s₂.discard u).drafts = b.store.drafts.erase u := by
    show s₂.drafts.erase u = _
    rw [hdrafts]
    exact Table.erase_put _ _ _
  cases hfault : b.store.fault? .commit with
  | some e =>
    simp only [hcreate, htaken, hfault, if_false, List.findSome?_cons, id_eq] at hobstacle
    rw [hobstacle]
    refine ⟨(s₂.tripped .commit).discard u, Gives.outcome_bind hstage fun b₂ hb _ => ?_, herase, hbook⟩
    have hended := gives_commit_of_fault (b := b₂) (by rw [hb, hcommit, hfault]) u
    rw [hb] at hended
    exact hended.bind_error
  | none =>
    simp only [hcreate, htaken, hfault, if_false, List.findSome?_cons, List.findSome?_nil, id_eq] at hobstacle
    rw [hobstacle]
    have hu₂ : (s₂.tripped .commit).drafts.get? u = some { Draft.empty with accounts := Table.empty.put a.id a } := by
      show s₂.drafts.get? u = _
      rw [hdrafts]
      exact Table.get?_put_self _ _ _
    have hfree : ¬ (s₂.tripped .commit).book.Taken a.owner a.currency := by
      show ¬ s₂.book.Taken _ _
      rw [hbook]
      exact htaken
    obtain ⟨s₃, hpublish, hdrafts₃, hbook₃⟩ := Store.publish_new hu₂ hfree
    refine ⟨s₃, Gives.outcome_bind hstage fun b₂ hb _ => ?_, hdrafts₃.trans herase, hbook₃.trans ?_⟩
    · have hended := gives_commit (b := b₂) (by rw [hb, hcommit, hfault]) (hb ▸ hpublish)
      exact hended.bind_ok fun b₃ hb₃ _ => .done hb₃ _
    · exact congrArg (·.opened a none) hbook

/-- Alone, the opening of an account returns it, or what has stopped it first; in either case no unit of work is
left over, and in the latter the book is as before. -/
theorem gives_createAccount (hs : b.store.Sound) (hr : b.refusal? .opening none = none) (owner : String)
    (balance : Int) (currency : Currency) :
    let a := b.store.newAccount owner balance currency
    let obstacle := b.store.obstacle? owner currency
    ∃ s', (createAccount owner balance currency).Gives b (orFail a obstacle) s' ∧
      s'.drafts = b.store.drafts ∧ s'.book = b.store.book.opened a obstacle := by
  intro a obstacle
  have hobstacle : obstacle = (b.store.fault? .opening :: b.store.obstaclesIn owner currency).findSome? id := rfl
  cases hopening : b.store.fault? .opening with
  | some e =>
    simp only [hopening, List.findSome?_cons, id_eq] at hobstacle
    rw [hobstacle]
    exact ⟨_, (gives_beginUnit_of_fault hr hopening).bind_error, rfl, rfl⟩
  | none =>
    simp only [hopening, List.findSome?_cons, id_eq] at hobstacle
    rw [hobstacle]
    have hbegin := gives_beginUnit hr hopening
    have hstore := hbegin.store
    have hin : (beginUnit.run.run b).state.store.obstaclesIn owner currency = b.store.obstaclesIn owner currency := by
      have hfault (p : Point) (hp : p ≠ .opening) :
          (b.store.tripped .opening).openDraft.2.fault? p = b.store.fault? p :=
        Store.fault?_congr (Faults.fires_trip_of_ne hp)
      rw [hstore, Store.obstaclesIn, hfault _ (by decide), hfault _ (by decide)]
      rfl
    have hu : (beginUnit.run.run b).state.store.drafts.get? b.store.nextDraft = some .empty := by
      rw [hstore]
      exact Table.get?_put_self _ _ _
    obtain ⟨s', hended, hdrafts, hbook⟩ := gives_opening_in hu owner balance currency
    rw [hin, hstore] at hended hbook
    refine ⟨s', hbegin.bind hended, ?_, hbook⟩
    rw [hdrafts, hstore]
    show (b.store.drafts.put b.store.nextDraft .empty).erase b.store.nextDraft = b.store.drafts
    rw [Table.erase_put, Table.erase_of_get?_eq_none (hs.get?_eq_none_of_le (Int.le_refl _))]

end Bank

end Teller
