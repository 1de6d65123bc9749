import Teller.Holder
import Teller.Proofs.Bank.Orderly
import Teller.Proofs.Bank.Pool
import Teller.Proofs.Transfer.Guard

/-!
# Calls that change the book

The calls of the bank by which transfers, entries and accounts come and go, as one kind of call, and
the proof that each of them keeps to its rules among any others (`Call.kept`).
-/

namespace Teller

/-- A call that may change the book. -/
inductive Call where
  | transfer (o : Order) (terms : Terms)
  /-- A principal's request for a transfer is checked and carried out. -/
  | submit (r : TransferRequest) (terms : Terms)
  | createAccount (owner : String) (balance : Int) (currency : Currency)
  | openAccount (owner currency : String)
  | deleteAccount (id : Int)
  | closeAccount (owner : String) (id : Int)

inductive Reply where
  | transfer (r : Except TransferError Receipt)
  | createAccount (r : Except StoreError Account)
  | openAccount (r : Except AccountError Account)
  | deleteAccount (r : Except StoreError Unit)
  | closeAccount (r : Except AccountError Unit)

namespace Call

/-- What the bank does for a call. -/
def act : Call → Act Reply
  | .transfer o terms => do return .transfer (← (o.execute terms).outcome)
  | .submit r terms => do return .transfer (← (r.submit terms).outcome)
  | .createAccount owner balance currency => do
    return .createAccount (← (Bank.createAccount owner balance currency).outcome)
  | .openAccount owner currency => do
    return .openAccount (← (Holder.openAccount owner currency).outcome)
  | .deleteAccount id => do return .deleteAccount (← (Bank.deleteAccount id).outcome)
  | .closeAccount owner id => do return .closeAccount (← (Holder.deleteAccount owner id).outcome)

/-- The balance that an account is opened with by a call. -/
def opening : Call → Int
  | .createAccount _ balance _ => balance
  | _ => 0

/-- The call may pay a balance below zero. -/
def overdraft : Call → Bool
  | .transfer _ terms => terms.overdraft
  | .submit _ terms => terms.overdraft
  | _ => false

/-- The step that gives the verdict on a call. -/
def effect : Call → Verdict → Bank → Bank → Prop
  | .transfer o terms => o.effect Store.Sound terms.overdraft
  | .submit r terms => r.effect terms.overdraft
  | c => Bank.effect c.opening

/-- A verdict comes with a transfer, a new account or the removal of one, or the book stays as it is. -/
theorem effect_book {c : Call} {x : Verdict} {b b' : Bank} (h : c.effect x b b') :
    (∃ o r, Order.Posts o c.overdraft r b.store.book b'.store.book) ∨
      (∃ a, Book.Opens c.opening a b.store.book b'.store.book) ∨
      (∃ id, Book.Removes id b.store.book b'.store.book) ∨ b'.store.book = b.store.book := by
  have horder : ∀ {o : Order} {overdraft : Bool}, o.effect Store.Sound overdraft x b b' →
      (∃ o r, Order.Posts o overdraft r b.store.book b'.store.book) ∨
        b'.store.book = b.store.book := by
    intro o overdraft h
    cases x with
    | posted r => exact .inl ⟨o, r, h.1⟩
    | failed cause => exact .inr (congrArg (·.store.book) h.1)
    | opened a => exact h.elim
    | removed id => exact h.elim
  have haccount : ∀ {balance : Int}, Bank.effect balance x b b' →
      (∃ a, Book.Opens balance a b.store.book b'.store.book) ∨
        ∃ id, Book.Removes id b.store.book b'.store.book := by
    intro balance h
    cases x with
    | opened a => exact .inl ⟨a, h.1⟩
    | removed id => exact .inr ⟨id, h.1⟩
    | posted r => exact h.elim
    | failed cause => exact h.elim
  cases c with
  | transfer o terms => exact (horder h).imp_right fun h => .inr (.inr h)
  | submit r terms => exact (horder h.1).imp_right fun h => .inr (.inr h)
  | createAccount owner balance currency => exact .inr ((haccount h).imp_right .inl)
  | openAccount owner currency => exact .inr ((haccount h).imp_right .inl)
  | deleteAccount id => exact .inr ((haccount h).imp_right .inl)
  | closeAccount owner id => exact .inr ((haccount h).imp_right .inl)

/-- How a call may end. -/
def Ends : Call → Stage Verdict → Reply → Prop
  | .transfer o _, g, .transfer r => o.Ends g r
  | .transfer _ _, _, _ => False
  | .deleteAccount id, g, .deleteAccount r => g.unit = none ∧ (r = .ok () → g.verdict = some (.removed id))
  | _, g, _ => g.unit = none

theorem unit_of_ends {c : Call} {g : Stage Verdict} {x : Reply} (h : c.Ends g x) : g.unit = none := by
  cases c with
  | transfer o terms =>
    cases x with
    | transfer r => exact Order.Ends.unit h
    | _ => exact h.elim
  | deleteAccount id =>
    cases x with
    | deleteAccount r => exact h.1
    | _ => exact h
  | _ => exact h

def protocol : Protocol Call Reply Verdict :=
  ⟨act, Store.Sound, effect, Stage.Idle, Ends⟩

end Call

namespace Call

variable {b : Bank}

theorem follows_openAccount (owner currency : String) :
    (Holder.openAccount owner currency).outcome.Follows (Bank.conduct 0).rules
      (fun g _ _ => g.unit = none) .start b := by
  show Timed.Follows _ _ (ExceptT.run (Holder.openAccount owner currency)) _ _
  unfold Holder.openAccount
  dsimp only
  split
  · exact rfl
  cases Currency.ofCode? currency with
  | none => exact rfl
  | some c =>
    dsimp only
    rw [pure_bind]
    refine Attempt.follows_bind.2 (Attempt.follows_mapError.2 (Conduct.follows_createAccount
      fun x r t => ?_))
    cases r with
    | error e => exact rfl
    | ok a =>
      exact Attempt.follows_sure_bind.2 (Conduct.follows_note (by rintro c ⟨⟩) fun t' _ => rfl)

theorem follows_closeAccount (owner : String) (id : Int) :
    (Holder.deleteAccount owner id).outcome.Follows (Bank.conduct 0).rules
      (fun g _ _ => g.unit = none) .start b := by
  have hdelete : ∀ t : Bank, (do
      (Bank.deleteAccount id).mapError (Holder.deletionError id)
      .sure (.note (.accountDeleted id owner)) : Attempt AccountError Unit).run.Follows
        (Bank.conduct 0).rules (fun g _ _ => g.unit = none) .start t := by
    intro t
    refine Attempt.follows_bind.2 (Attempt.follows_mapError.2 (Conduct.follows_deleteAccount
      (fun e t' => rfl) fun t' => ?_))
    exact Attempt.follows_sure.2 (Conduct.follows_note (by rintro c ⟨⟩) fun t'' _ => rfl)
  unfold Holder.deleteAccount Holder.account
  refine Attempt.follows_bind.2 (Attempt.follows_bind.2 (Attempt.follows_mapError.2
    (Conduct.follows_account fun r t _ _ => ?_)))
  cases r with
  | error e => exact rfl
  | ok a =>
    show Timed.Follows _ _ (ExceptT.run (if a.owner ≠ owner then _ else _)) _ _
    split
    · exact rfl
    · exact hdelete t

section

-- what an account is opened for is not looked at any more
attribute [local irreducible] Holder.openAccount

theorem kept : protocol.Kept where
  invariant := Store.Sound.invariant
  follows c b _ := by
    cases c with
    | transfer o terms => exact Timed.follows_bind.2 (o.follows_execute_sound terms b)
    | submit r terms => exact Timed.follows_bind.2 (r.follows_submit terms)
    | createAccount owner balance currency =>
      exact Timed.follows_bind.2 (Conduct.follows_createAccount fun _ _ _ => rfl)
    | openAccount owner currency => exact Timed.follows_bind.2 (follows_openAccount owner currency)
    | deleteAccount id =>
      exact Timed.follows_bind.2 (Conduct.follows_deleteAccount (fun _ _ => ⟨rfl, by rintro ⟨⟩⟩)
        fun _ => ⟨rfl, fun _ => rfl⟩)
    | closeAccount owner id => exact Timed.follows_bind.2 (follows_closeAccount owner id)

end

end Call

end Teller
