import Teller.Proofs.Ledger.Reading
import Teller.Proofs.Ledger.Unique
import Teller.Proofs.Transfer.Alone
import Teller.Proofs.Transfer.Objection

/-!
# How it is reported that an account is missing

An account may be removed at any moment while an order over it is under way, or may not have been there at all.
Three places notice (`Notice`): the guard, the rows that are staged, which refer to the account, and the adjustment
of its balance. Each has its own failure, and only the first and the last are reported as an account that is not
found: a row that cannot be staged is reported as a transfer that has failed.

What a call returns is read off the steps it has taken, whatever others have done in between (`Timed.Walk`). As
long as no failure is asked for, an order fails of nothing but what it meets in the store (`Order.Reports`).
-/

namespace Teller

open Timed Attempt

/-- No failure is asked for, neither at a point of the store nor before it. -/
def Bank.Faultless (b : Bank) : Prop :=
  b.store.faults.rules = [] ∧ b.refusals = []

instance (b : Bank) : Decidable b.Faultless := by
  unfold Bank.Faultless
  infer_instance

/-- Where it is noticed that an account is missing. -/
inductive Notice where
  /-- The guard reads the account. -/
  | guard
  /-- A row that refers to the account is staged. -/
  | staging
  | adjustment
deriving DecidableEq

/-- What is reported then. -/
def Notice.error (id : Int) : Notice → TransferError
  | .guard => .accountNotFound id
  | .staging => .work (.aborted (.noSuchAccount id))
  | .adjustment => .work (.aborted (.accountNotFound id))

/-- The account has been missing at one of the steps. -/
def Absent (l : List (Bank × Bank)) (id : Int) : Prop :=
  ∃ s ∈ l, s.1.store.book.accounts.get? id = none

/-- The failure has nothing to do with an account that is missing, and is not reported as one. -/
def TransferError.Unrelated (e : TransferError) : Prop :=
  (∀ x id, e ≠ Notice.error id x) ∧ e.status ≠ 404

/-- The failure tells of an account of the order that has been missing, or of something else. -/
def Order.Reports (o : Order) (l : List (Bank × Bank)) (e : TransferError) : Prop :=
  (∃ x id, e = Notice.error id x ∧ (id = o.source ∨ id = o.target) ∧ Absent l id) ∨ e.Unrelated

/-- The store has stopped the order: an account of it has been missing, its row has been locked for too long, or
its balance does not allow the change. -/
inductive Order.Stops (o : Order) (l : List (Bank × Bank)) : StoreError → Prop
  | missing {id : Int} {e : StoreError} (he : e = .noSuchAccount id ∨ e = .accountNotFound id)
    (hid : id = o.source ∨ id = o.target) (h : Absent l id) : Stops o l e
  | locked (k : Int) : Stops o l (.lockTimeout k)
  | insufficient (k balance delta : Int) : Stops o l (.insufficientFunds k balance delta)
  | overflow (k : Int) : Stops o l (.balanceOverflow k)

/-- An account is reported as not found exactly if it is not the staging of a row that has noticed. -/
theorem Notice.reported (x : Notice) (id : Int) : ((x.error id).code, (x.error id).status) =
    if x = .staging then ("TRANSFER_FAILED", 500) else ("ACCOUNT_NOT_FOUND", 404) := by
  cases x <;> rfl

variable {α β : Type} {l l' : List (Bank × Bank)} {o : Order} {id u : Int} {p : Point} {e : TransferError}

theorem Absent.left (h : Absent l id) : Absent (l ++ l') id :=
  h.imp fun _ hs => ⟨List.mem_append_left _ hs.1, hs.2⟩

theorem Absent.right (h : Absent l' id) : Absent (l ++ l') id :=
  h.imp fun _ hs => ⟨List.mem_append_right _ hs.1, hs.2⟩

namespace Order

theorem Stops.left {e : StoreError} (h : o.Stops l e) : o.Stops (l ++ l') e := by
  cases h with
  | missing he hid h => exact .missing he hid h.left
  | locked k => exact .locked k
  | insufficient k balance delta => exact .insufficient k balance delta
  | overflow k => exact .overflow k

theorem Stops.right {e : StoreError} (h : o.Stops l' e) : o.Stops (l ++ l') e := by
  cases h with
  | missing he hid h => exact .missing he hid h.right
  | locked k => exact .locked k
  | insufficient k balance delta => exact .insufficient k balance delta
  | overflow k => exact .overflow k

theorem Reports.left (h : o.Reports l e) : o.Reports (l ++ l') e := by
  refine h.imp_left ?_
  rintro ⟨x, id, he, hid, habsent⟩
  exact ⟨x, id, he, hid, habsent.left⟩

theorem Reports.right (h : o.Reports l' e) : o.Reports (l ++ l') e := by
  refine h.imp_left ?_
  rintro ⟨x, id, he, hid, habsent⟩
  exact ⟨x, id, he, hid, habsent.right⟩

theorem Reports.unrelated (status : Nat) (he : ∀ x id, e ≠ Notice.error id x) (hstatus : e.status = status)
    (hne : status ≠ 404) : o.Reports l e :=
  .inr ⟨he, hstatus ▸ hne⟩

theorem Stops.reports {e : StoreError} (h : o.Stops l e) : o.Reports l (.work (.aborted e)) := by
  have hother : ∀ {e : StoreError}, (∀ k, e ≠ .noSuchAccount k) → (∀ k, e ≠ .accountNotFound k) →
      ∀ x id, TransferError.work (.aborted e) ≠ Notice.error id x := by
    rintro e hstaging hadjustment (_ | _ | _) id heq
    · cases heq
    · exact hstaging id (WorkError.aborted.inj (TransferError.work.inj heq))
    · exact hadjustment id (WorkError.aborted.inj (TransferError.work.inj heq))
  cases h with
  | missing he hid h =>
    rcases he with rfl | rfl
    · exact .inl ⟨.staging, _, rfl, hid, h⟩
    · exact .inl ⟨.adjustment, _, rfl, hid, h⟩
  | locked k => exact .unrelated 409 (hother (by rintro _ ⟨⟩) (by rintro _ ⟨⟩)) rfl (by decide)
  | insufficient k balance delta =>
    exact .unrelated 422 (hother (by rintro _ ⟨⟩) (by rintro _ ⟨⟩)) rfl (by decide)
  | overflow k => exact .unrelated 500 (hother (by rintro _ ⟨⟩) (by rintro _ ⟨⟩)) rfl (by decide)

end Order

/-! ### Steps of the store -/

namespace Store

variable {s : Store} {source target amount account delta : Int} {floor : Bool} {err : StoreError}

theorem trip_of_rules_nil (h : s.faults.rules = []) (p : Point) : (s.trip p).1 = .ok () := by
  have hrule : s.faults.rule? p = none := by
    unfold Faults.rule?
    rw [h]
    rfl
  unfold trip Faults.trip
  rw [hrule]
  rfl

/-- What a unit of work does not see is not in the book either. -/
theorem get?_of_seen?_eq_none (h : s.seen? u id = none) : s.book.accounts.get? id = none :=
  (Option.or_eq_none_iff.1 h).2

theorem stageTransfer_error (hamount : 0 < amount) (h : (s.stageTransfer u source target amount).1 = .error err) :
    ∃ id, (id = source ∨ id = target) ∧ err = .noSuchAccount id ∧ s.book.accounts.get? id = none := by
  unfold stageTransfer at h
  rw [if_neg (Int.not_le.2 hamount)] at h
  split at h
  · rename_i hsource
    exact ⟨source, .inl rfl, (Except.error.inj h).symm, get?_of_seen?_eq_none hsource⟩
  · split at h
    · rename_i htarget
      exact ⟨target, .inr rfl, (Except.error.inj h).symm, get?_of_seen?_eq_none htarget⟩
    · cases h

theorem stageEntry_error (h : (s.stageEntry u account amount).1 = .error err) :
    err = .noSuchAccount account ∧ s.book.accounts.get? account = none := by
  unfold stageEntry at h
  split at h
  · rename_i hseen
    exact ⟨(Except.error.inj h).symm, get?_of_seen?_eq_none hseen⟩
  · cases h

theorem adjust_error (h : (s.adjust u id delta floor).1 = .error err) :
    (err = .accountNotFound id ∧ s.book.accounts.get? id = none) ∨
      (∃ k, err = .balanceOverflow k) ∨ ∃ k balance delta, err = .insufficientFunds k balance delta := by
  unfold adjust seen at h
  cases hseen : s.seen? u id with
  | none =>
    rw [hseen] at h
    exact .inl ⟨(Except.error.inj h).symm, get?_of_seen?_eq_none hseen⟩
  | some a =>
    rw [hseen] at h
    refine .inr ?_
    dsimp only at h
    cases hadd : a.add delta floor with
    | ok b =>
      rw [hadd] at h
      cases h
    | error f =>
      rw [hadd] at h
      obtain rfl := Except.error.inj h
      unfold Account.add at hadd
      split at hadd
      · exact .inl ⟨_, (Except.error.inj hadd).symm⟩
      · split at hadd
        · exact .inr ⟨_, _, _, (Except.error.inj hadd).symm⟩
        · cases hadd

theorem publish_error (h : (s.publish u).1 = .error err) : ∃ owner currency, err = .ownerHasAccount owner currency := by
  unfold publish at h
  dsimp only at h
  split at h
  · exact ⟨_, _, (Except.error.inj h).symm⟩
  · cases h

end Store

/-! ### What a call returns while no failure is asked for -/

/-- No failure is asked for at any of the steps. -/
def AllFaultless (l : List (Bank × Bank)) : Prop :=
  ∀ s ∈ l, s.1.Faultless

theorem allFaultless_append : AllFaultless (l ++ l') ↔ AllFaultless l ∧ AllFaultless l' :=
  List.forall_mem_append

namespace Bank

variable {request : Request} {row : Option Int} {err : StoreError}

theorem walk_receive {r : Except StoreError Unit} (hl : AllFaultless l)
    (h : Walk (receive request row).run l (.done r)) : r = .ok () := by
  obtain ⟨l₁, l₂, b, rfl, hget, hrest⟩ := walk_sure_bind h
  obtain ⟨s, rfl, hs⟩ := Walk.of_step (f := fun b : Bank => (b, b)) hget
  obtain rfl : b = s := hs
  have hnone : b.refusal? request row = none :=
    refusal?_of_nil ((allFaultless_append.1 hl).1 _ List.mem_cons_self).2 _ _
  rw [hnone] at hrest
  obtain ⟨-, hr⟩ := hrest.of_done
  exact Timed.done.inj hr

theorem walk_strike {r : Except StoreError Unit} (hl : AllFaultless l) (h : Walk (strike p).run l (.done r)) :
    r = .ok () := by
  obtain ⟨l₁, l₂, x, rfl, htrip, hrest⟩ := walk_sure_bind h
  obtain ⟨s, rfl, rfl⟩ := walk_store htrip
  have hfaultless : s.Faultless := (allFaultless_append.1 hl).1 _ List.mem_cons_self
  rw [Store.trip_of_rules_nil hfaultless.1] at hrest
  obtain ⟨-, hr⟩ := hrest.of_done
  exact Timed.done.inj hr

theorem walk_pass {r : Except StoreError Unit} (hl : AllFaultless l) (h : Walk (pass p).run l (.done r)) :
    r = .ok () := by
  obtain ⟨l₁, l₂, delay, rfl, -, hrest⟩ := walk_sure_bind h
  have hl₂ := (allFaultless_append.1 hl).2
  cases delay with
  | none => exact walk_strike hl₂ hrest
  | some d =>
    obtain ⟨l₃, l₄, _, rfl, -, hlast⟩ := walk_sure_bind hrest
    exact walk_strike (allFaultless_append.1 hl₂).2 hlast

/-- A call that passes a point fails of what comes after it. -/
theorem walk_pass_bind {m : Unit → Attempt StoreError α} {r : Except StoreError α} (hl : AllFaultless l)
    (h : Walk (pass p >>= m).run l (.done r)) : ∃ l₁ l₂, l = l₁ ++ l₂ ∧ Walk (m ()).run l₂ (.done r) := by
  rcases walk_bind h with ⟨e, -, hpass⟩ | ⟨l₁, l₂, _, rfl, -, hrest⟩
  · cases walk_pass hl hpass
  · exact ⟨l₁, l₂, rfl, hrest⟩

theorem walk_account_error (hl : AllFaultless l) (h : Walk (Bank.account id).run l (.done (.error err))) :
    err = .accountNotFound id ∧ Absent l id := by
  rcases walk_bind h with ⟨e, -, hreceive⟩ | ⟨l₁, l₂, _, rfl, -, hlook⟩
  · cases walk_receive hl hreceive
  obtain ⟨s, rfl, hr⟩ := walk_store (f := fun s => (s.book.account id, s)) hlook
  unfold Book.account at hr
  cases ha : s.store.book.accounts.get? id with
  | none =>
    rw [ha] at hr
    exact ⟨Except.error.inj hr, Absent.right ⟨_, List.mem_singleton.2 rfl, ha⟩⟩
  | some a =>
    rw [ha] at hr
    cases hr

theorem walk_writeTransferIn_error (hamount : 0 < o.amount) (hl : AllFaultless l)
    (h : Walk (writeTransferIn u o.source o.target o.amount).run l (.done (.error err))) : o.Stops l err := by
  obtain ⟨l₁, l₂, rfl, hstage⟩ := walk_pass_bind hl h
  obtain ⟨s, rfl, hr⟩ := walk_store (f := (·.stageTransfer u o.source o.target o.amount)) hstage
  obtain ⟨id, hid, rfl, habsent⟩ := Store.stageTransfer_error hamount hr.symm
  exact Order.Stops.right (.missing (.inl rfl) hid ⟨_, List.mem_singleton.2 rfl, habsent⟩)

theorem walk_writeEntryIn_error {amount : Int} (hid : id = o.source ∨ id = o.target) (hl : AllFaultless l)
    (h : Walk (writeEntryIn u id amount).run l (.done (.error err))) : o.Stops l err := by
  obtain ⟨l₁, l₂, rfl, hstage⟩ := walk_pass_bind hl h
  obtain ⟨s, rfl, hr⟩ := walk_store (f := (·.stageEntry u id amount)) hstage
  obtain ⟨rfl, habsent⟩ := Store.stageEntry_error hr.symm
  exact Order.Stops.right (.missing (.inl rfl) hid ⟨_, List.mem_singleton.2 rfl, habsent⟩)

theorem walk_lockRow_error {k : Int} (h : Walk (lockRow u k).run l (.done (.error err))) : err = .lockTimeout k := by
  obtain ⟨l₁, l₂, patience, rfl, -, hwait⟩ := walk_sure_bind h
  cases hwait with
  | cons hs rest =>
    cases hs with
    | ready _ d => cases rest.of_done.2
    | late d => exact Except.error.inj (Timed.done.inj rest.of_done.2)

theorem walk_adjustIn_error {delta : Int} {floor : Bool} (hid : id = o.source ∨ id = o.target) (hl : AllFaultless l)
    (h : Walk (adjustIn u id delta floor).run l (.done (.error err))) : o.Stops l err := by
  obtain ⟨l₁, l₂, rfl, hrest⟩ := walk_pass_bind hl h
  refine Order.Stops.right ?_
  rcases walk_bind hrest with ⟨e, he, hlock⟩ | ⟨l₃, l₄, _, rfl, -, hadjust⟩
  · cases he
    rw [walk_lockRow_error hlock]
    exact .locked id
  · obtain ⟨s, rfl, hr⟩ := walk_store (f := (·.adjust u id delta floor)) hadjust
    refine Order.Stops.right ?_
    rcases Store.adjust_error hr.symm with ⟨rfl, habsent⟩ | ⟨k, rfl⟩ | ⟨k, balance, delta, rfl⟩
    · exact .missing (.inr rfl) hid ⟨_, List.mem_singleton.2 rfl, habsent⟩
    · exact .overflow k
    · exact .insufficient k balance delta

theorem walk_beginUnit_error (hl : AllFaultless l) : ¬ Walk beginUnit.run l (.done (.error err)) := by
  intro h
  rcases walk_bind h with ⟨e, -, hreceive⟩ | ⟨l₁, l₂, _, rfl, -, hopen⟩
  · cases walk_receive hl hreceive
  · obtain ⟨l₃, l₄, -, hstore⟩ := walk_pass_bind (allFaultless_append.1 hl).2 hopen
    obtain ⟨l₅, l₆, x, rfl, -, hdone⟩ := Walk.of_bind hstore
    cases hdone.of_done.2

theorem walk_commit_error (hl : AllFaultless l) (h : Walk (commit u).run l (.done (.error err))) :
    ∃ owner currency, err = .ownerHasAccount owner currency := by
  obtain ⟨l₁, l₂, x, rfl, hpass, hrest⟩ := walk_sure_bind h
  obtain rfl := walk_pass (allFaultless_append.1 hl).1 hpass
  obtain ⟨s, rfl, hr⟩ := walk_store (f := (·.publish u)) hrest
  exact Store.publish_error hr.symm

theorem walk_rollback_ok {r : Except StoreError Unit} (hl : AllFaultless l) (h : Walk (rollback u).run l (.done r)) :
    r = .ok () := by
  obtain ⟨l₁, l₂, x, rfl, hpass, hrest⟩ := walk_sure_bind h
  obtain rfl := walk_pass (allFaultless_append.1 hl).1 hpass
  obtain ⟨l₃, l₄, _, rfl, -, hlast⟩ := walk_sure_bind hrest
  exact Timed.done.inj hlast.of_done.2

end Bank

/-- A computation that has not been left at its limit has taken its own steps. -/
theorem Timed.Walk.of_within {σ : Type} {m : Timed σ α} {limit : Time.Span} {l : List (σ × σ)} {a : α}
    (h : Walk (m.within limit) l (.done (some a))) : Walk m l (.done a) := by
  induction m generalizing limit l with
  | done b =>
    obtain ⟨rfl, heq⟩ := h.of_done
    cases heq
    exact .nil
  | act change next ih =>
    cases h with
    | cons hs rest =>
      cases hs
      exact .cons .act (ih _ rest)
  | wait span ready change next late ihNext ihLate =>
    cases h with
    | cons hs rest =>
      cases hs with
      | ready hready d => exact .cons (.ready hready d) (ihNext _ d rest)
      | late d =>
        dsimp only at rest
        split at rest
        · exact .cons (.late d) (ihLate d rest)
        · cases rest.of_done.2

/-! ### What an order fails of -/

namespace Order

theorem adjustments_account (o : Order) : (o.adjustments.1.account = o.source ∨ o.adjustments.1.account = o.target) ∧
    (o.adjustments.2.account = o.source ∨ o.adjustments.2.account = o.target) := by
  unfold adjustments
  split
  · exact ⟨.inl rfl, .inr rfl⟩
  · exact ⟨.inr rfl, .inl rfl⟩

theorem walk_work_error {overdraft : Bool} {err : StoreError} (hamount : 0 < o.amount) (hl : AllFaultless l)
    (h : Walk ((o.work overdraft).run u).run l (.done (.error err))) : o.Stops l err := by
  obtain ⟨hfirst, hsecond⟩ := o.adjustments_account
  rw [run_work] at h
  rcases walk_bind h with ⟨e, he, htransfer⟩ | ⟨l₁, l₂, _, rfl, -, h⟩
  · cases he
    exact Bank.walk_writeTransferIn_error hamount hl htransfer
  have hl := (allFaultless_append.1 hl).2
  refine Stops.right ?_
  rcases walk_bind h with ⟨e, he, hentry⟩ | ⟨l₁, l₂, _, rfl, -, h⟩
  · cases he
    exact Bank.walk_writeEntryIn_error (.inl rfl) hl hentry
  have hl := (allFaultless_append.1 hl).2
  refine Stops.right ?_
  rcases walk_bind h with ⟨e, he, hentry⟩ | ⟨l₁, l₂, _, rfl, -, h⟩
  · cases he
    exact Bank.walk_writeEntryIn_error (.inr rfl) hl hentry
  have hl := (allFaultless_append.1 hl).2
  refine Stops.right ?_
  rcases walk_bind h with ⟨e, he, hadjust⟩ | ⟨l₁, l₂, _, rfl, -, h⟩
  · cases he
    exact Bank.walk_adjustIn_error hfirst hl hadjust
  have hl := (allFaultless_append.1 hl).2
  refine Stops.right ?_
  rcases walk_bind h with ⟨e, he, hadjust⟩ | ⟨l₁, l₂, _, rfl, -, h⟩
  · cases he
    exact Bank.walk_adjustIn_error hsecond hl hadjust
  · cases h.of_done.2

theorem walk_outcome_error {overdraft : Bool} {deadline : Option Time.Span} {cause : WorkError} (hamount : 0 < o.amount)
    (hl : AllFaultless l) (h : Walk ((o.work overdraft).outcome deadline u) l (.done (.error cause))) :
    o.Reports l (.work cause) := by
  have haborted : ∀ {r : Except StoreError Receipt}, Walk ((o.work overdraft).run u).run l (.done r) →
      r.mapError WorkError.aborted = .error cause → o.Reports l (.work cause) := by
    intro r hwork hr
    cases r with
    | ok a => cases hr
    | error e =>
      cases hr
      exact (walk_work_error hamount hl hwork).reports
  unfold Work.outcome at h
  cases deadline with
  | none =>
    obtain ⟨l₁, l₂, r, rfl, hwork, hdone⟩ := Walk.of_bind h
    obtain ⟨rfl, hr⟩ := hdone.of_done
    rw [List.append_nil] at haborted ⊢
    exact haborted hwork (Timed.done.inj hr).symm
  | some limit =>
    obtain ⟨l₁, l₂, r, rfl, hwork, hdone⟩ := Walk.of_bind h
    cases r with
    | none =>
      obtain ⟨-, hr⟩ := hdone.of_done
      cases hr
      exact .unrelated 504 (by rintro (_ | _ | _) id ⟨⟩) rfl (by decide)
    | some r =>
      obtain ⟨rfl, hr⟩ := hdone.of_done
      rw [List.append_nil] at haborted ⊢
      exact haborted hwork.of_within (Timed.done.inj hr).symm

theorem walk_conclude_error {r : Except WorkError Receipt} {cause : WorkError} (hl : AllFaultless l)
    (h : Walk (Work.conclude u r).run l (.done (.error cause))) :
    r = .error cause ∨ o.Reports l (.work cause) := by
  cases r with
  | ok a =>
    refine .inr ?_
    have hcommitted : Walk ((Bank.commit u).mapError WorkError.commit >>= fun _ => pure a :
      Attempt WorkError Receipt).run l (.done (.error cause)) := h
    rcases walk_bind hcommitted with ⟨e, he, hfailed⟩ | ⟨l₁, l₂, _, rfl, -, hlast⟩
    · cases he
      obtain ⟨y, hy, hcommit⟩ := walk_mapError hfailed
      cases y with
      | ok => cases hy
      | error f =>
        cases hy
        obtain ⟨owner, currency, rfl⟩ := Bank.walk_commit_error hl hcommit
        exact .unrelated 500 (by rintro (_ | _ | _) id ⟨⟩) rfl (by decide)
    · cases hlast.of_done.2
  | error f =>
    obtain ⟨l₁, l₂, _, rfl, -, hrest⟩ := walk_sure_bind h
    obtain ⟨l₃, l₄, y, rfl, hrollback, hlast⟩ := walk_sure_bind hrest
    have hl₃ := (allFaultless_append.1 (allFaultless_append.1 hl).2).1
    obtain rfl := Bank.walk_rollback_ok hl₃ hrollback
    exact .inl (Timed.done.inj hlast.of_done.2).symm

theorem walk_workExecute_error {overdraft : Bool} {deadline : Option Time.Span} {cause : WorkError}
    (hamount : 0 < o.amount) (hl : AllFaultless l)
    (h : Walk ((o.work overdraft).execute deadline).run l (.done (.error cause))) : o.Reports l (.work cause) := by
  rw [Work.execute_eq] at h
  rcases walk_bind h with ⟨e, -, hbegin⟩ | ⟨l₁, l₂, u, rfl, -, hrest⟩
  · obtain ⟨r, hr, hbegin⟩ := walk_mapError hbegin
    cases r with
    | ok => cases hr
    | error err => exact absurd hbegin (Bank.walk_beginUnit_error hl)
  · obtain ⟨l₃, l₄, r, rfl, hwork, hend⟩ := walk_sure_bind hrest
    obtain ⟨hl₃, hl₄⟩ := allFaultless_append.1 (allFaultless_append.1 hl).2
    refine Reports.right ?_
    rcases walk_conclude_error hl₄ hend with rfl | hreports
    · exact (walk_outcome_error hamount hl₃ hwork).left
    · exact hreports.right

/-- An order that is not proper is refused for a reason that no account has to do with. -/
theorem reports_of_improper (h : o.improper? = some e) : o.Reports l e := by
  unfold improper? at h
  split at h
  · cases h
    exact .unrelated 400 (by rintro (_ | _ | _) id ⟨⟩) rfl (by decide)
  · split at h
    · cases h
      exact .unrelated 400 (by rintro (_ | _ | _) id ⟨⟩) rfl (by decide)
    · cases h

theorem walk_execute_error {terms : Terms} (hl : AllFaultless l)
    (h : Walk (o.execute terms).outcome l (.done (.error e))) : o.Reports l e := by
  cases ho : o.improper? with
  | some e' =>
    rw [execute_of_improper ho] at h
    obtain ⟨rfl, heq⟩ := h.of_done
    cases heq
    exact reports_of_improper ho
  | none =>
    rw [execute_of_proper ho] at h
    rcases walk_bind h with ⟨e', he, hexecute⟩ | ⟨l₁, l₂, _, rfl, -, hnoted⟩
    · cases he
      obtain ⟨r, hr, hworked⟩ := walk_mapError hexecute
      cases r with
      | ok a => cases hr
      | error cause =>
        cases hr
        exact walk_workExecute_error (improper?_eq_none_iff.1 ho).1 hl hworked
    · obtain ⟨l₃, l₄, _, rfl, -, hlast⟩ := walk_sure_bind hnoted
      cases hlast.of_done.2

end Order

/-! ### What the guard objects to -/

namespace TransferRequest

variable {r : TransferRequest} {c : Currency}

theorem walk_accountIn_error (hid : id = r.source ∨ id = r.target) (hl : AllFaultless l)
    (h : Walk (accountIn c id).run l (.done (.error e))) : r.order.Reports l e := by
  unfold accountIn at h
  rcases walk_bind h with ⟨e', he, hread⟩ | ⟨l₁, l₂, a, rfl, -, hrest⟩
  · cases he
    obtain ⟨x, hx, hread⟩ := walk_mapError hread
    cases x with
    | ok a => cases hx
    | error err =>
      obtain ⟨rfl, habsent⟩ := Bank.walk_account_error hl hread
      cases hx
      exact .inl ⟨.guard, id, rfl, hid, habsent⟩
  · dsimp only at hrest
    split at hrest
    · cases hrest.of_done.2
      exact .unrelated 400 (by rintro (_ | _ | _) id ⟨⟩) rfl (by decide)
    · cases hrest.of_done.2

theorem walk_check (hl : AllFaultless l) {x : Except TransferError Order} (h : Walk r.check.run l (.done x)) :
    x = .ok r.order ∨ ∃ e, x = .error e ∧ r.order.Reports l e := by
  unfold check at h
  dsimp only at h
  split at h
  · cases h.of_done.2
    exact .inr ⟨_, rfl, .unrelated 400 (by rintro (_ | _ | _) id ⟨⟩) rfl (by decide)⟩
  cases hcode : Currency.ofCode? r.currency with
  | none =>
    rw [hcode] at h
    cases (h : Walk (.done (.error (.unsupportedCurrency r.currency))) l (.done x)).of_done.2
    exact .inr ⟨_, rfl, .unrelated 400 (by rintro (_ | _ | _) id ⟨⟩) rfl (by decide)⟩
  | some c =>
    rw [hcode] at h
    dsimp only at h
    rw [pure_bind] at h
    split at h
    · cases h.of_done.2
      exact .inr ⟨_, rfl, .unrelated 400 (by rintro (_ | _ | _) id ⟨⟩) rfl (by decide)⟩
    rcases walk_bind h with ⟨e', he, hread⟩ | ⟨l₁, l₂, a, rfl, -, hrest⟩
    · exact .inr ⟨e', he, walk_accountIn_error (.inl rfl) hl hread⟩
    have hl₂ := (allFaultless_append.1 hl).2
    split at hrest
    · cases hrest.of_done.2
      exact .inr ⟨_, rfl, .unrelated 401 (by rintro (_ | _ | _) id ⟨⟩) rfl (by decide)⟩
    rcases walk_bind hrest with ⟨e', he, hread⟩ | ⟨l₃, l₄, b, rfl, -, hlast⟩
    · exact .inr ⟨e', he, (walk_accountIn_error (.inr rfl) hl₂ hread).right⟩
    · exact .inl (Timed.done.inj hlast.of_done.2)

theorem walk_submit_error {terms : Terms} (hl : AllFaultless l)
    (h : Walk (r.submit terms).outcome l (.done (.error e))) : r.order.Reports l e := by
  unfold submit at h
  rcases walk_bind h with ⟨e', he, hcheck⟩ | ⟨l₁, l₂, o, rfl, hcheck, hrest⟩
  · cases he
    rcases walk_check hl hcheck with hok | ⟨e', he, hreports⟩
    · cases hok
    · cases he
      exact hreports
  obtain ⟨hl₁, hl₂⟩ := allFaultless_append.1 hl
  obtain rfl : o = r.order := by
    rcases walk_check hl₁ hcheck with hok | ⟨e', he, -⟩
    · exact Except.ok.inj hok
    · cases he
  obtain ⟨l₃, l₄, x, rfl, hexecute, hlast⟩ := walk_sure_bind hrest
  cases x with
  | ok receipt => cases hlast.of_done.2
  | error e' =>
    obtain ⟨l₅, l₆, _, rfl, -, hthrow⟩ := walk_sure_bind hlast
    cases hthrow.of_done.2
    exact (Order.walk_execute_error (allFaultless_append.1 hl₂).1 hexecute).left.right

end TransferRequest

/-! ### The calls of a traffic -/

namespace Traffic

variable {κ : Type} {act : κ → Act α} {b : Bank} {h : List (Happening κ)} {w : Traffic κ α} {n : Int} {f : Flight κ α}

/-- Calls that have not come in have taken no steps. -/
theorem Run.fresh (hr : Run act b h w) :
    (∀ n f, w.flights.get? n = some f → n < w.next) ∧ ∀ n, w.next ≤ n → steps n h = [] := by
  induction hr with
  | start => exact ⟨fun n f hf => (nomatch hf), fun _ _ => rfl⟩
  | step hr hs ih =>
    obtain ⟨hflights, hsteps⟩ := ih
    cases hs with
    | arrival c =>
      refine ⟨fun n f hf => ?_, fun n hn => hsteps n (Int.le_trans (Int.le_of_lt (Int.lt_succ _)) hn)⟩
      rcases Table.get?_put_eq_some_iff.1 hf with ⟨rfl, -⟩ | ⟨-, hf⟩
      · exact Int.lt_succ _
      · exact Int.lt_trans (hflights n f hf) (Int.lt_succ _)
    | @move m f rest b' hf hm =>
      have hmn := hflights m f hf
      refine ⟨fun n g hg => ?_, fun n hn => ?_⟩
      · rcases Table.get?_put_eq_some_iff.1 hg with ⟨rfl, -⟩ | ⟨-, hg⟩
        · exact hmn
        · exact hflights n g hg
      · rw [steps, if_neg (Int.ne_of_lt (Int.lt_of_lt_of_le hmn hn))]
        exact hsteps n hn
    | departure hf hw =>
      exact ⟨fun n g hg => hflights n g (Table.get?_erase_eq_some_iff.1 hg).2, hsteps⟩
    | change faults now refusals => exact ⟨hflights, hsteps⟩

/-- A call has come to where it is by its own steps. -/
theorem Run.walk (hr : Run act b h w) (hf : w.flights.get? n = some f) :
    Walk (act f.call) (steps n h).reverse f.rest := by
  induction hr generalizing n f with
  | start => cases hf
  | step hr hs ih =>
    cases hs with
    | arrival c =>
      rcases Table.get?_put_eq_some_iff.1 hf with ⟨rfl, rfl⟩ | ⟨-, hf⟩
      · rw [steps, hr.fresh.2 _ (Int.le_refl _)]
        exact .nil
      · exact ih hf
    | @move m g rest b' hg hm =>
      rw [steps]
      rcases Table.get?_put_eq_some_iff.1 hf with ⟨rfl, rfl⟩ | ⟨hn, hf⟩
      · rw [if_pos rfl, List.reverse_cons]
        exact (ih hg).append (.cons hm .nil)
      · rw [if_neg hn.symm]
        exact ih hf
    | departure hg hw => exact ih (Table.get?_erase_eq_some_iff.1 hf).2
    | change faults now refusals => exact ih hf

/-- A call has gone ahead to what is left of it and to the bank then, and nobody else has. -/
structure Advance (J : Bank → Prop) (n : Int) (c : κ) (w : Traffic κ α) (p : Act α × Bank) (l : List (Happening κ))
    (w' : Traffic κ α) : Prop where
  moves : ∀ e ∈ l, ∃ s s', e = .move n c s s' ∧ J s
  bank : w'.bank = p.2
  flight : ∃ units, w'.flights.get? n = some ⟨c, p.1, units⟩
  next : w'.next = w.next
  others : ∀ m, m ≠ n → w'.flights.get? m = w.flights.get? m

theorem Advance.of_move {J : Bank → Prop} {c c' : κ} {w' : Traffic κ α} {p : Act α × Bank} {l : List (Happening κ)}
    {m : Int} {s s' : Bank} (h : Advance J n c w p l w') (hm : .move m c' s s' ∈ l) : J s := by
  obtain ⟨s₀, s₁, heq, hJ⟩ := h.moves _ hm
  cases heq
  exact hJ

theorem Run.ahead {J : Bank → Prop} {c : κ} {rest : Act α} {units : List Int} (k : Nat) (hr : Run act b h w)
    (hf : w.flights.get? n = some ⟨c, rest, units⟩) (hJ : ∀ i < k, J (rest.ahead i w.bank).2) :
    ∃ l w', Run act b (l ++ h) w' ∧ Advance J n c w (rest.ahead k w.bank) l w' := by
  induction k generalizing h w rest units with
  | zero => exact ⟨[], w, hr, by simp, rfl, ⟨units, hf⟩, rfl, fun _ _ => rfl⟩
  | succ k ih =>
    have hnow : J w.bank := hJ 0 (Nat.succ_pos k)
    have hstep : ∀ {m b'}, Timed.Step rest w.bank m b' → (∀ i, rest.ahead (i + 1) w.bank = m.ahead i b') →
        ∃ l w', Run act b (l ++ h) w' ∧ Advance J n c w (rest.ahead (k + 1) w.bank) l w' := by
      intro m b' hs hahead
      obtain ⟨l, w', hr', hw'⟩ := ih (hr.step (.move hf hs)) (Table.get?_put_self _ _ _) fun i hi => by
        have hlater := hJ (i + 1) (Nat.succ_lt_succ hi)
        rwa [hahead] at hlater
      rw [hahead]
      refine ⟨l ++ [.move n c w.bank b'], w', by simpa using hr', fun e he => ?_, hw'.bank, hw'.flight, hw'.next,
        fun m hm => (hw'.others m hm).trans (Table.get?_put_of_ne hm _)⟩
      rcases List.mem_append.1 he with he | he
      · exact hw'.moves e he
      · exact ⟨_, _, List.mem_singleton.1 he, hnow⟩
    cases rest with
    | done a => exact ⟨[], w, hr, by simp, rfl, ⟨units, hf⟩, rfl, fun _ _ => rfl⟩
    | act change next => exact hstep .act fun _ => rfl
    | wait span ready change next late =>
      by_cases hready : ready w.bank = true
      · exact hstep (.ready hready .zero) fun i => if_pos hready
      · rw [show (Timed.wait span ready change next late).ahead (k + 1) w.bank = _ from if_neg hready]
        exact ⟨[], w, hr, by simp, rfl, ⟨units, hf⟩, rfl, fun _ _ => rfl⟩

end Traffic

/-- The order that a call is about. -/
def Call.order? : Call → Option Order
  | .transfer o _ => some o
  | .submit r _ => some r.order
  | _ => none

theorem Call.reports_of_walk {c : Call} (ho : c.order? = some o) (hl : AllFaultless l)
    (h : Walk c.act l (.done (.transfer (.error e)))) : o.Reports l e := by
  have hreply : ∀ {m : Act (Except TransferError Receipt)},
      Walk (do return Reply.transfer (← m)) l (.done (.transfer (.error e))) → Walk m l (.done (.error e)) := by
    intro m hm
    obtain ⟨l₁, l₂, r, rfl, hcall, hdone⟩ := Walk.of_bind hm
    obtain ⟨rfl, hr⟩ := hdone.of_done
    cases hr
    rwa [List.append_nil]
  cases c with
  | transfer o' terms =>
    cases ho
    exact Order.walk_execute_error hl (hreply h)
  | submit r terms =>
    cases ho
    exact TransferRequest.walk_submit_error hl (hreply h)
  | _ => cases ho

/-- An order over an account that is not there is given up when its rows are staged. -/
theorem Order.value_of_missing? {terms : Terms} {b : Bank} (hs : b.store.Sound) (hf : b.store.faults = .none)
    (hr : b.refusals = []) (hamount : 0 < o.amount) (hne : o.source ≠ o.target)
    (hmissing : o.missing? b.store.book = some (.noSuchAccount id)) :
    ((o.execute terms).outcome.run b).value = .error (Notice.error id .staging) := by
  have halone : ((o.execute terms).outcome.run b).value.map Receipt.accounts = o.foretell terms b :=
    o.execute_alone hs hf
  have hforetold : o.foretell terms b = .error (Notice.error id .staging) := by
    rw [foretell, improper?_eq_none_iff.2 ⟨hamount, hne⟩, Bank.refusal?_of_nil hr, settle_of_missing hmissing]
    rfl
  rw [hforetold] at halone
  cases hx : ((o.execute terms).outcome.run b).value with
  | ok receipt =>
    rw [hx] at halone
    cases halone
  | error e =>
    rw [hx] at halone
    exact congrArg _ (Except.error.inj halone)

theorem Order.exists_missing? {book : Book}
    (h : book.accounts.get? o.source = none ∨ book.accounts.get? o.target = none) :
    ∃ id, (id = o.source ∨ id = o.target) ∧ book.accounts.get? id = none ∧
      o.missing? book = some (.noSuchAccount id) := by
  unfold missing?
  by_cases hsource : book.accounts.contains o.source = true
  · have htarget : book.accounts.get? o.target = none := by
      refine h.resolve_left fun hnone => ?_
      obtain ⟨a, ha⟩ := Table.contains_iff.1 hsource
      cases ha.symm.trans hnone
    refine ⟨o.target, .inr rfl, htarget, ?_⟩
    rw [hsource, Table.contains, htarget]
    rfl
  · have hnone : book.accounts.get? o.source = none := by
      rw [Option.eq_none_iff_forall_ne_some]
      exact fun a ha => hsource (Table.contains_iff.2 ⟨a, ha⟩)
    refine ⟨o.source, .inl rfl, hnone, ?_⟩
    rw [Table.contains, hnone]
    rfl

/-- Among any other calls, and while no failure is asked for, an order or request that fails either tells of an
account of its own that has been missing at one of its steps, or of something else, with another status. What it
tells of a missing account depends on the place that has noticed: it is not found for the guard and for the
adjustment of its balance, while the staging of a row reports a transfer that has failed. An order that is alone
and lacks an account always meets the latter. -/
theorem missing_account_reported {b : Bank} {h : List (Happening Call)} {w : Traffic Call Reply}
    (hr : Traffic.Run Call.act b h w) (hfault : ∀ n c s s', .move n c s s' ∈ h → s.Faultless) :
    (∀ n f o e, w.flights.get? n = some f → f.call.order? = some o → f.rest = .done (.transfer (.error e)) →
      (∃ x id, e = Notice.error id x ∧ (id = o.source ∨ id = o.target) ∧ Absent (Traffic.steps n h) id ∧
        (e.code, e.status) = if x = .staging then ("TRANSFER_FAILED", 500) else ("ACCOUNT_NOT_FOUND", 404)) ∨
      (∀ x id, e ≠ Notice.error id x) ∧ e.status ≠ 404) ∧
    ∀ (o : Order) terms (b : Bank), b.store.Sound → b.store.faults = .none → b.refusals = [] → 0 < o.amount →
      o.source ≠ o.target →
      b.store.book.accounts.get? o.source = none ∨ b.store.book.accounts.get? o.target = none →
      ∃ id, (id = o.source ∨ id = o.target) ∧ b.store.book.accounts.get? id = none ∧
        ((o.execute terms).outcome.run b).value = .error (Notice.error id .staging) := by
  refine ⟨fun n f o e hf ho he => ?_, fun o terms b hs hf hr hamount hne hmissing => ?_⟩
  · have hwalk := hr.walk hf
    rw [he] at hwalk
    have hl : AllFaultless (Traffic.steps n h).reverse := by
      intro s hs
      obtain ⟨c, hmove⟩ := Traffic.mem_of_steps (List.mem_reverse.1 hs)
      exact hfault n c _ _ hmove
    refine (Call.reports_of_walk ho hl hwalk).imp_left ?_
    rintro ⟨x, id, rfl, hid, s, hs, habsent⟩
    exact ⟨x, id, rfl, hid, ⟨s, List.mem_reverse.1 hs, habsent⟩, x.reported id⟩
  · obtain ⟨id, hid, hnone, hstaged⟩ := o.exists_missing? hmissing
    exact ⟨id, hid, hnone, o.value_of_missing? hs hf hr hamount hne hstaged⟩

/-- Bob's account is removed after the guard has read it, and Ann's request to pay into it is reported as a transfer
that has failed. -/
theorem account_removed_behind_guard : ∃ h w units, Traffic.Run Call.act ⟨.pair .none, [], []⟩ h w ∧
    w.flights.get? 0 = some ⟨.submit ⟨"ann", 1, 2, 30, "CAD"⟩ ⟨false, none⟩,
      .done (.transfer (.error (Notice.error 2 .staging))), units⟩ ∧
    w.reply? 1 = some (.deleteAccount (.ok ())) ∧ Absent (Traffic.steps 0 h) 2 ∧
    (Notice.error 2 .staging).code = "TRANSFER_FAILED" ∧ (Notice.error 2 .staging).status = 500 := by
  have hr : Traffic.Run Call.act ⟨.pair .none, [], []⟩ [] (.quiet _) := .start
  have hr₁ := hr.step (.arrival (.submit ⟨"ann", 1, 2, 30, "CAD"⟩ ⟨false, none⟩))
  -- the guard has read both accounts in 4 steps, the removal takes 3, and the order is given up in 12 more
  obtain ⟨l₂, w₂, hr₂, hw₂⟩ := hr₁.ahead (J := Bank.Faultless) 4 (Table.get?_put_self _ _ _) (by decide)
  obtain ⟨units₂, hf₂⟩ := hw₂.flight
  have hr₃ := hr₂.step (.arrival (.deleteAccount 2))
  obtain ⟨l₄, w₄, hr₄, hw₄⟩ := hr₃.ahead (J := Bank.Faultless) 3 (Table.get?_put_self _ _ _) (by
    dsimp only
    rw [hw₂.bank]
    decide)
  have hone : w₂.next = 1 := hw₂.next
  have hf₄ := (hw₄.others 0 (by rw [hone]; decide)).trans ((Table.get?_put_of_ne (by rw [hone]; decide) _).trans hf₂)
  have hb₄ := hw₄.bank
  dsimp only at hb₄
  rw [hw₂.bank] at hb₄
  obtain ⟨l₅, w₅, hr₅, hw₅⟩ := hr₄.ahead (J := Bank.Faultless) 12 hf₄ (by
    rw [hb₄]
    decide +kernel)
  obtain ⟨units₅, hf₅⟩ := hw₅.flight
  rw [hb₄] at hf₅
  obtain ⟨units₄, hdeleted⟩ := hw₄.flight
  dsimp only at hdeleted
  rw [hw₂.bank, hone] at hdeleted
  have hreply := (hw₅.others 1 (by decide)).trans hdeleted
  have hfault : ∀ n c s s', .move n c s s' ∈ l₅ ++ (l₄ ++ .arrival w₂.next (.deleteAccount 2) ::
      (l₂ ++ [.arrival 0 (.submit ⟨"ann", 1, 2, 30, "CAD"⟩ ⟨false, none⟩)])) → s.Faultless := by
    intro n c s s' hm
    simp only [List.mem_append, List.mem_cons, List.not_mem_nil, reduceCtorEq, false_or, or_false] at hm
    rcases hm with hm | hm | hm
    · exact hw₅.of_move hm
    · exact hw₄.of_move hm
    · exact hw₂.of_move hm
  obtain ⟨x, id, hx, hid, habsent, -⟩ | ⟨hno, -⟩ := (missing_account_reported hr₅ hfault).1 0 _ ⟨1, 2, 30⟩
    (Notice.error 2 .staging) hf₅ rfl rfl
  · obtain rfl : id = 2 := by
      refine hid.resolve_left ?_
      rintro rfl
      cases x <;> exact absurd hx (by decide)
    refine ⟨_, w₅, units₅, hr₅, hf₅, ?_, habsent, rfl, rfl⟩
    rw [Traffic.reply?, hreply]
    rfl
  · exact absurd rfl (hno .staging 2)

/-- So it is not always reported as not found that an account is missing: Ann pays to an account that has never
been there. -/
theorem not_forall_missing_account_not_found : ¬ ∀ (o : Order) (terms : Terms) (b : Bank), b.store.Reachable →
    b.store.faults = .none → b.refusals = [] → 0 < o.amount → o.source ≠ o.target →
    (∀ a, b.store.book.accounts.get? o.source = some a → o.amount ≤ a.balance) →
    b.store.book.accounts.get? o.source = none ∨ b.store.book.accounts.get? o.target = none →
    ∀ e, ((o.execute terms).outcome.run b).value = .error e → e.code = "ACCOUNT_NOT_FOUND" ∧ e.status = 404 := by
  intro hall
  have hfunds : ∀ a, (Store.pair .none).book.accounts.get? 1 = some a → 30 ≤ a.balance := by
    rintro a ha
    cases ha
    decide
  have h := hall ⟨1, 3, 30⟩ ⟨false, none⟩ ⟨.pair .none, [], []⟩ (Store.reachable_pair .none) rfl rfl (by decide)
    (by decide) hfunds (.inr rfl) (Notice.error 3 .staging) (by decide +kernel)
  exact absurd h.1 (by decide)

end Teller
