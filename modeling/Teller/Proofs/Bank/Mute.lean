import Teller.Proofs.Bank.Announce
import Teller.Proofs.Bank.Only
import Teller.Transfer.Desk

/-!
# Calls without announcements

The store, units of work and the work in them announce nothing, so what they do is mute to the end; reads
of committed rows and the guard only look at the bank.
-/

namespace Teller

/-- Nothing that is done is announced. -/
def Timed.Mute {α : Type} (m : Act α) : Prop :=
  m.Only Bank.Mute fun _ => True

/-- Nothing is done but to look at the bank and to note what does not matter to its calls. -/
def Timed.Looks {α : Type} (m : Act α) : Prop :=
  m.Only Bank.Looks fun _ => True

namespace Attempt

variable {ε δ α β : Type}

theorem mute_bind {m : Attempt ε α} {f : α → Attempt ε β} (h : m.run.Mute) (hf : ∀ a, (f a).run.Mute) :
    (m >>= f).run.Mute :=
  only_seq h (fun a _ => hf a) fun _ _ => trivial

theorem mute_sure_bind {m : Act α} {f : α → Attempt ε β} (h : m.Mute) (hf : ∀ a, (f a).run.Mute) :
    (sure m >>= f).run.Mute :=
  only_sure_seq h fun a _ => hf a

theorem mute_mapError {m : Attempt ε α} (h : m.run.Mute) (f : ε → δ) : (m.mapError f).run.Mute :=
  only_mapError.2 (h.mono (fun _ _ h => h) fun _ _ => trivial)

theorem looks_bind {m : Attempt ε α} {f : α → Attempt ε β} (h : m.run.Looks) (hf : ∀ a, (f a).run.Looks) :
    (m >>= f).run.Looks :=
  only_seq h (fun a _ => hf a) fun _ _ => trivial

theorem looks_mapError {m : Attempt ε α} (h : m.run.Looks) (f : ε → δ) : (m.mapError f).run.Looks :=
  only_mapError.2 (h.mono (fun _ _ h => h) fun _ _ => trivial)

end Attempt

theorem Timed.Looks.mute {α : Type} {m : Act α} (h : m.Looks) : m.Mute :=
  h.mono (fun _ _ h => h.mute) fun _ h => h

namespace Bank

open Attempt

variable {α : Type} {unit : Int}

/-! ### Single steps -/

theorem mute_store (f : Store → α × Store) : (Act.store f).Mute :=
  fun _ => ⟨rfl, trivial⟩

theorem looks_look (f : Store → α) : (Act.look f).Looks :=
  fun b => ⟨.look b, trivial⟩

theorem looks_read {ε : Type} (f : Store → Except ε α) : (Attempt.look f).run.Looks :=
  looks_look f

theorem looks_note {e : Event} (he : e.announces = false) (hw : ∀ c, e ≠ .workFailed c) : (Act.note e).Looks :=
  fun b => ⟨.note b he hw, trivial⟩

theorem mute_note_event {e : Event} (he : e.announces = false) : (Act.note e).Mute :=
  fun b => ⟨mute_note he b, trivial⟩

theorem mute_pass (p : Point) : (pass p).run.Mute := by
  have h : (pass p).run.Only Bank.Mute fun r => r = .ok () ∨ r = .error (.injectedAt p) :=
    only_pass p (fun _ => rfl) (fun _ => rfl) (mute_note rfl)
  exact h.mono (fun _ _ h => h) fun _ _ => trivial

theorem mute_onceFree (w : Option Int) (k : Int) (f : Store → Except StoreError α × Store) :
    (onceFree w k f).run.Mute := by
  have hlook : ∀ b : Bank, b.Mute b := fun _ => rfl
  exact only_onceFree hlook fun _ => rfl

theorem mute_staging (p : Point) (f : Store → Except StoreError α × Store) :
    (do pass p; Attempt.store f : Attempt StoreError α).run.Mute :=
  mute_bind (mute_pass p) fun _ => mute_store f

theorem mute_adjustIn (k delta : Int) (floor : Bool) : (adjustIn unit k delta floor).run.Mute :=
  mute_bind (mute_pass _) fun _ => mute_bind (mute_onceFree _ _ _) fun _ =>
    mute_store fun s => s.adjust unit k delta floor

/-! ### Units of work -/

theorem looks_receive (request : Request) (row : Option Int) : (receive request row).run.Looks :=
  only_receive .look

theorem mute_beginUnit : beginUnit.run.Mute := by
  refine mute_bind (looks_receive _ _).mute fun _ => mute_bind (mute_pass _) fun _ => ?_
  exact only_sure.2 (mute_store fun s => s.openDraft)

theorem mute_commit (unit : Int) : (commit unit).run.Mute := by
  refine mute_sure_bind (mute_pass _) fun r => ?_
  cases r with
  | ok => exact mute_store fun s => s.publish unit
  | error e => exact mute_sure_bind (mute_store _) fun _ => trivial

theorem mute_rollback (unit : Int) : (rollback unit).run.Mute := by
  refine mute_sure_bind (mute_pass _) fun r => mute_sure_bind (mute_store _) fun _ => ?_
  cases r <;> trivial

/-! ### Requests outside units of work -/

theorem looks_account (id : Int) : (account id).run.Looks :=
  looks_bind (looks_receive _ _) fun _ => looks_read _

theorem mute_deleteAccount (id : Int) : (deleteAccount id).run.Mute :=
  mute_bind (looks_receive _ _).mute fun _ => mute_onceFree _ _ _

theorem mute_undoOpening (unit : Int) (e : StoreError) : (undoOpening unit e).run.Mute := by
  refine mute_sure_bind (mute_rollback unit) fun r => ?_
  cases r with
  | ok => trivial
  | error f => exact mute_sure_bind (mute_note_event rfl) fun _ => trivial

theorem mute_createAccount (owner : String) (balance : Int) (currency : Currency) :
    (createAccount owner balance currency).run.Mute := by
  refine mute_bind mute_beginUnit fun unit => mute_sure_bind (mute_staging _ _) fun r => ?_
  cases r with
  | ok a => exact mute_bind (mute_commit unit) fun _ => trivial
  | error e => exact mute_undoOpening unit e

end Bank

/-! ### Work -/

namespace Work

open Attempt

variable {α : Type}

theorem mute_run (unit : Int) (work : Work α) : (work.run unit).run.Mute :=
  only_run (fun _ => (Bank.looks_read _).mute) (fun _ _ _ => Bank.mute_staging _ _)
    (fun _ _ _ => Bank.mute_staging _ _) (fun _ _ => Bank.mute_staging _ _)
    (fun _ _ _ => Bank.mute_adjustIn _ _ _) work

theorem mute_outcome (deadline : Option Time.Span) (work : Work α) (unit : Int) :
    (work.outcome deadline unit).Mute :=
  only_outcome (mute_run unit work) deadline

theorem mute_execute (deadline : Option Time.Span) (work : Work α) : (work.execute deadline).run.Mute := by
  refine mute_bind (mute_mapError Bank.mute_beginUnit _) fun unit => ?_
  refine mute_sure_bind (mute_outcome deadline work unit) fun r => ?_
  cases r with
  | ok a => exact mute_bind (mute_mapError (Bank.mute_commit unit) _) fun _ => trivial
  | error cause =>
    refine mute_sure_bind (Bank.mute_note_event rfl) fun _ => mute_sure_bind (Bank.mute_rollback unit) fun r => ?_
    cases r with
    | ok => trivial
    | error e => exact mute_sure_bind (Bank.mute_note_event rfl) fun _ => trivial

end Work

end Teller
