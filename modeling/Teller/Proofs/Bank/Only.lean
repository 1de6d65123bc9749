import Teller.Proofs.Store.Outcome
import Teller.Proofs.Timed.Only
import Teller.Work.Execution

/-!
# What a call can do at all

`Timed.Only` for attempts, and for the parts that the calls of the bank have in common: to pass a point and to
wait for a row, whatever is said about their steps. What the calls of a unit of work do is all that work in it does
(`Work.only_run`).
-/

namespace Teller

namespace Attempt

variable {ε δ α β : Type} {P : Bank → Bank → Prop}

theorem only_bind {F : Except ε β → Prop} {m : Attempt ε α} {f : α → Attempt ε β} :
    (m >>= f).run.Only P F ↔ m.run.Only P fun r => match r with
      | .ok a => (f a).run.Only P F
      | .error e => F (.error e) := by
  rw [ExceptT.run_bind, Timed.only_bind]
  refine ⟨fun h => h.mono (fun _ _ h => h) ?_, fun h => h.mono (fun _ _ h => h) ?_⟩ <;>
  · rintro (e | a) h <;> exact h

theorem only_sure {F : Except ε α → Prop} {m : Act α} :
    (sure m : Attempt ε α).run.Only P F ↔ m.Only P fun a => F (.ok a) :=
  Timed.only_bind

theorem only_sure_bind {F : Except ε β → Prop} {m : Act α} {f : α → Attempt ε β} :
    (sure m >>= f).run.Only P F ↔ m.Only P fun a => (f a).run.Only P F := by
  rw [only_bind, only_sure]

theorem only_mapError {F : Except δ α → Prop} {m : Attempt ε α} {f : ε → δ} :
    (m.mapError f).run.Only P F ↔ m.run.Only P fun r => F (r.mapError f) :=
  Timed.only_bind

theorem only_seq {E : Except ε α → Prop} {F : Except ε β → Prop} {m : Attempt ε α} {f : α → Attempt ε β}
    (h : m.run.Only P E) (hok : ∀ a, E (.ok a) → (f a).run.Only P F)
    (herror : ∀ e, E (.error e) → F (.error e)) : (m >>= f).run.Only P F := by
  refine only_bind.2 (h.mono (fun _ _ h => h) ?_)
  rintro (e | a) he
  · exact herror e he
  · exact hok a he

theorem only_sure_seq {E : α → Prop} {F : Except ε β → Prop} {m : Act α} {f : α → Attempt ε β}
    (h : m.Only P E) (hf : ∀ a, E a → (f a).run.Only P F) : (sure m >>= f).run.Only P F :=
  only_sure_bind.2 (h.mono (fun _ _ h => h) hf)

end Attempt

namespace Bank

open Attempt

variable {α : Type} {P : Bank → Bank → Prop}

theorem only_receive {request : Request} {row : Option Int} (hlook : ∀ b, P b b) :
    (receive request row).run.Only P fun _ => True := by
  have hget : (Timed.get : Act Bank).Only P fun _ => True := fun b => ⟨hlook b, trivial⟩
  refine only_sure_seq hget fun b _ => ?_
  cases b.refusal? request row <;> trivial

/-- To pass a point is to look at the bank, to count the call and to note that it fails. -/
theorem only_pass (p : Point) (hlook : ∀ b, P b b)
    (htrip : ∀ b, P b { b with store := { b.store with faults := (b.store.faults.trip p).2 } })
    (hnote : ∀ b, P b { b with journal := .injectedFailure p :: b.journal }) :
    (pass p).run.Only P fun r => r = .ok () ∨ r = .error (.injectedAt p) := by
  have hdelay : (Act.look (·.faults.delay? p)).Only P fun _ => True := fun b => ⟨hlook b, trivial⟩
  have hsleep : ∀ d, (Timed.sleep d : Act Unit).Only P fun _ => True := fun d =>
    ⟨fun _ h => (Bool.false_ne_true h).elim, fun _ => trivial⟩
  have htripped : (Act.store (·.trip p)).Only P fun r => r = .ok () ∨ r = .error (.injectedAt p) :=
    fun b => ⟨htrip b, b.store.trip_cases p⟩
  have hnoted : (Act.note (.injectedFailure p)).Only P fun _ => True := fun b => ⟨hnote b, trivial⟩
  have hstrike : (strike p).run.Only P fun r => r = .ok () ∨ r = .error (.injectedAt p) := by
    refine only_sure_seq htripped fun r hr => ?_
    rcases hr with rfl | rfl
    · exact Or.inl rfl
    · exact only_sure_seq hnoted fun _ _ => Or.inr rfl
  refine only_sure_seq hdelay fun delay _ => ?_
  cases delay with
  | none => exact hstrike
  | some d => exact only_sure_seq (hsleep d) fun _ _ => hstrike

theorem only_onceFree {w : Option Int} {k : Int} {f : Store → Except StoreError α × Store} (hlook : ∀ b, P b b)
    (hf : ∀ b, P b { b with store := (f b.store).2 }) : (onceFree w k f).run.Only P fun _ => True := by
  have hpatience : (Act.look (·.patience)).Only P fun _ => True := fun b => ⟨hlook b, trivial⟩
  exact only_sure_seq hpatience fun _ _ => ⟨fun b _ => ⟨hf b, fun _ => trivial⟩, fun _ => trivial⟩

theorem only_store {ε : Type} {f : Store → Except ε α × Store} (hf : ∀ b, P b { b with store := (f b.store).2 }) :
    (Attempt.store f).run.Only P fun _ => True :=
  fun b => ⟨hf b, trivial⟩

theorem only_staging {p : Point} {f : Store → Except StoreError α × Store}
    (hpass : (pass p).run.Only P fun _ => True) (hf : ∀ b, P b { b with store := (f b.store).2 }) :
    (do pass p; Attempt.store f : Attempt StoreError α).run.Only P fun _ => True :=
  only_seq hpass (fun _ _ => only_store hf) fun _ _ => trivial

end Bank

namespace Work

open Attempt

variable {α : Type} {P : Bank → Bank → Prop} {u : Int}

theorem only_run (hread : ∀ id, (Bank.accountIn u id).run.Only P fun _ => True)
    (hopen : ∀ owner balance currency, (Bank.openAccountIn u owner balance currency).run.Only P fun _ => True)
    (htransfer : ∀ source target amount, (Bank.writeTransferIn u source target amount).run.Only P fun _ => True)
    (hentry : ∀ account amount, (Bank.writeEntryIn u account amount).run.Only P fun _ => True)
    (hadjust : ∀ id delta floor, (Bank.adjustIn u id delta floor).run.Only P fun _ => True) (work : Work α) :
    (work.run u).run.Only P fun _ => True := by
  induction work with
  | done r => exact trivial
  | rest span next ih =>
    have hsleep : (Timed.sleep span : Act Unit).Only P fun _ => True :=
      ⟨fun _ h => (Bool.false_ne_true h).elim, fun _ => trivial⟩
    exact only_sure_seq hsleep fun _ _ => ih
  | readAccount id next ih => exact only_sure_seq (hread id) fun r _ => ih r
  | openAccount owner balance currency next ih =>
    exact only_sure_seq (hopen owner balance currency) fun r _ => ih r
  | writeTransfer source target amount next ih =>
    exact only_sure_seq (htransfer source target amount) fun r _ => ih r
  | writeEntry account amount next ih => exact only_sure_seq (hentry account amount) fun r _ => ih r
  | adjust id delta floor next ih => exact only_sure_seq (hadjust id delta floor) fun r _ => ih r

theorem only_outcome {work : Work α} (h : (work.run u).run.Only P fun _ => True) (deadline : Option Time.Span) :
    (work.outcome deadline u).Only P fun _ => True := by
  unfold outcome
  cases deadline with
  | none => exact Timed.only_bind.2 (h.mono (fun _ _ h => h) fun _ _ => trivial)
  | some limit =>
    refine Timed.only_bind.2 (Timed.Only.within (h.mono (fun _ _ h => h) fun _ _ => ?_) ?_) <;> trivial

end Work

end Teller
