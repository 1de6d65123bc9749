import Teller.Proofs.Bank.Unit
import Teller.Work.Execution

/-!
# Execution of work among others

`Work.run` takes work in sequence to calls in sequence. `Conduct.follows_execute` reduces the rules for
the execution of work to those for the work itself: a call that does work gets its verdict when the
draft is published, or when the failure of the work is noted. A deadline may cut the work short in
any of its waits.
-/

namespace Teller

namespace Work

variable {α β : Type}

theorem run_continued (unit : Int) (m : Work α) (f : Except StoreError α → Work β) :
    ((m.continued f).run unit).run = (m.run unit).run >>= fun r => ((f r).run unit).run := by
  induction m with
  | done r => rfl
  | rest span next ih =>
    simp only [continued, run, Attempt.sure, ExceptT.run_bind_lift, bind_assoc, ih]
  | _ =>
    rename_i ih
    simp only [continued, run, Attempt.sure, ExceptT.run_bind_lift, bind_assoc, ih]

theorem run_bind (unit : Int) (m : Work α) (f : α → Work β) :
    (m >>= f).run unit = m.run unit >>= fun a => (f a).run unit := by
  refine ExceptT.ext ((run_continued unit m _).trans ?_)
  rw [ExceptT.run_bind]
  refine congrArg _ (funext fun r => ?_)
  cases r <;> rfl

theorem run_writeTransfer (unit source target amount : Int) :
    (writeTransfer source target amount .done).run unit =
      Bank.writeTransferIn unit source target amount := by
  refine ExceptT.ext ?_
  simp only [run, Attempt.sure, ExceptT.run_bind_lift]
  exact bind_pure _

theorem run_writeEntry (unit account amount : Int) :
    (writeEntry account amount .done).run unit = Bank.writeEntryIn unit account amount := by
  refine ExceptT.ext ?_
  simp only [run, Attempt.sure, ExceptT.run_bind_lift]
  exact bind_pure _

theorem run_adjust (unit id delta : Int) (floor : Bool) :
    (adjust id delta floor .done).run unit = Bank.adjustIn unit id delta floor := by
  refine ExceptT.ext ?_
  simp only [run, Attempt.sure, ExceptT.run_bind_lift]
  exact bind_pure _

end Work

namespace Conduct

variable {ν α : Type} {C : Conduct ν} {b : Bank}

/-- The same conduct, where the call is left alone at one stage only. -/
def waitingAt (C : Conduct ν) (g : Stage ν) : Conduct ν :=
  { C with idle := (· = g) }

/-- Work is executed within the rules if it is done within them while its unit is open; `W` is what
holds after the work for as long as its unit stays open. -/
theorem follows_execute (hI : Store.Invariant C.inv) {work : Work α} {deadline : Option Time.Span}
    {Q : Stage ν → Except WorkError α → Bank → Prop} {W : Int → Except StoreError α → Bank → Prop}
    (hidle : ∀ g, g.verdict = none → C.idle g)
    (hopening : ∀ e t, Q ⟨none, none⟩ (.error (.opening e)) t)
    (hwork : ∀ u t, C.inv t.store → t.store.drafts.get? u = some .empty →
      (work.run u).run.Follows (C.waitingAt ⟨some u, none⟩).rules
        (fun g r t => g = ⟨some u, none⟩ ∧ ∀ t', C.rules.others g t t' → W u r t')
        ⟨some u, none⟩ t)
    (hpublish : ∀ u a t, C.inv t.store → W u (.ok a) t → ∃ g', C.rules.own ⟨some u, none⟩ t g'
      { t with store := (t.store.publish u).2 } ∧
        ∀ t', Q g' (((t.store.publish u).1.mapError .commit).map fun _ => a) t')
    (hcommit : ∀ t, Q ⟨none, none⟩ (.error (.commit (.injectedAt .commit))) t)
    (hnote : ∀ u cause t, C.inv t.store →
      (∃ e, cause = .aborted e ∧ W u (.error e) t) ∨
        (∃ limit, deadline = some limit ∧ cause = .deadlineExceeded limit) →
      ∃ x, C.effect x t { t with journal := .workFailed cause :: t.journal } ∧
        C.idle ⟨some u, some x⟩ ∧ (∀ t', Q ⟨none, some x⟩ (.error cause) t') ∧
        ∀ t', Q ⟨none, some x⟩ (.error (.rollback cause (.injectedAt .rollback))) t') :
    (work.execute deadline).run.Follows C.rules Q ⟨none, none⟩ b := by
  -- the deadline, which is a cut in one of the work's waits
  have houtcome : ∀ u t, C.inv t.store → t.store.drafts.get? u = some .empty →
      (work.outcome deadline u).Follows C.rules
        (fun g r t => g = ⟨some u, none⟩ ∧ ∀ t', C.rules.others g t t' →
          (∃ a, r = .ok a ∧ W u (.ok a) t') ∨ ∃ cause, r = .error cause ∧
            ((∃ e, cause = .aborted e ∧ W u (.error e) t') ∨
              ∃ limit, deadline = some limit ∧ cause = .deadlineExceeded limit))
        ⟨some u, none⟩ t := by
    intro u t ht hu
    have hpost : ∀ (g : Stage ν) (r : Except StoreError α) (t : Bank),
        (g = ⟨some u, none⟩ ∧ ∀ t', C.rules.others g t t' → W u r t') →
        g = ⟨some u, none⟩ ∧ ∀ t', C.rules.others g t t' →
          (∃ a, r.mapError WorkError.aborted = .ok a ∧ W u (.ok a) t') ∨
          ∃ cause, r.mapError WorkError.aborted = .error cause ∧
            ((∃ e, cause = .aborted e ∧ W u (.error e) t') ∨
              ∃ limit, deadline = some limit ∧ cause = .deadlineExceeded limit) := by
      rintro g r t ⟨hg, hr⟩
      refine ⟨hg, fun t' ht' => ?_⟩
      cases r with
      | ok a => exact .inl ⟨a, rfl, hr t' ht'⟩
      | error e => exact .inr ⟨_, rfl, .inl ⟨e, rfl, hr t' ht'⟩⟩
    have hbody := hwork u t ht hu
    refine Timed.Follows.idle_mono (R := C.rules) (p := (· = ⟨some u, none⟩)) (fun g hg => hidle g (hg ▸ rfl)) ?_
    unfold Work.outcome
    cases deadline with
    | none => exact Timed.follows_bind.2 (hbody.mono hpost)
    | some limit =>
      refine Timed.follows_bind.2 (Timed.Follows.within (fun g t hg => ?_) (hbody.mono hpost))
      exact ⟨hg, fun t' _ => .inr ⟨_, rfl, .inr ⟨limit, rfl, rfl⟩⟩⟩
  unfold Work.execute
  rw [Attempt.follows_bind, Attempt.follows_mapError]
  refine follows_beginUnit hI (hidle _ rfl) (fun u t ht hu => ?_) fun e t => hopening e t
  refine Attempt.follows_sure_bind.2 ((houtcome u t ht hu).mono ?_)
  rintro g r t ⟨rfl, hr⟩
  cases r with
  | ok a =>
    refine Attempt.follows_bind.2 (Attempt.follows_mapError.2 (follows_commit hI (hidle _ rfl)
      (fun t' ht' => ?_) fun t' => hcommit t'))
    have hW : W u (.ok a) t' := by
      rcases hr t' ht' with ⟨a', ha', hW⟩ | ⟨cause, hc, -⟩
      · cases ha'; exact hW
      · cases hc
    obtain ⟨g', hown, hQ⟩ := hpublish u a t' ht'.1 hW
    refine ⟨g', hown, ?_⟩
    cases hp : (t'.store.publish u).1 with
    | ok => rw [hp] at hQ; exact hQ _
    | error e => rw [hp] at hQ; exact hQ _
  | error cause =>
    refine Attempt.follows_sure_bind.2 fun t' ht' => ?_
    have hW : (∃ e, cause = .aborted e ∧ W u (.error e) t') ∨
        ∃ limit, deadline = some limit ∧ cause = .deadlineExceeded limit := by
      rcases hr t' ht' with ⟨a, ha, -⟩ | ⟨cause', hc, hW⟩
      · cases ha
      · cases hc; exact hW
    obtain ⟨x, heffect, hg, hQ, hQ'⟩ := hnote u cause t' ht'.1 hW
    refine ⟨⟨some u, some x⟩, ⟨ht'.1, .verdict heffect (.setting _ _) rfl rfl (.inl rfl)⟩, ?_⟩
    refine Attempt.follows_sure_bind.2 (follows_rollback hI hg fun r t'' hr => ?_)
    rcases hr with rfl | rfl
    · exact hQ t''
    · refine Attempt.follows_sure_bind.2 (follows_note (by rintro c ⟨⟩) fun t''' _ => ?_)
      exact hQ' _

end Conduct

end Teller
