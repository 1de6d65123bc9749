import Teller.Proofs.Transfer.Execute
import Teller.Proofs.Work.Contract
import Teller.Proofs.Work.Pace

/-!
# The deadline of an order

A deadline does nothing but stop the work on an order that takes longer (`Order.effort`). Otherwise the order is
carried out, or fails, as it would without one. It takes no time, as far as the deadline goes, to open the unit of
work and to end it.
-/

namespace Teller

namespace Work

variable {α : Type} {work : Work α} {u : Int} {b : Bank} {limit : Time.Span}

theorem run_outcome_of_inTime (h : work.InTime (some limit) u b) :
    (work.outcome (some limit) u).run b = (work.outcome none u).run b := by
  have hcut : Trace.cut? limit (Timed.run (work.run u) b).pauses = none := Trace.cut?_eq_none_iff.2 (h limit rfl)
  unfold outcome
  rw [Timed.run_bind, Timed.run_bind, Timed.run_within, hcut]

theorem run_execute_of_inTime (h : ∀ u, b.begun.value = .ok u → work.InTime (some limit) u b.begun.state) :
    (work.execute (some limit)).run.run b = (work.execute none).run.run b := by
  cases hb : b.begun.value with
  | error e => rw [execute_of_unopened hb, execute_of_unopened hb]
  | ok u =>
    have hopening : ((Bank.beginUnit.mapError WorkError.opening).run.run b).value = .ok u := by
      rw [Attempt.run_mapError]
      exact congrArg (Except.mapError WorkError.opening) hb
    have hstate : ((Bank.beginUnit.mapError WorkError.opening).run.run b).state = b.begun.state := by
      rw [Attempt.run_mapError]
      rfl
    rw [execute_eq, execute_eq, Attempt.run_bind_of_ok hopening, Attempt.run_bind_of_ok hopening, hstate,
      Attempt.sure, Attempt.sure, ExceptT.run_bind_lift, ExceptT.run_bind_lift, Timed.run_bind, Timed.run_bind,
      run_outcome_of_inTime (h u hb)]

end Work

namespace Order

variable {o : Order} {overdraft : Bool} {b c : Bank} {limit : Time.Span} {deadline deadline' : Option Time.Span}

/-- How long the work on the order takes if no deadline stops it. There is none if its unit cannot be opened. -/
def effort (o : Order) (overdraft : Bool) (b : Bank) : Time.Span :=
  match o.improper?, b.begun.value with
  | none, .ok u => Trace.elapsed ((o.work overdraft).body u b.begun.state).pauses
  | _, _ => .zero

/-- An order has been stopped by its deadline, and nothing has come of it. -/
structure TimedOut (limit : Time.Span) (b : Bank) (t : Trace Bank (Except TransferError Receipt)) : Prop where
  value : ∃ e, t.value = .error (.work e) ∧
    (e = .deadlineExceeded limit ∨ ∃ f, e = .rollback (.deadlineExceeded limit) f)
  reported : ∀ e, t.value = .error e → e.code = "TIMEOUT" ∧ e.Retryable
  book : t.state.store.book = b.store.book

theorem effort_of_opened (ho : o.improper? = none) {u : Int} (hb : b.begun.value = .ok u) :
    o.effort overdraft b = Trace.elapsed ((o.work overdraft).body u b.begun.state).pauses := by
  rw [effort, ho, hb]

theorem opened_of_effort (h : ¬ o.effort overdraft b ≤ limit) :
    o.improper? = none ∧ ∃ u, b.begun.value = .ok u := by
  have hzero : Time.Span.zero ≤ limit := Nat.zero_le _
  unfold effort at h
  split at h
  · rename_i u ho hu
    exact ⟨ho, u, hu⟩
  · exact absurd hzero h

/-! ### From the execution of the work to that of the order -/

theorem run_execute_congr
    (h : ((o.work overdraft).execute deadline).run.run b = ((o.work overdraft).execute deadline').run.run b) :
    (o.execute ⟨overdraft, deadline⟩).outcome.run b = (o.execute ⟨overdraft, deadline'⟩).outcome.run b := by
  cases ho : o.improper? with
  | some e => rw [execute_of_improper ho, execute_of_improper ho]
  | none =>
    rw [execute_of_proper ho, execute_of_proper ho]
    unfold Attempt.outcome
    rw [ExceptT.run_bind, ExceptT.run_bind, Timed.run_bind, Timed.run_bind, Attempt.run_mapError,
      Attempt.run_mapError, h]

theorem run_execute_of_error (ho : o.improper? = none) {e : WorkError}
    (he : (((o.work overdraft).execute deadline).run.run b).value = .error e) :
    ((o.execute ⟨overdraft, deadline⟩).outcome.run b).value = .error (.work e) ∧
      ((o.execute ⟨overdraft, deadline⟩).outcome.run b).state =
        (((o.work overdraft).execute deadline).run.run b).state := by
  have hvalue : ((((o.work overdraft).execute deadline).mapError TransferError.work).run.run b).value =
      .error (.work e) := by
    rw [Attempt.run_mapError, he]
    rfl
  rw [execute_of_proper ho]
  unfold Attempt.outcome
  rw [Attempt.run_bind_of_error hvalue, Attempt.run_mapError]
  exact ⟨rfl, rfl⟩

theorem blind_execute (o : Order) (terms : Terms) :
    (o.execute terms).outcome.Blind Bank.Paced fun _ => Bank.Paced := by
  cases ho : o.improper? with
  | some e =>
    rw [execute_of_improper ho]
    exact .done fun _ _ h => h
  | none =>
    have hnote : ∀ e, (Act.note e).Blind Bank.Paced fun _ => Bank.Paced := by
      rintro e b c ⟨g, hg, rfl⟩
      exact ⟨rfl, g, hg, rfl⟩
    rw [execute_of_proper ho]
    refine Attempt.blind_bind (Q := fun _ => Bank.Paced) (Attempt.blind_mapError (Work.blind_execute _ _))
      (fun r => ?_) fun _ _ _ h => h
    exact Attempt.blind_sure_bind (hnote _) fun _ => .done fun _ _ h => h

/-! ### In time or late -/

theorem run_of_effort_le (h : o.effort overdraft b ≤ limit) :
    (o.execute ⟨overdraft, some limit⟩).outcome.run b = (o.execute ⟨overdraft, none⟩).outcome.run b := by
  cases ho : o.improper? with
  | some e => rw [execute_of_improper ho, execute_of_improper ho]
  | none =>
    refine run_execute_congr (Work.run_execute_of_inTime fun u hu => ?_)
    rintro _ ⟨⟩
    rwa [effort_of_opened ho hu] at h

theorem timedOut_of_lt (hb : b.store.Reachable) (h : ¬ o.effort overdraft b ≤ limit) :
    TimedOut limit b ((o.execute ⟨overdraft, some limit⟩).outcome.run b) := by
  obtain ⟨ho, u, hu⟩ := opened_of_effort h
  rw [effort_of_opened ho hu] at h
  have hvalue := (Work.execute_of_fails hu (.deadlineExceeded rfl h)).1
  obtain ⟨e, he, hcause⟩ : ∃ e, (((o.work overdraft).execute (some limit)).run.run b).value = .error e ∧
      (e = .deadlineExceeded limit ∨ ∃ f, e = .rollback (.deadlineExceeded limit) f) := by
    refine ⟨_, hvalue, ?_⟩
    split
    · exact .inl rfl
    · exact .inr ⟨_, rfl⟩
  obtain ⟨hv, hstate⟩ := run_execute_of_error ho he
  refine ⟨⟨e, hv, hcause⟩, fun e' he' => ?_, ?_⟩
  · obtain rfl : TransferError.work e = e' := Except.error.inj (hv.symm.trans he')
    rcases hcause with rfl | ⟨f, rfl⟩
    · exact ⟨rfl, .inl trivial⟩
    · exact ⟨rfl, .inl trivial⟩
  · rw [hstate]
    exact (Work.contract hb.sound (some limit) (o.work overdraft)).unchanged e he

theorem effort_congr (h : b.Paced c) : o.effort overdraft c = o.effort overdraft b := by
  obtain ⟨hvalue, hstate⟩ := Bank.blind_beginUnit b c h
  have hbegun : c.begun.value = b.begun.value := hvalue.symm
  unfold effort
  rw [hbegun]
  split
  · rename_i u _ _
    exact (Trace.elapsed_congr (Work.lockstep_run u (o.work overdraft) _ _ hstate).pauses).symm
  · rfl

/-- An order whose work takes no longer than its deadline comes to what it would come to without one; any other is
stopped, whatever it would have come to, and nothing comes of it. Delays in opening, committing and rolling back its
unit make no difference to that. -/
theorem deadline_only_cuts (hb : b.store.Reachable) (o : Order) (overdraft : Bool) :
    let run (deadline : Option Time.Span) := (o.execute ⟨overdraft, deadline⟩).outcome.run
    (∀ limit, o.effort overdraft b ≤ limit → run (some limit) b = run none b) ∧
      (∀ limit, ¬ o.effort overdraft b ≤ limit → TimedOut limit b (run (some limit) b)) ∧
      (∀ limit r, (run (some limit) b).value = .ok r →
        ∀ limit', limit ≤ limit' → run (some limit') b = run (some limit) b) ∧
      ∀ c, b.Paced c → o.effort overdraft c = o.effort overdraft b ∧ ∀ deadline,
        (run deadline c).value = (run deadline b).value ∧
          (run deadline c).state.store.book = (run deadline b).state.store.book := by
  intro run
  refine ⟨fun limit => run_of_effort_le, fun limit => timedOut_of_lt hb, ?_, fun c hc => ⟨effort_congr hc, ?_⟩⟩
  · intro limit r hr limit' hle
    have hin : o.effort overdraft b ≤ limit := by
      by_contra hlate
      obtain ⟨e, he, -⟩ := (timedOut_of_lt hb hlate).value
      cases hr.symm.trans he
    have hin' : o.effort overdraft b ≤ limit' := Nat.le_trans hin hle
    exact (run_of_effort_le hin').trans (run_of_effort_le hin).symm
  · intro deadline
    obtain ⟨hvalue, g, -, hstate⟩ := blind_execute o ⟨overdraft, deadline⟩ b c hc
    refine ⟨hvalue.symm, ?_⟩
    show ((o.execute ⟨overdraft, deadline⟩).outcome.run c).state.store.book = _
    rw [hstate]
    rfl

/-- Both entries are delayed, and so is the commit. The order is carried out if the entries alone are in time. -/
theorem deadline_at_the_last_moment :
    let faults := (Faults.none.delayOn .createEntry (.millis 20)).delayOn .commit (.millis 1000)
    let b : Bank := ⟨.pair faults, [], []⟩
    let o : Order := ⟨1, 2, 30⟩
    b.store.Reachable ∧ o.effort false b = .millis 40 ∧
      (∃ r, ((o.execute ⟨false, some (.millis 40)⟩).outcome.run b).value = .ok r) ∧
      TimedOut (.millis 39) b ((o.execute ⟨false, some (.millis 39)⟩).outcome.run b) := by
  intro faults b o
  have hb : b.store.Reachable := Store.reachable_pair faults
  have heffort : o.effort false b = .millis 40 := by decide +kernel
  obtain ⟨hin, hlate, -⟩ := deadline_only_cuts hb o false
  have hsame := hin (.millis 40) (by rw [heffort]; decide)
  have hdone : ((o.execute ⟨false, none⟩).outcome.run b).value.isOk = true := by decide +kernel
  refine ⟨hb, heffort, ?_, hlate (.millis 39) (by rw [heffort]; decide)⟩
  cases hr : ((o.execute ⟨false, none⟩).outcome.run b).value with
  | ok r => exact ⟨r, (congrArg Trace.value hsame).trans hr⟩
  | error e =>
    rw [hr] at hdone
    cases hdone

end Order

end Teller
