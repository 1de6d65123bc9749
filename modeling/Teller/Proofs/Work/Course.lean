import Teller.Proofs.Work.Written

/-!
# The course of an execution

A case analysis of the execution of any work while nobody else is at the bank, whatever faults are asked for:
whether its unit can be opened, whether the work returns in time, and whether the unit can be ended. An execution
has exactly the result of the course it takes (`Work.value_execute`), so each case is also necessary for its result.
-/

namespace Teller

/-- What it comes to that a unit of work is begun. -/
def Bank.begun (b : Bank) : Trace Bank (Except StoreError Int) :=
  Bank.beginUnit.outcome.run b

namespace Work

variable {α : Type}

/-- What the work does in the unit if no deadline stops it. -/
def body (work : Work α) (unit : Int) (b : Bank) : Trace Bank (Except StoreError α) :=
  (work.run unit).outcome.run b

/-- The work is over before the deadline, if there is one. -/
def InTime (deadline : Option Time.Span) (work : Work α) (unit : Int) (b : Bank) : Prop :=
  ∀ limit, deadline = some limit → Trace.elapsed (work.body unit b).pauses ≤ limit

/-- The work returns a value in time. -/
def Returns (deadline : Option Time.Span) (work : Work α) (unit : Int) (b : Bank) (a : α) : Prop :=
  (work.body unit b).value = .ok a ∧ work.InTime deadline unit b

/-- Why the work is given up. -/
inductive Fails (deadline : Option Time.Span) (work : Work α) (unit : Int) (b : Bank) : WorkError → Prop
  | aborted {e : StoreError} (he : (work.body unit b).value = .error e) (hin : work.InTime deadline unit b) :
    Fails deadline work unit b (.aborted e)
  | deadlineExceeded {limit : Time.Span} (hd : deadline = some limit)
    (hlate : ¬ Trace.elapsed (work.body unit b).pauses ≤ limit) :
    Fails deadline work unit b (.deadlineExceeded limit)

/-- What it comes to that the unit is committed after the work. -/
def committed (work : Work α) (unit : Int) (b : Bank) : Trace Bank (Except StoreError Unit) :=
  (Bank.commit unit).outcome.run (work.body unit b).state

/-- The bank when the work is given up. -/
def givenUp (deadline : Option Time.Span) (work : Work α) (unit : Int) (b : Bank) (cause : WorkError) : Bank :=
  let left := ((work.outcome deadline unit).run b).state
  { left with journal := .workFailed cause :: left.journal }

/-- What it comes to that the unit is rolled back then. -/
def rolledBack (deadline : Option Time.Span) (work : Work α) (unit : Int) (b : Bank) (cause : WorkError) :
    Trace Bank (Except StoreError Unit) :=
  (Bank.rollback unit).outcome.run (work.givenUp deadline unit b cause)

/-- What the execution of the work comes to. -/
inductive Comes (deadline : Option Time.Span) (work : Work α) (b : Bank) : Except WorkError α → Prop
  | unopened {e : StoreError} (hb : b.begun.value = .error e) : Comes deadline work b (.error (.opening e))
  | done {u : Int} {a : α} (hb : b.begun.value = .ok u) (hw : work.Returns deadline u b.begun.state a)
    (hc : (work.committed u b.begun.state).value = .ok ()) : Comes deadline work b (.ok a)
  | uncommitted {u : Int} {a : α} {e : StoreError} (hb : b.begun.value = .ok u)
    (hw : work.Returns deadline u b.begun.state a) (hc : (work.committed u b.begun.state).value = .error e) :
    Comes deadline work b (.error (.commit e))
  | failed {u : Int} {cause : WorkError} (hb : b.begun.value = .ok u)
    (hw : work.Fails deadline u b.begun.state cause)
    (hr : (work.rolledBack deadline u b.begun.state cause).value = .ok ()) : Comes deadline work b (.error cause)
  | stuck {u : Int} {cause : WorkError} {e : StoreError} (hb : b.begun.value = .ok u)
    (hw : work.Fails deadline u b.begun.state cause)
    (hr : (work.rolledBack deadline u b.begun.state cause).value = .error e) :
    Comes deadline work b (.error (.rollback cause e))

variable {deadline : Option Time.Span} {work : Work α} {u : Int} {b : Bank} {a : α} {cause : WorkError} {e : StoreError}

theorem returns_or_fails (deadline : Option Time.Span) (work : Work α) (u : Int) (b : Bank) :
    (∃ a, work.Returns deadline u b a) ∨ ∃ cause, work.Fails deadline u b cause := by
  by_cases hin : work.InTime deadline u b
  · cases hv : (work.body u b).value with
    | ok a => exact .inl ⟨a, hv, hin⟩
    | error e => exact .inr ⟨_, .aborted hv hin⟩
  · obtain ⟨limit, hd, hlate⟩ : ∃ limit, deadline = some limit ∧ ¬ Trace.elapsed (work.body u b).pauses ≤ limit := by
      simpa [InTime] using hin
    exact .inr ⟨_, .deadlineExceeded hd hlate⟩

/-! ### The work under its deadline -/

theorem outcome_of_inTime (h : work.InTime deadline u b) :
    ((work.outcome deadline u).run b).value = (work.body u b).value.mapError .aborted ∧
      ((work.outcome deadline u).run b).state = (work.body u b).state := by
  unfold outcome
  cases deadline with
  | none =>
    rw [Timed.run_bind]
    exact ⟨rfl, rfl⟩
  | some limit =>
    have hcut : Trace.cut? limit (Timed.run (work.run u) b).pauses = none := Trace.cut?_eq_none_iff.2 (h limit rfl)
    rw [Timed.run_bind, Timed.run_within, hcut]
    exact ⟨rfl, rfl⟩

theorem outcome_of_late {limit : Time.Span} (h : ¬ Trace.elapsed (work.body u b).pauses ≤ limit) :
    ((work.outcome (some limit) u).run b).value = .error (.deadlineExceeded limit) := by
  unfold outcome
  have hcut : Trace.cut? limit (Timed.run (work.run u) b).pauses ≠ none := fun hnone =>
    h (Trace.cut?_eq_none_iff.1 hnone)
  obtain ⟨⟨pauses, t⟩, ht⟩ := Option.ne_none_iff_exists'.1 hcut
  rw [Timed.value_bind, Timed.run_within, ht]
  rfl

theorem outcome_of_returns (h : work.Returns deadline u b a) :
    ((work.outcome deadline u).run b).value = .ok a ∧
      ((work.outcome deadline u).run b).state = (work.body u b).state := by
  obtain ⟨hv, hstate⟩ := outcome_of_inTime h.2
  rw [h.1] at hv
  exact ⟨hv, hstate⟩

theorem outcome_of_fails (h : work.Fails deadline u b cause) :
    ((work.outcome deadline u).run b).value = .error cause := by
  cases h with
  | aborted he hin =>
    have hv := (outcome_of_inTime hin).1
    rw [he] at hv
    exact hv
  | deadlineExceeded hd hlate =>
    subst hd
    exact outcome_of_late hlate

/-! ### The three courses that an execution takes -/

/-- How an execution ends once the work has come to this. -/
def conclude (unit : Int) : Except WorkError α → Attempt WorkError α
  | .ok a => do
    (Bank.commit unit).mapError .commit
    return a
  | .error cause => do
    .sure (.note (.workFailed cause))
    match ← .sure (Bank.rollback unit).outcome with
    | .ok () => throw cause
    | .error e =>
      .sure (.note (.rollbackFailed cause e))
      throw (.rollback cause e)

theorem execute_eq (deadline : Option Time.Span) (work : Work α) : work.execute deadline =
    Bank.beginUnit.mapError .opening >>= fun u => .sure (work.outcome deadline u) >>= conclude u := by
  unfold execute
  refine congrArg _ (funext fun u => congrArg _ (funext fun r => ?_))
  cases r <;> rfl

theorem conclude_ok (u : Int) (a : α) (b : Bank) :
    let c := (Bank.commit u).run.run b
    ((conclude u (.ok a)).run.run b).value = (c.value.mapError .commit).map (fun _ => a) ∧
      ((conclude u (.ok a)).run.run b).state = c.state := by
  dsimp only
  rw [conclude, ExceptT.run_bind, Timed.run_bind, Attempt.run_mapError]
  obtain ⟨pauses, value, state⟩ := (Bank.commit u).run.run b
  cases value <;> exact ⟨rfl, rfl⟩

theorem conclude_error (u : Int) (cause : WorkError) (b : Bank) :
    let r := (Bank.rollback u).outcome.run { b with journal := .workFailed cause :: b.journal }
    ((conclude u (.error cause) : Attempt WorkError α).run.run b).value = .error (match r.value with
      | .ok () => cause
      | .error e => .rollback cause e) ∧
      ((conclude u (.error cause) : Attempt WorkError α).run.run b).state.store = r.state.store := by
  dsimp only
  rw [conclude, Attempt.run_sure_bind (Bank.note_alone _ _), Attempt.value_sure_bind, Attempt.state_sure_bind]
  obtain ⟨pauses, value, state⟩ := (Bank.rollback u).outcome.run { b with journal := .workFailed cause :: b.journal }
  cases value <;> exact ⟨rfl, rfl⟩

theorem execute_of_unopened (hb : b.begun.value = .error e) : (work.execute deadline).run.run b =
    ⟨b.begun.pauses, .error (.opening e), b.begun.state⟩ := by
  have hopening : ((Bank.beginUnit.mapError WorkError.opening).run.run b).value = .error (.opening e) := by
    rw [Attempt.run_mapError]
    exact congrArg (Except.mapError WorkError.opening) hb
  rw [execute_eq, Attempt.run_bind_of_error hopening, Attempt.run_mapError]
  rfl

/-- Once its unit is open, an execution ends as the work comes out. -/
theorem execute_of_opened (hb : b.begun.value = .ok u) :
    let t := (conclude u ((work.outcome deadline u).run b.begun.state).value).run.run
      ((work.outcome deadline u).run b.begun.state).state
    ((work.execute deadline).run.run b).value = t.value ∧ ((work.execute deadline).run.run b).state = t.state := by
  have hopening : ((Bank.beginUnit.mapError WorkError.opening).run.run b).value = .ok u := by
    rw [Attempt.run_mapError]
    exact congrArg (Except.mapError WorkError.opening) hb
  rw [execute_eq, Attempt.run_bind_of_ok hopening, Attempt.run_mapError, Attempt.sure, ExceptT.run_bind_lift,
    Timed.run_bind]
  exact ⟨rfl, rfl⟩

theorem execute_of_returns (hb : b.begun.value = .ok u) (hw : work.Returns deadline u b.begun.state a) :
    let c := work.committed u b.begun.state
    ((work.execute deadline).run.run b).value = (c.value.mapError .commit).map (fun _ => a) ∧
      ((work.execute deadline).run.run b).state = c.state := by
  obtain ⟨hvalue, hstate⟩ := execute_of_opened hb
  obtain ⟨hv, hs⟩ := outcome_of_returns hw
  rw [hv, hs] at hvalue hstate
  obtain ⟨hcvalue, hcstate⟩ := conclude_ok u a (work.body u b.begun.state).state
  exact ⟨hvalue.trans hcvalue, hstate.trans hcstate⟩

theorem execute_of_fails (hb : b.begun.value = .ok u) (hw : work.Fails deadline u b.begun.state cause) :
    let r := work.rolledBack deadline u b.begun.state cause
    ((work.execute deadline).run.run b).value = .error (match r.value with
      | .ok () => cause
      | .error e => .rollback cause e) ∧
      ((work.execute deadline).run.run b).state.store = r.state.store := by
  obtain ⟨hvalue, hstate⟩ := execute_of_opened hb
  rw [outcome_of_fails hw] at hvalue hstate
  obtain ⟨hrvalue, hrstate⟩ := conclude_error u cause ((work.outcome deadline u).run b.begun.state).state
  exact ⟨hvalue.trans hrvalue, (congrArg (·.store) hstate).trans hrstate⟩

/-! ### The result -/

theorem value_execute {r : Except WorkError α} :
    ((work.execute deadline).run.run b).value = r ↔ work.Comes deadline b r := by
  constructor
  · rintro rfl
    cases hb : b.begun.value with
    | error e =>
      rw [execute_of_unopened hb]
      exact .unopened hb
    | ok u =>
      rcases returns_or_fails deadline work u b.begun.state with ⟨a, hw⟩ | ⟨cause, hw⟩
      · rw [(execute_of_returns hb hw).1]
        cases hc : (work.committed u b.begun.state).value with
        | ok => exact .done hb hw hc
        | error e => exact .uncommitted hb hw hc
      · rw [(execute_of_fails hb hw).1]
        cases hr : (work.rolledBack deadline u b.begun.state cause).value with
        | ok => exact .failed hb hw hr
        | error e => exact .stuck hb hw hr
  · intro h
    cases h with
    | unopened hb => rw [execute_of_unopened hb]
    | done hb hw hc =>
      rw [(execute_of_returns hb hw).1, hc]
      rfl
    | uncommitted hb hw hc =>
      rw [(execute_of_returns hb hw).1, hc]
      rfl
    | failed hb hw hr => rw [(execute_of_fails hb hw).1, hr]
    | stuck hb hw hr => rw [(execute_of_fails hb hw).1, hr]

end Work

end Teller
