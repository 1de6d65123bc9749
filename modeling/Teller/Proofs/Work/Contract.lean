import Teller.Proofs.Work.Steps
import Teller.Proofs.Work.Written

/-!
# The contract of execution

Any work, with any faults and under any deadline: what its execution returns, what becomes of the rows that it has
written, and what it does of its own while others are at the bank. The book changes only if the execution returns a
value, and then by the rows that the calls of the work have returned.
-/

namespace Teller

/-! ### Opening and ending the unit -/

namespace Bank

variable {b : Bank} {u : Int} {d : Draft}

theorem begun_cases (b : Bank) : (∃ e, b.begun.value = .error e ∧ b.Passing b.begun.state) ∨
    b.begun.value = .ok b.store.nextDraft ∧
      ∃ faults, b.begun.state.store = (Store.openDraft { b.store with faults := faults }).2 := by
  have hbegun : b.begun = beginUnit.run.run b := rfl
  have hreceive := receive_alone .opening none b
  rw [hbegun, beginUnit]
  cases hr : b.refusal? .opening none with
  | some e =>
    rw [hr] at hreceive
    rw [Attempt.run_bind_error hreceive]
    exact .inl ⟨e, rfl, .refl b⟩
  | none =>
    rw [hr] at hreceive
    rw [Attempt.run_bind_ok hreceive, openUnit]
    obtain ⟨⟨faults, hstore⟩, hv⟩ := pass_run .opening b
    rcases hv with hv | hv
    · rw [Attempt.run_bind_of_ok hv]
      refine .inr ⟨?_, faults, ?_⟩
      · show Except.ok ((pass .opening).run.run b).state.store.nextDraft = _
        rw [hstore]
      · show ((pass .opening).run.run b).state.store.openDraft.2 = _
        rw [hstore]
    · rw [Attempt.run_bind_of_error hv]
      exact .inl ⟨_, rfl, faults, hstore⟩

/-- A commit publishes the draft of the unit or comes to nothing; the unit is over in either case. -/
theorem commit_run (hu : b.store.drafts.get? u = some d) :
    let c := (commit u).run.run b
    c.state.store.drafts = b.store.drafts.erase u ∧
      (c.value = .ok () ∧ c.state.store.book = d.publish b.store.book ∨
        ∃ e, c.value = .error e ∧ c.state.store.book = b.store.book) := by
  have hpass : b.Passing ((pass .commit).outcome.run b).state ∧ (((pass .commit).outcome.run b).value = .ok () ∨
    ((pass .commit).outcome.run b).value = .error (.injectedAt .commit)) := pass_run .commit b
  dsimp only
  rw [commit, Attempt.value_sure_bind, Attempt.state_sure_bind]
  generalize (pass .commit).outcome.run b = t at hpass ⊢
  obtain ⟨pauses, value, store, refusals, journal⟩ := t
  obtain ⟨⟨faults, rfl⟩, rfl | rfl⟩ := hpass
  · have hpublish := Store.publish_cases (s := { b.store with faults := faults }) hu
    show (Store.publish _ u).2.drafts = _ ∧ ((Store.publish _ u).1 = _ ∧ (Store.publish _ u).2.book = _ ∨
      ∃ e, (Store.publish _ u).1 = _ ∧ (Store.publish _ u).2.book = _)
    rcases hpublish with ⟨e, heq⟩ | ⟨-, heq⟩ <;> rw [heq]
    · exact ⟨rfl, .inr ⟨e, rfl, rfl⟩⟩
    · exact ⟨rfl, .inl ⟨rfl, rfl⟩⟩
  · exact ⟨rfl, .inr ⟨_, rfl, rfl⟩⟩

theorem rollback_run (u : Int) (b : Bank) :
    let r := (rollback u).run.run b
    r.state.store.drafts = b.store.drafts.erase u ∧ r.state.store.book = b.store.book := by
  have hpass : b.Passing ((pass .rollback).outcome.run b).state := (pass_run .rollback b).1
  dsimp only
  rw [rollback, Attempt.state_sure_bind]
  generalize (pass .rollback).outcome.run b = t at hpass ⊢
  obtain ⟨pauses, value, store, refusals, journal⟩ := t
  obtain ⟨faults, rfl⟩ := hpass
  rw [Attempt.state_sure_bind]
  cases value <;> exact ⟨rfl, rfl⟩

end Bank

/-- A unit of work that has just been opened: only its draft is new, and nothing is in it. -/
structure Bank.Opens (u : Int) (b b₁ : Bank) : Prop where
  number : u = b.store.nextDraft
  fresh : b.store.drafts.get? u = none
  book : b₁.store.book = b.store.book
  drafts : b₁.store.drafts = b.store.drafts.put u .empty
  holds : b₁.store.Holds u []

namespace Bank.Opens

variable {u : Int} {b b₁ b₂ : Bank}

theorem of_begun (hs : b.store.Sound) (hb : b.begun.value = .ok u) : b.Opens u b.begun.state := by
  rcases b.begun_cases with ⟨e, he, -⟩ | ⟨hu, faults, hstore⟩
  · cases hb.symm.trans he
  obtain rfl := Except.ok.inj (hb.symm.trans hu)
  have hdrafts : b.begun.state.store.drafts = b.store.drafts.put b.store.nextDraft .empty := by
    rw [hstore]
    rfl
  have hbook : b.begun.state.store.book = b.store.book := by
    rw [hstore]
    rfl
  refine ⟨rfl, hs.get?_eq_none_of_le (Int.le_refl _), hbook, hdrafts, fun ha => ?_, .empty, ?_, .empty⟩
  · rw [hbook] at ha
    exact (hs.account ha).1
  · rw [hdrafts, Table.get?_put_self]

/-- When the unit is over, the units of work are those that there were before. -/
theorem erase (h : b.Opens u b₁) (hinside : b₁.Inside u b₂) : b₂.store.drafts.erase u = b.store.drafts := by
  refine Table.ext_get? fun v => ?_
  rw [Table.get?_erase]
  split
  · rename_i hv
    rw [← hv, h.fresh]
  · rename_i hv
    rw [hinside.others v (Ne.symm hv), h.drafts, Table.get?_put_of_ne (Ne.symm hv)]

end Bank.Opens

namespace Work

variable {α : Type} {deadline : Option Time.Span} {work : Work α} {u : Int} {b : Bank} {a : α} {cause : WorkError}

/-- What holds of the execution of the work, whose trace this is. -/
structure Contract (deadline : Option Time.Span) (work : Work α) (b : Bank)
    (t : Trace Bank (Except WorkError α)) : Prop where
  value : ∀ r, t.value = r ↔ work.Comes deadline b r
  opening : ∀ e, t.value = .error (.opening e) ↔ b.begun.value = .error e
  /-- The work is not begun if its unit cannot be opened. -/
  unbegun : ∀ e, b.begun.value = .error e → t = ⟨b.begun.pauses, .error (.opening e), b.begun.state⟩
  /-- What is told with a failed rollback is why the work was given up. -/
  unnested : ∀ cause e, t.value = .error (.rollback cause e) →
    (∃ e, cause = .aborted e) ∨ ∃ limit, cause = .deadlineExceeded limit
  published : ∀ a, t.value = .ok a → t.state.store.book =
    (work.written b.store.nextDraft b.begun.state).foldl Book.write b.store.book
  unchanged : ∀ e, t.value = .error e → t.state.store.book = b.store.book
  /-- The unit is over, and those of others are as they were. -/
  drafts : t.state.store.drafts = b.store.drafts

theorem Fails.plain (h : work.Fails deadline u b cause) :
    (∃ e, cause = .aborted e) ∨ ∃ limit, cause = .deadlineExceeded limit := by
  cases h with
  | aborted => exact .inl ⟨_, rfl⟩
  | deadlineExceeded => exact .inr ⟨_, rfl⟩

theorem inside_body (work : Work α) (u : Int) (b : Bank) : b.Inside u (work.body u b).state :=
  (Timed.Only.run (inside_run u work) (.refl u) (fun _ _ _ => .trans) b).1

theorem inside_givenUp (deadline : Option Time.Span) (work : Work α) (u : Int) (b : Bank) (cause : WorkError) :
    b.Inside u (work.givenUp deadline u b cause) := by
  have h := (Timed.Only.run (only_outcome (inside_run u work) deadline) (.refl u) (fun _ _ _ => .trans) b).1
  exact ⟨⟨h.book, h.calls⟩, h.others⟩

/-- What becomes of the book and the units of work if the unit can be opened. -/
theorem rows_of_opened (hs : b.store.Sound) (hb : b.begun.value = .ok u) :
    let t := (work.execute deadline).run.run b
    t.state.store.drafts = b.store.drafts ∧
      ((∃ a, t.value = .ok a) ∧ t.state.store.book =
        (work.written u b.begun.state).foldl Book.write b.store.book ∨
      (∃ e, t.value = .error e) ∧ t.state.store.book = b.store.book) := by
  have hopens := Bank.Opens.of_begun hs hb
  dsimp only
  rcases returns_or_fails deadline work u b.begun.state with ⟨a, hw⟩ | ⟨cause, hw⟩
  · obtain ⟨hvalue, hstate⟩ := execute_of_returns hb hw
    have hinside := inside_body work u b.begun.state
    -- the draft that the commit publishes consists of the rows that were returned
    obtain ⟨d, hd, hrows⟩ := (work.holds_run u hopens.holds).draft
    obtain ⟨hdrafts, hcommit⟩ := Bank.commit_run (b := (work.body u b.begun.state).state) hd
    rw [hvalue, hstate]
    refine ⟨hdrafts.trans (hopens.erase hinside), ?_⟩
    rcases hcommit with ⟨hc, hbook⟩ | ⟨e, hc, hbook⟩
    · refine .inl ⟨⟨a, ?_⟩, ?_⟩
      · show ((Except.mapError _ ((Bank.commit u).run.run _).value).map _) = _
        rw [hc]
        rfl
      · show ((Bank.commit u).run.run _).state.store.book = _
        rw [hbook, hrows.publish, hinside.book, hopens.book]
        rfl
    · refine .inr ⟨⟨.commit e, ?_⟩, ?_⟩
      · show ((Except.mapError _ ((Bank.commit u).run.run _).value).map _) = _
        rw [hc]
        rfl
      · show ((Bank.commit u).run.run _).state.store.book = _
        rw [hbook, hinside.book, hopens.book]
  · obtain ⟨hvalue, hstore⟩ := execute_of_fails hb hw
    have hinside := inside_givenUp deadline work u b.begun.state cause
    obtain ⟨hdrafts, hbook⟩ := Bank.rollback_run u (work.givenUp deadline u b.begun.state cause)
    rw [hvalue, hstore]
    exact ⟨hdrafts.trans (hopens.erase hinside), .inr ⟨⟨_, rfl⟩, hbook.trans (hinside.book.trans hopens.book)⟩⟩

theorem rows_execute (hs : b.store.Sound) (deadline : Option Time.Span) (work : Work α) :
    let t := (work.execute deadline).run.run b
    t.state.store.drafts = b.store.drafts ∧
      ((∃ a, t.value = .ok a) ∧ t.state.store.book =
        (work.written b.store.nextDraft b.begun.state).foldl Book.write b.store.book ∨
      (∃ e, t.value = .error e) ∧ t.state.store.book = b.store.book) := by
  rcases b.begun_cases with ⟨e, hb, faults, hstore⟩ | ⟨hb, -⟩
  · dsimp only
    rw [execute_of_unopened hb, hstore]
    exact ⟨rfl, .inr ⟨⟨_, rfl⟩, rfl⟩⟩
  · exact rows_of_opened hs hb

theorem contract (hs : b.store.Sound) (deadline : Option Time.Span) (work : Work α) :
    work.Contract deadline b ((work.execute deadline).run.run b) := by
  obtain ⟨hdrafts, hrows⟩ := rows_execute hs deadline work
  constructor
  case value => exact fun r => value_execute
  case opening =>
    refine fun e => value_execute.trans ⟨fun h => ?_, .unopened⟩
    cases h with
    | unopened hb => exact hb
    | failed _ hw _ => cases hw
  case unbegun => exact fun e => execute_of_unopened
  case unnested =>
    intro cause e h
    cases value_execute.1 h with
    | failed _ hw _ => cases hw
    | stuck _ hw _ => exact hw.plain
  case published =>
    intro a ha
    rcases hrows with ⟨-, hbook⟩ | ⟨⟨e, he⟩, -⟩
    · exact hbook
    · cases ha.symm.trans he
  case unchanged =>
    intro e he
    rcases hrows with ⟨⟨a, ha⟩, -⟩ | ⟨-, hbook⟩
    · cases ha.symm.trans he
    · exact hbook
  case drafts => exact hdrafts

/-- What an execution of work comes to from any store, with any faults, under any deadline. Among others it calls the
commit or the rollback of its unit once at most, and changes the book only by publishing what it has staged, only
if it succeeds. -/
theorem execute_contract (hb : b.store.Reachable) (deadline : Option Time.Span) (work : Work α) :
    work.Contract deadline b ((work.execute deadline).outcome.run b) ∧
      (∀ l m, Timed.Walk (work.execute deadline).outcome l m → endings l ≤ 1) ∧
      ∀ l r, Timed.Walk (work.execute deadline).outcome l (.done r) →
        (∀ a, r = .ok a → Publishes l) ∧ ∀ e, r = .error e → BookKept l := by
  refine ⟨contract hb.sound deadline work, fun l m h => endings_execute h, fun l r h => ?_⟩
  exact (walk_execute h).2

/-- A failed rollback is told with the failure of the work, or with the deadline that it has exceeded. -/
theorem execute_stuck :
    let b : Bank := ⟨.pair (Faults.none.failOn .rollback 1), [], []⟩
    let lost : Work Account := .writeEntry 1 5 fun _ => .readAccount 9 .done
    let slow : Work Account := .writeEntry 1 5 fun _ => .rest (.millis 20) (.readAccount 1 .done)
    b.store.Reachable ∧
      lost.Comes (some (.millis 10)) b (.error (.rollback (.aborted (.accountNotFound 9)) (.injectedAt .rollback))) ∧
      slow.Comes (some (.millis 10)) b
        (.error (.rollback (.deadlineExceeded (.millis 10)) (.injectedAt .rollback))) ∧
      ((slow.execute (some (.millis 10))).outcome.run b).state.store.book = b.store.book := by
  have hb := Store.reachable_pair (Faults.none.failOn .rollback 1)
  refine ⟨hb, ?_, ?_, ?_⟩
  · exact ((execute_contract (b := ⟨.pair _, [], []⟩) hb _ _).1.value _).1 rfl
  · exact ((execute_contract (b := ⟨.pair _, [], []⟩) hb _ _).1.value _).1 rfl
  · exact (execute_contract (b := ⟨.pair _, [], []⟩) hb _ _).1.unchanged _ rfl

end Work

end Teller
