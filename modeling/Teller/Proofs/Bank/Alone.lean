import Teller.Bank.Pool
import Teller.Proofs.Store.Sound
import Teller.Proofs.Timed.Step

/-!
# The bank alone, without faults

A call that nobody interferes with, and for which no faults are asked for, takes no time, except that
it waits in vain for rows that others have locked. `Bank.InUnit` is the invariant of a unit of work
then: the bank is as before, but for the unit's own draft.
-/

namespace Teller

namespace Attempt

variable {ε δ α β : Type} {b b' : Bank} {m : Attempt ε α} {a : α} {e : ε}
  {pauses : List (Time.Span × Bank)}

theorem run_bind_ok (h : m.run.run b = ⟨[], .ok a, b'⟩) (f : α → Attempt ε β) :
    (m >>= f).run.run b = (f a).run.run b' := by
  rw [ExceptT.run_bind, Timed.run_bind_of_run h]

theorem run_bind_error (h : m.run.run b = ⟨pauses, .error e, b'⟩) (f : α → Attempt ε β) :
    (m >>= f).run.run b = ⟨pauses, .error e, b'⟩ := by
  rw [ExceptT.run_bind, Timed.run_bind, h]
  exact congrArg (Trace.mk · _ _) (List.append_nil pauses)

theorem run_sure_bind {m : Act α} (h : m.run b = ⟨[], a, b'⟩) (f : α → Attempt ε β) :
    (sure m >>= f).run.run b = (f a).run.run b' :=
  run_bind_ok (m := sure m) (Timed.run_bind_of_run h _) f

theorem run_bind_of_ok (h : (m.run.run b).value = .ok a) (f : α → Attempt ε β) : (m >>= f).run.run b =
    ⟨(m.run.run b).pauses ++ ((f a).run.run (m.run.run b).state).pauses,
      ((f a).run.run (m.run.run b).state).value, ((f a).run.run (m.run.run b).state).state⟩ := by
  rw [ExceptT.run_bind, Timed.run_bind, h]

theorem run_bind_of_error (h : (m.run.run b).value = .error e) (f : α → Attempt ε β) : (m >>= f).run.run b =
    ⟨(m.run.run b).pauses, .error e, (m.run.run b).state⟩ := by
  rw [ExceptT.run_bind, Timed.run_bind, h]
  exact congrArg (Trace.mk · _ _) (List.append_nil _)

theorem value_sure_bind (m : Act α) (f : α → Attempt ε β) (b : Bank) :
    ((sure m >>= f).run.run b).value = ((f (m.run b).value).run.run (m.run b).state).value := by
  rw [sure, ExceptT.run_bind_lift, Timed.run_bind]

theorem state_sure_bind (m : Act α) (f : α → Attempt ε β) (b : Bank) :
    ((sure m >>= f).run.run b).state = ((f (m.run b).value).run.run (m.run b).state).state := by
  rw [sure, ExceptT.run_bind_lift, Timed.run_bind]

theorem run_store {f : Store → Except ε α × Store} {r : Except ε α} {s : Store} (h : f b.store = (r, s)) :
    (store f).run.run b = ⟨[], r, { b with store := s }⟩ := by
  show Trace.mk [] (f b.store).1 { b with store := (f b.store).2 } = _
  rw [h]

theorem run_mapError (m : Attempt ε α) (f : ε → δ) (b : Bank) : (m.mapError f).run.run b =
    ⟨(m.run.run b).pauses, (m.run.run b).value.mapError f, (m.run.run b).state⟩ := by
  show Timed.run (m.run >>= fun r => .done (r.mapError f)) b = _
  rw [Timed.run_bind]
  exact congrArg (Trace.mk · _ _) (List.append_nil _)

end Attempt

/-- The pauses of a call that ends at once, or waits in vain for a row. -/
def Bank.waited {α : Type} (b : Bank) (r : Except StoreError α) : List (Time.Span × Bank) :=
  match r with
  | .error (.lockTimeout _) => [(b.store.patience, b)]
  | _ => []

/-- How a call that is alone reads an account under its row's lock. -/
def Store.reach (s : Store) (account : Int) : Except StoreError Account :=
  if s.Free none account then s.book.account account else .error (.lockTimeout account)

/-- The bank with a unit of work open that has this draft. -/
structure Bank.InUnit (b₀ : Bank) (u : Int) (d : Draft) (b : Bank) : Prop where
  book : b.store.book = b₀.store.book
  drafts : b.store.drafts = b₀.store.drafts.put u d
  faults : b.store.faults = .none
  patience : b.store.patience = b₀.store.patience

namespace Bank

variable {b₀ b : Bank} {u k : Int} {d d' : Draft}

theorem pass_alone (hf : b.store.faults = .none) (p : Point) : (pass p).run.run b = ⟨[], .ok (), b⟩ := by
  obtain ⟨s, r, j⟩ := b
  obtain ⟨book, na, ne, nt, drafts, nd, faults, patience, now⟩ := s
  subst hf
  rfl

theorem onceFree_alone {α : Type} (w : Option Int) (k : Int) (f : Store → Except StoreError α × Store)
    (b : Bank) : (onceFree w k f).run.run b =
      if b.store.Free w k then ⟨[], (f b.store).1, { b with store := (f b.store).2 }⟩
      else ⟨[(b.store.patience, b)], .error (.lockTimeout k), b⟩ := by
  have h : (onceFree w k f).run.run b =
      if decide (b.store.Free w k) = true then ⟨[], (f b.store).1, { b with store := (f b.store).2 }⟩
      else ⟨[(b.store.patience, b)], .error (.lockTimeout k), b⟩ := by
    show (if _ then _ else _) = _
    rfl
  rw [h]
  simp only [decide_eq_true_eq]

theorem lockRow_alone (u k : Int) (b : Bank) : (lockRow u k).run.run b =
    if b.store.Free (some u) k then ⟨[], .ok (), { b with store := b.store.lock u k }⟩
    else ⟨[(b.store.patience, b)], .error (.lockTimeout k), b⟩ :=
  onceFree_alone _ _ _ b

theorem staging_alone {α : Type} (hf : b.store.faults = .none) (p : Point)
    {f : Store → Except StoreError α × Store} {r : Except StoreError α} {s : Store}
    (h : f b.store = (r, s)) : (do pass p; Attempt.store f : Attempt StoreError α).run.run b =
      ⟨[], r, { b with store := s }⟩ :=
  (Attempt.run_bind_ok (pass_alone hf p) _).trans (Attempt.run_store h)

theorem refusal?_of_nil (hr : b.refusals = []) (request : Request) (row : Option Int) :
    b.refusal? request row = none := by
  cases row <;> simp [refusal?, hr]

theorem receive_alone (request : Request) (row : Option Int) (b : Bank) :
    (receive request row).run.run b = ⟨[], match b.refusal? request row with
      | some e => .error e
      | none => .ok (), b⟩ := by
  unfold receive
  rw [Attempt.run_sure_bind rfl]
  cases b.refusal? request row <;> rfl

theorem read_alone {α : Type} (request : Request) (row : Option Int) (f : Store → Except StoreError α) (b : Bank) :
    (do receive request row; Attempt.look f : Attempt StoreError α).run.run b =
      ⟨[], match b.refusal? request row with
        | some e => .error e
        | none => f b.store, b⟩ := by
  have hreceive := receive_alone request row b
  cases hr : b.refusal? request row with
  | some e => rw [hr] at hreceive; rw [Attempt.run_bind_error hreceive]
  | none => rw [hr] at hreceive; rw [Attempt.run_bind_ok hreceive]; rfl

/-- A computation goes on with what a read has found. -/
theorem run_read_bind {ε α β : Type} (request : Request) (row : Option Int) (f : Store → Except StoreError α)
    (g : StoreError → ε) (k : α → Attempt ε β) (b : Bank) :
    ((do receive request row; Attempt.look f : Attempt StoreError α).mapError g >>= k).run.run b =
      match b.refusal? request row with
      | some e => ⟨[], .error (g e), b⟩
      | none =>
        match f b.store with
        | .error e => ⟨[], .error (g e), b⟩
        | .ok a => (k a).run.run b := by
  have hmap := Attempt.run_mapError (do receive request row; Attempt.look f : Attempt StoreError α) g b
  rw [read_alone] at hmap
  cases hr : b.refusal? request row with
  | some e => rw [hr] at hmap; exact Attempt.run_bind_error hmap k
  | none =>
    rw [hr] at hmap
    cases hf : f b.store with
    | error e => rw [hf] at hmap; exact Attempt.run_bind_error hmap k
    | ok a => rw [hf] at hmap; exact Attempt.run_bind_ok hmap k

theorem beginUnit_alone (hf : b.store.faults = .none) (hr : b.refusal? .opening none = none) :
    beginUnit.run.run b = ⟨[], .ok b.store.nextDraft, { b with store := b.store.openDraft.2 }⟩ := by
  unfold beginUnit openUnit
  rw [Attempt.run_bind_ok ((receive_alone _ _ b).trans (by rw [hr])), Attempt.run_bind_ok (pass_alone hf _)]
  rfl

theorem note_alone (e : Event) (b : Bank) :
    (Act.note e).run b = ⟨[], (), { b with journal := e :: b.journal }⟩ :=
  rfl

theorem commit_alone (hf : b.store.faults = .none) (u : Int) : (commit u).run.run b =
    ⟨[], (b.store.publish u).1, { b with store := (b.store.publish u).2 }⟩ := by
  unfold commit
  rw [Attempt.run_sure_bind (m := (pass .commit).outcome) (pass_alone hf _)]
  rfl

theorem rollback_alone (hf : b.store.faults = .none) (u : Int) :
    (rollback u).run.run b = ⟨[], .ok (), { b with store := b.store.discard u }⟩ := by
  unfold rollback
  rw [Attempt.run_sure_bind (m := (pass .rollback).outcome) (pass_alone hf _)]
  rfl

namespace InUnit

theorem draft (h : b₀.InUnit u d b) : b.store.drafts.get? u = some d := by
  rw [h.drafts, Table.get?_put_self]

theorem openDraft (hf : b₀.store.faults = .none) :
    b₀.InUnit b₀.store.nextDraft .empty { b₀ with store := b₀.store.openDraft.2 } :=
  ⟨rfl, rfl, hf, rfl⟩

/-- A step that is about the unit's draft only. -/
theorem setDraft (h : b₀.InUnit u d b) {s : Store} (hbook : s.book = b.store.book)
    (hdrafts : s.drafts = b.store.drafts) (hf : s.faults = b.store.faults)
    (hp : s.patience = b.store.patience) : b₀.InUnit u d' { b with store := s.setDraft u d' } := by
  refine ⟨hbook.trans h.book, ?_, hf.trans h.faults, hp.trans h.patience⟩
  refine Table.ext_get? fun j => ?_
  show (s.drafts.put u d').get? j = _
  rw [hdrafts, h.drafts, Table.get?_put, Table.get?_put, Table.get?_put]
  split <;> rfl

/-- A row that the unit has not locked yet is free for it if it was free before. -/
theorem free_iff (h : b₀.InUnit u d b) (hu : b₀.store.drafts.get? u = none) (hk : k ∉ d.locks) :
    b.store.Free (some u) k ↔ b₀.store.Free none k := by
  have hnone : b.store.holder? k = none ↔ b₀.store.holder? k = none := by
    rw [Store.holder?_eq_none_iff, Store.holder?_eq_none_iff]
    constructor
    · intro hall v e hv
      refine hall v e ?_
      rw [h.drafts, Table.get?_put, if_neg, hv]
      rintro rfl
      rw [hu] at hv
      cases hv
    · intro hall v e hv
      rw [h.drafts] at hv
      rcases Table.get?_put_eq_some_iff.1 hv with ⟨-, rfl⟩ | ⟨-, hv⟩
      · exact hk
      · exact hall v e hv
  unfold Store.Free
  rw [hnone, or_self]
  refine ⟨fun hfree => hfree.elim id fun hself => ?_, .inl⟩
  obtain ⟨e, he, hke⟩ := Store.of_holder?_eq_some hself
  rw [h.draft] at he
  cases he
  exact absurd hke hk

end InUnit

end Bank

end Teller
