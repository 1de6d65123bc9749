import Teller.Proofs.Bank.Primitive
import Teller.Proofs.Ledger.Atomic
import Teller.Proofs.Timed.Walk
import Teller.Proofs.Work.Course

/-!
# The steps of an execution

What an execution of work does step by step, whatever others do in between: one step at most calls the commit
or the rollback of a unit, and the book changes only in the step that publishes the draft of the unit.
-/

namespace Teller

/-- The step is counted as a call of a commit or of a rollback. -/
def Bank.CallsEnding (s : Bank × Bank) : Prop :=
  s.2.calls .commit ≠ s.1.calls .commit ∨ s.2.calls .rollback ≠ s.1.calls .rollback

instance (s : Bank × Bank) : Decidable (Bank.CallsEnding s) := by
  unfold Bank.CallsEnding
  infer_instance

/-- How many of the steps call the commit or the rollback of a unit of work. Others may set the rules of faults
between the steps, so no counter of the store could tell. -/
def endings (l : List (Bank × Bank)) : Nat :=
  l.countP fun s => decide (Bank.CallsEnding s)

/-- One of the steps opens a unit of work, a later one publishes what its draft is then, and all others leave the
book as it is. -/
def Publishes (l : List (Bank × Bank)) : Prop :=
  ∃ earlier s later, l = earlier ++ s :: later ∧
    (∃ o ∈ earlier, o.2.store = o.1.store.openDraft.2 ∧
      s.2.store.book = (s.1.store.draft o.1.store.nextDraft).publish s.1.store.book) ∧
    BookKept (earlier ++ later)

/-- The steps that end a unit of work: one call at most, which publishes the draft of the unit in its last step, or
nothing if it fails. -/
structure EndsUnit {ε α : Type} (u : Int) (l : List (Bank × Bank)) (r : Except ε α) : Prop where
  once : endings l ≤ 1
  published : ∀ a, r = .ok a → ∃ earlier s, l = earlier ++ [s] ∧
    s.2.store.book = (s.1.store.draft u).publish s.1.store.book ∧ BookKept earlier
  kept : ∀ e, r = .error e → BookKept l

variable {α β ε δ : Type} {l l' : List (Bank × Bank)} {u : Int} {p : Point}

theorem endings_append : endings (l ++ l') = endings l + endings l' :=
  List.countP_append

theorem bookKept_append : BookKept (l ++ l') ↔ BookKept l ∧ BookKept l' :=
  List.forall_mem_append

/-- Steps that change nothing but what every call may change. -/
theorem of_plain {E : α → Prop} {m n : Act α} (hm : m.Only Bank.Plain E) (h : Timed.Walk m l n) :
    endings l = 0 ∧ BookKept l := by
  obtain ⟨hl, -⟩ := hm.walk .refl h
  refine ⟨List.countP_eq_zero.2 fun s hs => ?_, fun s hs => (hl s hs).book⟩
  have hcalls := (hl s hs).calls
  simp [Bank.CallsEnding, hcalls .commit (.inl rfl), hcalls .rollback (.inr rfl)]

/-! ### Walks of attempts -/

namespace Attempt

open Timed

theorem walk_bind {m : Attempt ε α} {f : α → Attempt ε β} {r : Except ε β}
    (h : Walk (m >>= f).run l (.done r)) :
    (∃ e, r = .error e ∧ Walk m.run l (.done (.error e))) ∨
      ∃ l₁ l₂ a, l = l₁ ++ l₂ ∧ Walk m.run l₁ (.done (.ok a)) ∧ Walk (f a).run l₂ (.done r) := by
  rw [ExceptT.run_bind] at h
  obtain ⟨l₁, l₂, x, rfl, h₁, h₂⟩ := h.of_bind
  cases x with
  | error e =>
    obtain ⟨rfl, hr⟩ := h₂.of_done
    exact .inl ⟨e, Timed.done.inj hr, by rwa [List.append_nil]⟩
  | ok a => exact .inr ⟨l₁, l₂, a, rfl, h₁, h₂⟩

theorem walk_sure_bind {m : Act α} {f : α → Attempt ε β} {r : Except ε β}
    (h : Walk (sure m >>= f).run l (.done r)) :
    ∃ l₁ l₂ a, l = l₁ ++ l₂ ∧ Walk m l₁ (.done a) ∧ Walk (f a).run l₂ (.done r) := by
  rw [sure, ExceptT.run_bind_lift] at h
  exact h.of_bind

theorem walk_mapError {m : Attempt ε α} {f : ε → δ} {r : Except δ α} (h : Walk (m.mapError f).run l (.done r)) :
    ∃ x, r = x.mapError f ∧ Walk m.run l (.done x) := by
  obtain ⟨l₁, l₂, x, rfl, h₁, h₂⟩ := Walk.of_bind h
  obtain ⟨rfl, hr⟩ := h₂.of_done
  exact ⟨x, Timed.done.inj hr, by rwa [List.append_nil]⟩

end Attempt

/-! ### Walks of the calls -/

namespace Bank

open Timed Attempt

theorem walk_store {f : Store → α × Store} {a : α} (h : Walk (Act.store f) l (.done a)) :
    ∃ s : Bank, l = [(s, { s with store := (f s.store).2 })] ∧ a = (f s.store).1 :=
  h.of_step

theorem bookKept_pass {r : Except StoreError Unit} (h : Walk (pass p).run l (.done r)) : BookKept l := by
  obtain ⟨hl, -⟩ := Only.walk (passing_pass p) .refl h
  intro s hs
  obtain ⟨faults, hstore⟩ := hl s hs
  rw [hstore]

theorem endings_pass {r : Except StoreError Unit} (h : Walk (pass p).run l (.done r)) : endings l ≤ 1 := by
  -- only the step that trips the point counts the call
  have hstrike : ∀ {l r}, Walk (strike p).run l (.done r) → endings l ≤ 1 := by
    intro l r h
    obtain ⟨l₁, l₂, x, rfl, htrip, hrest⟩ := walk_sure_bind h
    obtain ⟨s, rfl, -⟩ := walk_store htrip
    have htail : endings l₂ = 0 := by
      cases x with
      | ok =>
        obtain ⟨rfl, -⟩ := hrest.of_done
        rfl
      | error e =>
        obtain ⟨l₃, l₄, _, rfl, hnote, hthrow⟩ := walk_sure_bind hrest
        obtain ⟨rfl, -⟩ := hthrow.of_done
        have hnoted : (Act.note (.injectedFailure p)).Only Plain fun _ => True :=
          fun b => ⟨⟨rfl, fun _ _ => rfl⟩, trivial⟩
        rw [List.append_nil]
        exact (of_plain hnoted hnote).1
    rw [endings_append, htail]
    exact List.countP_le_length
  obtain ⟨l₁, l₂, delay, rfl, hlook, hrest⟩ := walk_sure_bind h
  have hlooked : (Act.look (·.faults.delay? p)).Only Plain fun _ => True := fun b => ⟨.refl b, trivial⟩
  rw [endings_append, (of_plain hlooked hlook).1, Nat.zero_add]
  cases delay with
  | none => exact hstrike hrest
  | some d =>
    obtain ⟨l₃, l₄, _, rfl, hsleep, hlast⟩ := walk_sure_bind hrest
    have hslept : (Timed.sleep d : Act Unit).Only Plain fun _ => True :=
      ⟨fun _ h => (Bool.false_ne_true h).elim, fun _ => trivial⟩
    rw [endings_append, (of_plain hslept hsleep).1, Nat.zero_add]
    exact hstrike hlast

theorem walk_beginUnit (h : Walk beginUnit.run l (.done (.ok u))) :
    ∃ o ∈ l, o.2.store = o.1.store.openDraft.2 ∧ u = o.1.store.nextDraft := by
  rcases walk_bind h with ⟨e, he, -⟩ | ⟨l₁, l₂, _, rfl, -, h⟩
  · cases he
  rcases walk_bind h with ⟨e, he, -⟩ | ⟨l₃, l₄, _, rfl, -, h⟩
  · cases he
  obtain ⟨l₅, l₆, x, rfl, hopen, hdone⟩ := Walk.of_bind h
  obtain ⟨rfl, hx⟩ := hdone.of_done
  obtain ⟨s, rfl, rfl⟩ := walk_store hopen
  refine ⟨(s, { s with store := s.store.openDraft.2 }), by simp, rfl, ?_⟩
  exact Except.ok.inj (Timed.done.inj hx)

theorem plain_abandon (u : Int) : (abandon u).Only Plain fun _ => True :=
  fun _ => ⟨⟨rfl, fun _ _ => rfl⟩, trivial⟩

theorem walk_commit {r : Except StoreError Unit} (h : Walk (commit u).run l (.done r)) : EndsUnit u l r := by
  obtain ⟨l₁, l₂, x, rfl, hpass, hrest⟩ := walk_sure_bind h
  have hkept := bookKept_pass hpass
  have hcount := endings_pass hpass
  cases x with
  | ok =>
    obtain ⟨s, rfl, rfl⟩ := walk_store (f := (·.publish u)) hrest
    have houtcome := s.store.publish_outcome u
    -- the call has been counted when its point was passed
    have hfaults : (s.store.publish u).2.faults = s.store.faults := by
      rcases houtcome with ⟨e, heq⟩ | ⟨-, heq⟩ <;> rw [heq] <;> rfl
    have hzero : endings [(s, { s with store := (s.store.publish u).2 })] = 0 := by
      simp [endings, CallsEnding, calls, hfaults]
    refine ⟨by rw [endings_append]; omega, ?_, ?_⟩ <;>
      rcases houtcome with ⟨e, heq⟩ | ⟨-, heq⟩ <;> rw [heq]
    · rintro a ⟨⟩
    · exact fun _ _ => ⟨l₁, _, rfl, rfl, hkept⟩
    · exact fun _ _ => bookKept_append.2 ⟨hkept, List.forall_mem_singleton.2 rfl⟩
    · rintro e ⟨⟩
  | error e =>
    obtain ⟨l₃, l₄, _, rfl, habandon, hthrow⟩ := walk_sure_bind hrest
    obtain ⟨rfl, hr⟩ := hthrow.of_done
    obtain rfl := Timed.done.inj hr
    obtain ⟨hzero, hbook⟩ := of_plain (plain_abandon u) habandon
    rw [List.append_nil]
    refine ⟨by rw [endings_append]; omega, ?_, fun _ _ => bookKept_append.2 ⟨hkept, hbook⟩⟩
    rintro a ⟨⟩

theorem walk_rollback {r : Except StoreError Unit} (h : Walk (rollback u).run l (.done r)) :
    endings l ≤ 1 ∧ BookKept l := by
  obtain ⟨l₁, l₂, x, rfl, hpass, hrest⟩ := walk_sure_bind h
  obtain ⟨l₃, l₄, _, rfl, habandon, hlast⟩ := walk_sure_bind hrest
  obtain ⟨hzero, hbook⟩ := of_plain (plain_abandon u) habandon
  have hcount := endings_pass hpass
  obtain rfl : l₄ = [] := by cases x <;> exact hlast.of_done.1
  rw [List.append_nil, endings_append]
  exact ⟨by omega, bookKept_append.2 ⟨bookKept_pass hpass, hbook⟩⟩

/-- A commit publishes the draft in its last step, or it has failed at its point and gives the draft up. -/
theorem walk_commit_last {r : Except StoreError Unit} (h : Walk (commit u).run l (.done r)) :
    ∃ earlier s t, l = earlier ++ [(s, t)] ∧ (r = (s.store.publish u).1 ∧ t.store = (s.store.publish u).2 ∨
      r = .error (.injectedAt .commit) ∧ t.store = s.store.discard u) := by
  obtain ⟨l₁, l₂, x, rfl, hpass, hrest⟩ := walk_sure_bind h
  obtain ⟨-, hpassed⟩ := (passing_pass .commit).walk .refl hpass
  rcases hpassed with rfl | rfl
  · obtain ⟨s, rfl, rfl⟩ := walk_store (f := (·.publish u)) hrest
    exact ⟨l₁, s, _, rfl, .inl ⟨rfl, rfl⟩⟩
  · obtain ⟨l₃, l₄, _, rfl, habandon, hthrow⟩ := walk_sure_bind hrest
    obtain ⟨rfl, hr⟩ := hthrow.of_done
    obtain ⟨s, rfl, -⟩ := walk_store (f := fun s => ((), s.discard u)) habandon
    exact ⟨l₁, s, _, by rw [List.append_nil], .inr ⟨Timed.done.inj hr, rfl⟩⟩

theorem walk_rollback_last {r : Except StoreError Unit} (h : Walk (rollback u).run l (.done r)) :
    ∃ earlier s t, l = earlier ++ [(s, t)] ∧ t.store = s.store.discard u := by
  obtain ⟨l₁, l₂, x, rfl, -, hrest⟩ := walk_sure_bind h
  obtain ⟨l₃, l₄, _, rfl, habandon, hlast⟩ := walk_sure_bind hrest
  obtain ⟨s, rfl, -⟩ := walk_store (f := fun s => ((), s.discard u)) habandon
  obtain rfl : l₄ = [] := by cases x <;> exact hlast.of_done.1
  exact ⟨l₁, s, _, by rw [List.append_nil], rfl⟩

end Bank

namespace Primitive

open Timed

variable {x : Answer} {s t : Bank}

theorem walk_commit (h : Walk (commit u).act (l ++ [(s, t)]) (.done x)) :
    x = .done (s.store.publish u).1 ∧ t.store = (s.store.publish u).2 ∨
      x = .done (.error (.injectedAt .commit)) ∧ t.store = s.store.discard u := by
  obtain ⟨l₁, l₂, r, hl, hcommit, hlast⟩ := h.of_bind
  obtain ⟨rfl, hx⟩ := hlast.of_done
  obtain ⟨earlier, s', t', rfl, hcases⟩ := Bank.walk_commit_last hcommit
  rw [List.append_nil] at hl
  obtain ⟨-, hst⟩ := List.append_inj' hl rfl
  cases hst
  obtain rfl := Timed.done.inj hx
  refine hcases.imp ?_ ?_ <;>
  · rintro ⟨rfl, hstore⟩
    exact ⟨rfl, hstore⟩

theorem walk_rollback (h : Walk (rollback u).act (l ++ [(s, t)]) (.done x)) : t.store = s.store.discard u := by
  obtain ⟨l₁, l₂, r, hl, hrollback, hlast⟩ := h.of_bind
  obtain ⟨rfl, -⟩ := hlast.of_done
  obtain ⟨earlier, s', t', rfl, hstore⟩ := Bank.walk_rollback_last hrollback
  rw [List.append_nil] at hl
  obtain ⟨-, hst⟩ := List.append_inj' hl rfl
  cases hst
  exact hstore

end Primitive

/-! ### Walks of executions -/

namespace Work

open Timed Attempt

variable {deadline : Option Time.Span} {work : Work α} {m : Act (Except WorkError α)}

theorem walk_conclude_ok {a : α} {r : Except WorkError α} (h : Walk (conclude u (.ok a)).run l (.done r)) :
    EndsUnit u l r := by
  have hcommitted : Walk ((Bank.commit u).mapError WorkError.commit >>= fun _ => pure a : Attempt WorkError α).run l
    (.done r) := h
  rcases walk_bind hcommitted with ⟨e, rfl, hfailed⟩ | ⟨l₁, l₂, _, rfl, hdone, hlast⟩
  · obtain ⟨y, hy, hcommit⟩ := walk_mapError hfailed
    have hends := Bank.walk_commit hcommit
    cases y with
    | ok => cases hy
    | error f =>
      refine ⟨hends.once, ?_, fun _ _ => hends.kept f rfl⟩
      rintro a ⟨⟩
  · obtain ⟨y, hy, hcommit⟩ := walk_mapError hdone
    have hends := Bank.walk_commit hcommit
    obtain ⟨rfl, hr⟩ := hlast.of_done
    obtain rfl := Timed.done.inj hr
    rw [List.append_nil]
    cases y with
    | error f => cases hy
    | ok =>
      refine ⟨hends.once, fun _ _ => hends.published () rfl, ?_⟩
      rintro e ⟨⟩

theorem walk_conclude_error {cause : WorkError} {r : Except WorkError α}
    (h : Walk (conclude u (.error cause)).run l (.done r)) : EndsUnit u l r := by
  have hnote : ∀ e : Event, (Act.note e).Only Bank.Plain fun _ => True :=
    fun _ _ => ⟨⟨rfl, fun _ _ => rfl⟩, trivial⟩
  obtain ⟨l₁, l₂, _, rfl, hnoted, hrest⟩ := walk_sure_bind h
  obtain ⟨l₃, l₄, y, rfl, hrollback, hlast⟩ := walk_sure_bind hrest
  obtain ⟨hzero, hkept⟩ := of_plain (hnote _) hnoted
  obtain ⟨hcount, hkept'⟩ := Bank.walk_rollback hrollback
  have htold : (endings l₄ = 0 ∧ BookKept l₄) ∧ ∃ e, r = .error e := by
    cases y with
    | ok =>
      obtain ⟨rfl, hr⟩ := hlast.of_done
      exact ⟨⟨rfl, by rintro s ⟨⟩⟩, _, Timed.done.inj hr⟩
    | error e =>
      obtain ⟨l₅, l₆, _, rfl, htold, hthrow⟩ := walk_sure_bind hlast
      obtain ⟨rfl, hr⟩ := hthrow.of_done
      rw [List.append_nil]
      exact ⟨of_plain (hnote _) htold, _, Timed.done.inj hr⟩
  obtain ⟨⟨hzero', hkept''⟩, e, rfl⟩ := htold
  refine ⟨by rw [endings_append, endings_append]; omega, ?_, fun _ _ => ?_⟩
  · rintro a ⟨⟩
  · exact bookKept_append.2 ⟨hkept, bookKept_append.2 ⟨hkept', hkept''⟩⟩

/-- An execution calls the commit or the rollback of its unit once at most. Its steps publish the draft of the unit
if it succeeds, and leave the book as it is otherwise. -/
theorem walk_execute {r : Except WorkError α} (h : Walk (work.execute deadline).run l (.done r)) :
    endings l ≤ 1 ∧ (∀ a, r = .ok a → Publishes l) ∧ ∀ e, r = .error e → BookKept l := by
  rw [execute_eq] at h
  rcases walk_bind h with ⟨e, rfl, hbegin⟩ | ⟨l₁, l₂, u, rfl, hbegin, hrest⟩
  · obtain ⟨y, -, hbegin⟩ := walk_mapError hbegin
    obtain ⟨hzero, hkept⟩ := of_plain Bank.plain_beginUnit hbegin
    refine ⟨by omega, ?_, fun _ _ => hkept⟩
    rintro a ⟨⟩
  obtain ⟨y, hy, hbegin⟩ := walk_mapError hbegin
  obtain rfl : y = .ok u := by
    cases y with
    | ok v => rw [Except.ok.inj hy]
    | error e => cases hy
  obtain ⟨l₃, l₄, x, rfl, hwork, hend⟩ := walk_sure_bind hrest
  obtain ⟨hzero, hkept⟩ := of_plain Bank.plain_beginUnit hbegin
  have hplain : (work.outcome deadline u).Only Bank.Plain fun _ => True :=
    (only_outcome (inside_run u work) deadline).mono (fun _ _ h => h.toPlain) fun _ h => h
  obtain ⟨hzero', hkept'⟩ := of_plain hplain hwork
  obtain ⟨o, ho, hopened, rfl⟩ := Bank.walk_beginUnit hbegin
  have hends : EndsUnit o.1.store.nextDraft l₄ r := by
    cases x with
    | ok a => exact walk_conclude_ok hend
    | error cause => exact walk_conclude_error hend
  have hcount := hends.once
  refine ⟨by rw [endings_append, endings_append]; omega, fun a ha => ?_, fun e he => ?_⟩
  · obtain ⟨earlier, s, rfl, hbook, hearlier⟩ := hends.published a ha
    refine ⟨l₁ ++ (l₃ ++ earlier), s, [], by simp, ⟨o, List.mem_append_left _ ho, hopened, hbook⟩, ?_⟩
    rw [List.append_nil]
    exact bookKept_append.2 ⟨hkept, bookKept_append.2 ⟨hkept', hearlier⟩⟩
  · exact bookKept_append.2 ⟨hkept, bookKept_append.2 ⟨hkept', hends.kept e he⟩⟩

/-- Also an execution that is still under way has called the commit or the rollback of its unit once at most. -/
theorem endings_execute {m : Act (Except WorkError α)} (h : Walk (work.execute deadline).run l m) : endings l ≤ 1 := by
  obtain ⟨l', r, hdone⟩ := h.complete
  have hcount := (walk_execute hdone).1
  rw [endings_append] at hcount
  omega

end Work

end Teller
