import Teller.Proofs.Transfer.Deadline
import Teller.Proofs.Work.Contract

/-!
# Nobody else at the bank

While no other unit of work is open, every row is free, so neither a transfer nor the removal of an account fails for
a locked row, whatever faults are asked for and however short rows are waited for (`Order.unhindered`).
-/

namespace Teller

/-- No other unit of work is open. -/
def Bank.Sole (u : Int) (b : Bank) : Prop :=
  ∀ v d, b.store.drafts.get? v = some d → v = u

/-- As long as no other unit of work is open, the call does not fail for a locked row, and opens none. -/
def Attempt.Unhindered {α : Type} (u : Int) (m : Attempt StoreError α) : Prop :=
  ∀ b : Bank, b.Sole u → (m.run.run b).state.Sole u ∧ ∀ k, (m.run.run b).value ≠ .error (.lockTimeout k)

/-- No request is turned away as if a row were locked. -/
def Bank.Candid (b : Bank) : Prop :=
  ∀ r ∈ b.refusals, ∀ k, r.error ≠ .lockTimeout k

/-- The failure of the store that a transfer failed of. -/
def TransferError.storeError? : TransferError → Option StoreError
  | .store e => some e
  | .work e => e.storeError?
  | _ => none

variable {α β : Type} {b b' : Bank} {u k : Int}

namespace Bank

theorem Sole.inside (h : b.Sole u) (hb : b.Inside u b') : b'.Sole u := by
  intro v d hv
  by_contra hvu
  rw [hb.others v hvu] at hv
  exact hvu (h v d hv)

theorem Sole.free (h : b.Sole u) (k : Int) : b.store.Free (some u) k := by
  cases hk : b.store.holder? k with
  | none => exact .inl hk
  | some v =>
    obtain ⟨d, hd, -⟩ := Store.of_holder?_eq_some hk
    exact .inr (h v d hd ▸ hk)

theorem refusal_of_refusal? {request : Request} {row : Option Int} {e : StoreError}
    (h : b.refusal? request row = some e) : ∃ r ∈ b.refusals, r.error = e := by
  have hgiven : ∀ {p : Refusal → Bool}, (b.refusals.find? p).map (·.error) = some e →
      ∃ r ∈ b.refusals, r.error = e := by
    intro p hp
    obtain ⟨r, hr, he⟩ := Option.map_eq_some_iff.1 hp
    exact ⟨r, List.mem_of_find?_eq_some hr, he⟩
  unfold refusal? at h
  cases row with
  | none => exact hgiven h
  | some id =>
    rcases Option.or_eq_some_iff.1 h with h | ⟨-, h⟩
    · exact hgiven h
    · exact hgiven h

end Bank

namespace Attempt

theorem Unhindered.bind {m : Attempt StoreError α} {f : α → Attempt StoreError β} (hm : Unhindered u m)
    (hf : ∀ a, Unhindered u (f a)) : Unhindered u (m >>= f) := by
  intro b hb
  obtain ⟨hstate, hvalue⟩ := hm b hb
  cases hv : (m.run.run b).value with
  | ok a =>
    rw [run_bind_of_ok hv]
    exact hf a _ hstate
  | error e =>
    rw [run_bind_of_error hv]
    refine ⟨hstate, fun k hk => hvalue k ?_⟩
    rw [hv, ← Except.error.inj hk]

theorem unhindered_pure (u : Int) (a : α) : Unhindered u (pure a) :=
  fun _ hb => ⟨hb, by rintro k ⟨⟩⟩

theorem unhindered_store {f : Store → Except StoreError α × Store}
    (hinside : ∀ b : Bank, b.Inside u { b with store := (f b.store).2 })
    (hf : ∀ (s : Store) k, (f s).1 ≠ .error (.lockTimeout k)) : Unhindered u (Attempt.store f) :=
  fun b hb => ⟨hb.inside (hinside b), hf b.store⟩

end Attempt

namespace Bank

open Attempt

theorem unhindered_pass (u : Int) (p : Point) : Unhindered u (pass p) := by
  intro b hb
  obtain ⟨⟨faults, hstore⟩, hv⟩ := pass_run p b
  refine ⟨fun v d hd => hb v d ?_, fun k hk => ?_⟩
  · rw [hstore] at hd
    exact hd
  · rw [hk] at hv
    rcases hv with hv | hv <;> cases hv

theorem unhindered_lockRow (u k : Int) : Unhindered u (lockRow u k) := by
  intro b hb
  rw [lockRow_alone, if_pos (hb.free k)]
  exact ⟨hb.inside (.lock u k b), by rintro j ⟨⟩⟩

theorem unhindered_writeTransferIn (u source target amount : Int) :
    Unhindered u (writeTransferIn u source target amount) := by
  refine .bind (unhindered_pass u _) fun _ => unhindered_store (.stageTransfer u source target amount) fun s k => ?_
  unfold Store.stageTransfer
  split_ifs <;> rintro ⟨⟩

theorem unhindered_writeEntryIn (u account amount : Int) : Unhindered u (writeEntryIn u account amount) := by
  refine .bind (unhindered_pass u _) fun _ => unhindered_store (.stageEntry u account amount) fun s k => ?_
  unfold Store.stageEntry
  split_ifs <;> rintro ⟨⟩

theorem unhindered_adjustIn (u id delta : Int) (floor : Bool) : Unhindered u (adjustIn u id delta floor) := by
  refine .bind (unhindered_pass u _) fun _ => .bind (unhindered_lockRow u id) fun _ =>
    unhindered_store (.adjust u id delta floor) fun s k => ?_
  unfold Store.adjust Store.seen Account.add
  cases s.seen? u id with
  | none => rintro ⟨⟩
  | some a =>
    dsimp only
    cases Amount.fit? (a.balance + delta) with
    | none => rintro ⟨⟩
    | some balance =>
      dsimp only
      by_cases hfloor : floor = true ∧ balance < 0
      · rw [if_pos hfloor]
        rintro ⟨⟩
      · rw [if_neg hfloor]
        rintro ⟨⟩

/-- A commit waits for no row. -/
theorem unhindered_commit (u : Int) (b : Bank) : ((commit u).outcome.run b).value ≠ .error (.lockTimeout k) := by
  have hpass : ((pass .commit).outcome.run b).value = .ok () ∨
    ((pass .commit).outcome.run b).value = .error (.injectedAt .commit) := (pass_run .commit b).2
  show ((commit u).run.run b).value ≠ _
  rw [commit, Attempt.value_sure_bind]
  generalize (pass .commit).outcome.run b = t at hpass
  obtain ⟨pauses, value, state⟩ := t
  rcases hpass with rfl | rfl
  · show (state.store.publish u).1 ≠ _
    rcases state.store.publish_outcome u with ⟨e, heq⟩ | ⟨-, heq⟩
    · unfold Store.publish
      dsimp only
      split <;> rintro ⟨⟩
    · rw [heq]
      rintro ⟨⟩
  · rintro ⟨⟩

theorem begun_candid (hb : b.Candid) : b.begun.value ≠ .error (.lockTimeout k) := by
  show (beginUnit.run.run b).value ≠ _
  have hreceive := receive_alone .opening none b
  unfold beginUnit openUnit
  cases hr : b.refusal? .opening none with
  | some e =>
    rw [hr] at hreceive
    rw [Attempt.run_bind_error hreceive]
    obtain ⟨r, hmem, rfl⟩ := refusal_of_refusal? hr
    exact fun h => hb r hmem k (Except.error.inj h)
  | none =>
    rw [hr] at hreceive
    rw [Attempt.run_bind_ok hreceive]
    rcases (pass_run .opening b).2 with hv | hv
    · rw [Attempt.run_bind_of_ok hv]
      rintro ⟨⟩
    · rw [Attempt.run_bind_of_error hv]
      rintro ⟨⟩

/-- While no unit of work is open, an account is removed without waiting. -/
theorem unhindered_deleteAccount (hb : b.Candid) (hopen : ∀ u, b.store.drafts.get? u = none) (id : Int) :
    ((deleteAccount id).run.run b).value ≠ .error (.lockTimeout k) := by
  have hreceive := receive_alone .deleteAccount (some id) b
  unfold deleteAccount
  cases hr : b.refusal? .deleteAccount (some id) with
  | some e =>
    rw [hr] at hreceive
    rw [Attempt.run_bind_error hreceive]
    obtain ⟨r, hmem, rfl⟩ := refusal_of_refusal? hr
    exact fun h => hb r hmem k (Except.error.inj h)
  | none =>
    rw [hr] at hreceive
    have hfree : b.store.Free none id := by
      refine .inl (Store.holder?_eq_none_iff.2 fun u d hd => ?_)
      rw [hopen u] at hd
      cases hd
    rw [Attempt.run_bind_ok hreceive, onceFree_alone, if_pos hfree]
    unfold Store.remove
    split_ifs <;> rintro ⟨⟩

end Bank

namespace Order

open Attempt Bank

theorem unhindered_work (o : Order) (overdraft : Bool) (u : Int) : Unhindered u ((o.work overdraft).run u) := by
  rw [Order.run_work]
  refine (unhindered_writeTransferIn u _ _ _).bind fun _ => ?_
  refine (unhindered_writeEntryIn u _ _).bind fun _ => (unhindered_writeEntryIn u _ _).bind fun _ => ?_
  refine (unhindered_adjustIn u _ _ _).bind fun _ => (unhindered_adjustIn u _ _ _).bind fun _ => ?_
  exact unhindered_pure u _

theorem unhindered_execute (hs : b.store.Sound) (hb : b.Candid) (hopen : ∀ u, b.store.drafts.get? u = none) (o : Order)
    (overdraft : Bool) (deadline : Option Time.Span) {cause : WorkError}
    (hcause : (((o.work overdraft).execute deadline).run.run b).value = .error cause) :
    cause.storeError? ≠ some (.lockTimeout k) := by
  have hfails : ∀ {u cause}, b.begun.value = .ok u → (o.work overdraft).Fails deadline u b.begun.state cause →
      cause.storeError? ≠ some (.lockTimeout k) := by
    intro u cause hu hfails
    cases hfails with
    | @aborted e he hin =>
      have hsole : b.begun.state.Sole u := by
        intro v d hv
        rw [(Opens.of_begun hs hu).drafts] at hv
        rcases Table.get?_put_eq_some_iff.1 hv with ⟨hvu, -⟩ | ⟨-, hv⟩
        · exact hvu
        · rw [hopen v] at hv
          cases hv
      have hne := (unhindered_work o overdraft u _ hsole).2 k
      exact fun h => hne (he.trans (congrArg _ (Option.some.inj h)))
    | deadlineExceeded hd hlate => rintro ⟨⟩
  have hcomes := Work.value_execute.1 hcause
  generalize hr : (Except.error cause : Except WorkError Receipt) = r at hcomes
  cases hcomes with
  | @unopened e he =>
    obtain rfl := Except.error.inj hr
    exact fun h => begun_candid hb (he.trans (congrArg _ (Option.some.inj h)))
  | done => cases hr
  | @uncommitted u a e hu hw hc =>
    obtain rfl := Except.error.inj hr
    exact fun h => unhindered_commit u _ (hc.trans (congrArg _ (Option.some.inj h)))
  | failed hu hw hr' =>
    obtain rfl := Except.error.inj hr
    exact hfails hu hw
  | stuck hu hw hr' =>
    -- what the rollback failed of is told besides
    obtain rfl := Except.error.inj hr
    have hne := hfails hu hw
    exact hne

/-- While no unit of work is open, no transfer fails for a locked row. -/
theorem unhindered (hs : b.store.Sound) (hb : b.Candid) (hopen : ∀ u, b.store.drafts.get? u = none) (o : Order)
    (terms : Terms) {e : TransferError} (he : ((o.execute terms).outcome.run b).value = .error e) :
    e.storeError? ≠ some (.lockTimeout k) := by
  cases hproper : o.improper? with
  | some e' =>
    rw [execute_of_improper hproper] at he
    obtain rfl := Except.error.inj he
    unfold improper? at hproper
    split_ifs at hproper <;>
    · obtain rfl := Option.some.inj hproper
      rintro ⟨⟩
  | none =>
    cases hwork : (((o.work terms.overdraft).execute terms.deadline).run.run b).value with
    | ok receipt =>
      have hdone : ((((o.work terms.overdraft).execute terms.deadline).mapError TransferError.work).run.run b).value =
          .ok receipt := by
        rw [Attempt.run_mapError, hwork]
        rfl
      rw [execute_of_proper hproper, Attempt.outcome, Attempt.run_bind_of_ok hdone] at he
      cases he
    | error cause =>
      have hvalue := (run_execute_of_error hproper hwork).1
      obtain rfl := Except.error.inj (hvalue.symm.trans he)
      exact unhindered_execute hs hb hopen o terms.overdraft terms.deadline hwork

end Order

end Teller
