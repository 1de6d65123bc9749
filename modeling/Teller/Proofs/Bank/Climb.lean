import Teller.Proofs.Work.Execute

/-!
# Locks in ascending order

`Timed.Climbs`: a call locks no row but by waiting for it, and it waits only for rows whose numbers are
above those of all rows that it has locked before. That is a property of the call alone, whatever the
states that it meets, so it goes down the tree of the call like `Timed.Follows`. The rows that it has
locked are counted also when their unit of work has ended meanwhile.
-/

namespace Teller

/-- The row is free for the unit of work, or, without a unit, free altogether. -/
def Bank.rowFree (unit : Option Int) (k : Int) (b : Bank) : Bool :=
  decide (b.store.Free unit k)

/-- The units of work have no rows locked but those that they had before, and new ones. -/
def Store.LocksOnly (new : List Int) (s s' : Store) : Prop :=
  ∀ u d' k, s'.drafts.get? u = some d' → k ∈ d'.locks →
    k ∈ new ∨ ∃ d, s.drafts.get? u = some d ∧ k ∈ d.locks

/-- What is waited for tells the row. -/
theorem Bank.rowFree_inj {unit unit' : Option Int} {k k' : Int} (h : rowFree unit k = rowFree unit' k') :
    k = k' := by
  by_contra hne
  -- a bank where somebody else has the first row locked, and that row only
  have hu : ∃ u : Int, unit ≠ some u := by
    cases unit with
    | none => exact ⟨0, by simp⟩
    | some v => exact ⟨v + 1, by simp⟩
  obtain ⟨u, hu⟩ := hu
  have hs := congrFun h ⟨{ Store.new .zero .epoch with
    drafts := Table.empty.put u { Draft.empty with locks := [k] } }, [], []⟩
  simp [rowFree, Store.Free, Store.holder?, Table.put, Table.place, Table.empty, Ne.symm hne, Ne.symm hu] at hs

theorem Bank.rowFree_ne_false (unit : Option Int) (k : Int) : rowFree unit k ≠ fun _ => false := by
  intro h
  have hs := congrFun h (.new .zero .epoch)
  simp [rowFree, Store.Free, Store.holder?, Bank.new, Store.new, Table.empty] at hs

namespace Store.LocksOnly

variable {s s' : Store} {u k : Int}

theorem refl (s : Store) : LocksOnly [] s s :=
  fun _ d' _ hu hk => .inr ⟨d', hu, hk⟩

theorem of_drafts (h : s'.drafts = s.drafts) : LocksOnly [] s s' := by
  intro v d' j hv hj
  rw [h] at hv
  exact .inr ⟨d', hv, hj⟩

theorem erase (h : s'.drafts = s.drafts.erase u) : LocksOnly [] s s' := by
  intro v d' j hv hj
  rw [h] at hv
  exact .inr ⟨d', (Table.get?_erase_eq_some_iff.1 hv).2, hj⟩

/-- A unit of work has another draft, perhaps with more rows locked. -/
theorem put {new : List Int} {e : Draft} (h : s'.drafts = s.drafts.put u e)
    (he : ∀ j ∈ e.locks, j ∈ new ∨ j ∈ (s.draft u).locks) : LocksOnly new s s' := by
  intro v d' j hv hj
  rw [h] at hv
  rcases Table.get?_put_eq_some_iff.1 hv with ⟨rfl, rfl⟩ | ⟨-, hv⟩
  · refine (he j hj).imp_right fun hj => ?_
    cases hd : s.drafts.get? v with
    | none =>
      rw [Store.draft, hd] at hj
      cases hj
    | some d => exact ⟨d, rfl, by rwa [draft_eq hd] at hj⟩
  · exact .inr ⟨d', hv, hj⟩

theorem lock (s : Store) (u k : Int) : LocksOnly [k] s (s.lock u k) := by
  unfold Store.lock
  dsimp only
  split
  · exact fun _ d' _ hu hk => .inr ⟨d', hu, hk⟩
  · refine put rfl fun j hj => ?_
    rcases List.mem_cons.1 hj with rfl | hj
    · exact .inl (List.mem_singleton.2 rfl)
    · exact .inr hj

theorem openDraft (s : Store) : LocksOnly [] s s.openDraft.2 :=
  put rfl fun _ hj => by cases hj

theorem stageAccount (s : Store) (u : Int) (owner : String) (balance : Int) (currency : Currency) :
    LocksOnly [] s (s.stageAccount u owner balance currency).2 := by
  unfold Store.stageAccount
  dsimp only
  split
  · exact refl s
  · refine put rfl fun _ hj => ?_
    exact .inr hj

theorem stageTransfer (s : Store) (u source target amount : Int) :
    LocksOnly [] s (s.stageTransfer u source target amount).2 := by
  unfold Store.stageTransfer
  split_ifs
  · exact refl s
  · exact refl s
  · exact refl s
  · refine put rfl fun _ hj => ?_
    exact .inr hj

theorem stageEntry (s : Store) (u account amount : Int) :
    LocksOnly [] s (s.stageEntry u account amount).2 := by
  unfold Store.stageEntry
  split
  · exact refl s
  · refine put rfl fun _ hj => ?_
    exact .inr hj

theorem adjust (s : Store) (u k delta : Int) (floor : Bool) : LocksOnly [] s (s.adjust u k delta floor).2 := by
  unfold Store.adjust
  split
  · exact refl s
  split
  · exact refl s
  · refine put rfl fun _ hj => ?_
    exact .inr hj

theorem publish (s : Store) (u : Int) : LocksOnly [] s (s.publish u).2 := by
  unfold Store.publish
  dsimp only
  split
  · exact erase rfl
  · exact erase rfl

theorem discard (s : Store) (u : Int) : LocksOnly [] s (s.discard u) :=
  erase rfl

theorem remove (s : Store) (k : Int) : LocksOnly [] s (s.remove k).2 := by
  unfold Store.remove
  split_ifs <;> exact of_drafts rfl

end Store.LocksOnly

namespace Timed

variable {α β : Type} {P Q : List Int → α → Prop} {held : List Int}

/-- The call locks rows in ascending order, from the rows that it has locked already; it ends as `Q`
says. -/
def Climbs (Q : List Int → α → Prop) : Timed Bank α → List Int → Prop
  | .done a, held => Q held a
  | .act change next, held => ∀ b : Bank, b.store.LocksOnly [] (change b).store ∧ (next b).Climbs Q held
  | .wait _ ready change next late, held =>
    (∀ unit k, ready = Bank.rowFree unit k → ∀ j ∈ held, j < k) ∧
      (∃ new, ∀ b : Bank, b.store.LocksOnly new (change b).store ∧
        ∀ d, (next b d).Climbs Q (new ++ held)) ∧
      ∀ d, (late d).Climbs Q held

theorem Climbs.mono {m : Timed Bank α} (hPQ : ∀ held a, P held a → Q held a) (h : m.Climbs P held) :
    m.Climbs Q held := by
  induction m generalizing held with
  | done a => exact hPQ held a h
  | act change next ih =>
    intro b
    obtain ⟨hlocks, hnext⟩ := h b
    exact ⟨hlocks, ih b hnext⟩
  | wait span ready change next late ihNext ihLate =>
    obtain ⟨horder, ⟨new, hchange⟩, hlate⟩ := h
    refine ⟨horder, ⟨new, fun b => ?_⟩, fun d => ihLate d (hlate d)⟩
    obtain ⟨hlocks, hnext⟩ := hchange b
    exact ⟨hlocks, fun d => ihNext b d (hnext d)⟩

theorem climbs_bind {Q : List Int → β → Prop} {m : Timed Bank α} {f : α → Timed Bank β} :
    (m >>= f).Climbs Q held ↔ m.Climbs (fun held a => (f a).Climbs Q held) held := by
  induction m generalizing held with
  | done a => rfl
  | act change next ih => exact forall_congr' fun b => and_congr_right fun _ => ih b
  | wait span ready change next late ihNext ihLate =>
    refine and_congr_right fun _ => and_congr (exists_congr fun new => forall_congr' fun b =>
      and_congr_right fun _ => forall_congr' fun d => ihNext b d) (forall_congr' fun d => ihLate d)

/-- A limit may leave the call in any of its waits. -/
theorem Climbs.within {m : Timed Bank α} {Q : List Int → Option α → Prop} {limit : Time.Span}
    (hcut : ∀ held, Q held none) (h : m.Climbs (fun held a => Q held (some a)) held) :
    (m.within limit).Climbs Q held := by
  induction m generalizing limit held with
  | done a => exact h
  | act change next ih =>
    intro b
    obtain ⟨hlocks, hnext⟩ := h b
    exact ⟨hlocks, ih b hnext⟩
  | wait span ready change next late ihNext ihLate =>
    obtain ⟨horder, ⟨new, hchange⟩, hlate⟩ := h
    refine ⟨horder, ⟨new, fun b => ?_⟩, fun d => ?_⟩
    · obtain ⟨hlocks, hnext⟩ := hchange b
      exact ⟨hlocks, fun d => ihNext b d (hnext d)⟩
    · show Climbs Q (if span ≤ limit ∧ d ≤ limit then _ else _) held
      split
      · exact ihLate d (hlate d)
      · exact hcut held

end Timed

namespace Attempt

variable {ε δ α β : Type} {held : List Int}

theorem climbs_bind {Q : List Int → Except ε β → Prop} {m : Attempt ε α} {f : α → Attempt ε β} :
    (m >>= f).run.Climbs Q held ↔ m.run.Climbs
      (fun held r => match r with
        | .ok a => (f a).run.Climbs Q held
        | .error e => Q held (.error e)) held := by
  rw [ExceptT.run_bind, Timed.climbs_bind]
  refine ⟨fun h => h.mono ?_, fun h => h.mono ?_⟩ <;>
  · rintro held (e | a) h <;> exact h

theorem climbs_sure {Q : List Int → Except ε α → Prop} {m : Act α} :
    (sure m : Attempt ε α).run.Climbs Q held ↔ m.Climbs (fun held a => Q held (.ok a)) held :=
  Timed.climbs_bind

theorem climbs_sure_bind {Q : List Int → Except ε β → Prop} {m : Act α} {f : α → Attempt ε β} :
    (sure m >>= f).run.Climbs Q held ↔ m.Climbs (fun held a => (f a).run.Climbs Q held) held := by
  rw [climbs_bind, climbs_sure]

theorem climbs_mapError {Q : List Int → Except δ α → Prop} {m : Attempt ε α} {f : ε → δ} :
    (m.mapError f).run.Climbs Q held ↔ m.run.Climbs (fun held r => Q held (r.mapError f)) held :=
  Timed.climbs_bind

end Attempt

namespace Bank

variable {α : Type} {held : List Int} {u k : Int}

/-! ### Single steps -/

theorem climbs_store {Q : List Int → α → Prop} {f : Store → α × Store}
    (hf : ∀ s : Store, s.LocksOnly [] (f s).2) (h : ∀ a, Q held a) : (Act.store f).Climbs Q held :=
  fun b => ⟨hf b.store, h _⟩

theorem climbs_look {Q : List Int → α → Prop} {f : Store → α} (h : ∀ a, Q held a) :
    (Act.look f).Climbs Q held :=
  climbs_store (fun s => .refl s) h

theorem climbs_read {ε : Type} {Q : List Int → Except ε α → Prop} {f : Store → Except ε α}
    (h : ∀ r, Q held r) : (Attempt.look f).run.Climbs Q held :=
  climbs_look h

theorem climbs_note {Q : List Int → Unit → Prop} {e : Event} (h : Q held ()) :
    (Act.note e).Climbs Q held :=
  fun b => ⟨.refl b.store, h⟩

theorem climbs_sleep {Q : List Int → Unit → Prop} {span : Time.Span} (h : Q held ()) :
    (Timed.sleep span : Act Unit).Climbs Q held := by
  refine ⟨fun unit k hk => ?_, ⟨[], fun b => ⟨.refl b.store, fun _ => h⟩⟩, fun _ => h⟩
  exact absurd hk.symm (rowFree_ne_false unit k)

theorem climbs_strike {Q : List Int → Except StoreError Unit → Prop} {p : Point} (h : ∀ r, Q held r) :
    (strike p).run.Climbs Q held := by
  unfold strike
  refine Attempt.climbs_sure_bind.2 (climbs_store (fun s => .of_drafts rfl) fun r => ?_)
  cases r with
  | ok => exact h _
  | error e => exact Attempt.climbs_sure_bind.2 (climbs_note (h _))

theorem climbs_pass {Q : List Int → Except StoreError Unit → Prop} {p : Point} (h : ∀ r, Q held r) :
    (pass p).run.Climbs Q held := by
  unfold pass
  refine Attempt.climbs_sure_bind.2 (climbs_look fun delay => ?_)
  cases delay with
  | none => exact climbs_strike h
  | some span => exact Attempt.climbs_sure_bind.2 (climbs_sleep (climbs_strike h))

theorem climbs_receive {Q : List Int → Except StoreError Unit → Prop} {request : Request}
    {row : Option Int} (h : ∀ r, Q held r) : (receive request row).run.Climbs Q held := by
  unfold receive
  refine Attempt.climbs_sure_bind.2 fun b => ⟨.refl b.store, ?_⟩
  dsimp only [Timed.Climbs]
  cases b.refusal? request row with
  | none => exact h _
  | some e => exact h _

theorem climbs_onceFree {Q : List Int → Except StoreError α → Prop} {unit : Option Int}
    {f : Store → Except StoreError α × Store} (new : List Int) (hk : ∀ j ∈ held, j < k)
    (hf : ∀ s : Store, s.LocksOnly new (f s).2) (h : ∀ r, Q (new ++ held) r) (hlate : ∀ e, Q held (.error e)) :
    (onceFree unit k f).run.Climbs Q held := by
  unfold onceFree
  refine Attempt.climbs_sure_bind.2 (climbs_look fun patience => ?_)
  refine ⟨fun unit' k' hk' => ?_, ⟨new, fun b => ⟨hf b.store, fun d => h _⟩⟩, fun d => hlate _⟩
  obtain rfl : k = k' := rowFree_inj hk'
  exact hk

/-! ### Steps of a unit of work -/

theorem climbs_staging {Q : List Int → Except StoreError α → Prop} {p : Point}
    {f : Store → Except StoreError α × Store} (hf : ∀ s : Store, s.LocksOnly [] (f s).2) (h : ∀ r, Q held r) :
    (do pass p; Attempt.store f : Attempt StoreError α).run.Climbs Q held := by
  refine Attempt.climbs_bind.2 (climbs_pass fun r => ?_)
  cases r with
  | ok => exact climbs_store hf h
  | error e => exact h _

/-- A row is locked for an adjustment; it must be above all rows that have been locked. -/
theorem climbs_adjustIn {Q : List Int → Except StoreError Account → Prop} {delta : Int} {floor : Bool}
    (hk : ∀ j ∈ held, j < k) (h : ∀ r, Q (k :: held) r) (hfail : ∀ e, Q held (.error e)) :
    (adjustIn u k delta floor).run.Climbs Q held := by
  unfold adjustIn
  refine Attempt.climbs_bind.2 (climbs_pass fun r => ?_)
  cases r with
  | error e => exact hfail e
  | ok =>
    refine Attempt.climbs_bind.2 (climbs_onceFree [k] hk (fun s => .lock s u k) (fun r => ?_) hfail)
    cases r with
    | error e => exact h _
    | ok => exact climbs_store (fun s => .adjust s u k delta floor) h

/-! ### Opening and ending -/

theorem climbs_beginUnit {Q : List Int → Except StoreError Int → Prop} (h : ∀ r, Q held r) :
    beginUnit.run.Climbs Q held := by
  unfold beginUnit openUnit
  refine Attempt.climbs_bind.2 (climbs_receive fun r => ?_)
  cases r with
  | error e => exact h _
  | ok =>
    refine Attempt.climbs_bind.2 (climbs_pass fun r => ?_)
    cases r with
    | error e => exact h _
    | ok => exact Attempt.climbs_sure.2 (climbs_store Store.LocksOnly.openDraft fun _ => h _)

theorem climbs_commit {Q : List Int → Except StoreError Unit → Prop} (h : ∀ r, Q held r) :
    (commit u).run.Climbs Q held := by
  unfold commit
  refine Attempt.climbs_sure_bind.2 (climbs_pass fun r => ?_)
  cases r with
  | ok => exact climbs_store (fun s => .publish s u) h
  | error e => exact Attempt.climbs_sure_bind.2 (climbs_store (fun s => .discard s u) fun _ => h _)

theorem climbs_rollback {Q : List Int → Except StoreError Unit → Prop} (h : ∀ r, Q held r) :
    (rollback u).run.Climbs Q held := by
  unfold rollback
  refine Attempt.climbs_sure_bind.2 (climbs_pass fun r => ?_)
  refine Attempt.climbs_sure_bind.2 (climbs_store (fun s => .discard s u) fun _ => ?_)
  cases r with
  | ok => exact h _
  | error e => exact h _

/-! ### Requests outside units of work -/

theorem climbs_account {Q : List Int → Except StoreError Account → Prop} {id : Int} (h : ∀ r, Q held r) :
    (account id).run.Climbs Q held := by
  unfold account
  refine Attempt.climbs_bind.2 (climbs_receive fun r => ?_)
  cases r with
  | error e => exact h _
  | ok => exact climbs_read h

theorem climbs_undoOpening {Q : List Int → Except StoreError Account → Prop} {e : StoreError} (h : ∀ r, Q held r) :
    (undoOpening u e).run.Climbs Q held := by
  unfold undoOpening
  refine Attempt.climbs_sure_bind.2 (climbs_rollback fun r => ?_)
  cases r with
  | ok => exact h _
  | error f => exact Attempt.climbs_sure_bind.2 (climbs_note (h _))

theorem climbs_createAccount {owner : String} {balance : Int} {currency : Currency}
    {Q : List Int → Except StoreError Account → Prop} (h : ∀ r, Q held r) :
    (createAccount owner balance currency).run.Climbs Q held := by
  unfold createAccount
  refine Attempt.climbs_bind.2 (climbs_beginUnit fun r => ?_)
  cases r with
  | error e => exact h _
  | ok u =>
    refine Attempt.climbs_sure_bind.2 (climbs_staging (fun s => .stageAccount s u _ _ _) fun r => ?_)
    cases r with
    | ok a =>
      refine Attempt.climbs_bind.2 (climbs_commit fun r => ?_)
      cases r <;> exact h _
    | error e => exact climbs_undoOpening h

/-- The removal of an account waits for its row, but it does not keep it locked. -/
theorem climbs_deleteAccount {Q : List Int → Except StoreError Unit → Prop} {id : Int}
    (h : ∀ r, Q [] r) : (deleteAccount id).run.Climbs Q [] := by
  unfold deleteAccount
  refine Attempt.climbs_bind.2 (climbs_receive fun r => ?_)
  cases r with
  | error e => exact h _
  | ok =>
    exact climbs_onceFree [] (fun j hj => by cases hj) (fun s => .remove s id) h fun e => h _

/-! ### Work -/

/-- Work is executed in ascending order if it is done so. -/
theorem climbs_execute {work : Work α} {deadline : Option Time.Span} {Q : List Int → Except WorkError α → Prop}
    (hwork : ∀ u, (work.run u).run.Climbs (fun _ _ => True) held) (h : ∀ held r, Q held r) :
    (work.execute deadline).run.Climbs Q held := by
  have houtcome : ∀ u, (work.outcome deadline u).Climbs (fun _ _ => True) held := by
    intro u
    unfold Work.outcome
    cases deadline with
    | none => exact Timed.climbs_bind.2 ((hwork u).mono fun _ _ _ => trivial)
    | some limit =>
      refine Timed.climbs_bind.2 (Timed.Climbs.within (fun _ => trivial) ((hwork u).mono fun _ _ _ => ?_))
      exact trivial
  unfold Work.execute
  refine Attempt.climbs_bind.2 (Attempt.climbs_mapError.2 (climbs_beginUnit fun r => ?_))
  cases r with
  | error e => exact h _ _
  | ok u =>
    refine Attempt.climbs_sure_bind.2 ((houtcome u).mono fun held r _ => ?_)
    cases r with
    | ok a =>
      refine Attempt.climbs_bind.2 (Attempt.climbs_mapError.2 (climbs_commit fun r => ?_))
      cases r <;> exact h _ _
    | error cause =>
      refine Attempt.climbs_sure_bind.2 (climbs_note (Attempt.climbs_sure_bind.2 (climbs_rollback fun r => ?_)))
      cases r with
      | ok => exact h _ _
      | error e => exact Attempt.climbs_sure_bind.2 (climbs_note (h _ _))

end Bank

end Teller
