import Mathlib.Order.WellFoundedSet
import Teller.Proofs.Bank.Climb
import Teller.Proofs.Ledger.Atomic

/-!
# No deadlock

A call that waits for a locked row waits for the call that holds it (`Traffic.WaitsFor`). Every call
locks rows in ascending order (`Call.climbs`), so the rows that are waited for go up along any chain of
waiting calls, and no chain comes back to its start. The end of a chain can go on.
-/

namespace Teller

/-- The call waits for a row that somebody else has locked. -/
def Traffic.Awaits {κ α : Type} (w : Traffic κ α) (n k : Int) : Prop :=
  ∃ f span unit change next late, w.flights.get? n = some f ∧
    f.rest = .wait span (Bank.rowFree unit k) change next late ∧ ¬ w.bank.store.Free unit k

/-- The call waits for a row that the other has locked. -/
def Traffic.WaitsFor {κ α : Type} (w : Traffic κ α) (n m : Int) : Prop :=
  ∃ k u f, w.Awaits n k ∧ w.bank.store.holder? k = some u ∧ w.flights.get? m = some f ∧ u ∈ f.units

/-- The call has come in and is not over. -/
def Traffic.UnderWay {κ α : Type} (w : Traffic κ α) (n : Int) : Prop :=
  (∃ f, w.flights.get? n = some f) ∧ w.reply? n = none

/-- What a call has locked in its units of work is counted, and the rest of it goes on from there. -/
def Flight.Climbs {κ α : Type} (f : Flight κ α) (s : Store) : Prop :=
  ∃ held, f.rest.Climbs (fun _ _ => True) held ∧
    ∀ u ∈ f.units, ∀ d, s.drafts.get? u = some d → ∀ k ∈ d.locks, k ∈ held

/-! ### Calls -/

namespace Call

open Bank

variable {held : List Int}

theorem climbs_work (o : Order) (hne : o.source ≠ o.target) (overdraft : Bool) (u : Int) :
    ((o.work overdraft).run u).run.Climbs (fun _ _ => True) [] := by
  have hlt : o.adjustments.1.account < o.adjustments.2.account := by
    unfold Order.adjustments
    split
    · assumption
    · show o.target < o.source
      omega
  rw [Order.run_work]
  refine Attempt.climbs_bind.2 (climbs_staging (fun s => .stageTransfer s u _ _ _) fun r => ?_)
  cases r with
  | error e => trivial
  | ok t =>
  refine Attempt.climbs_bind.2 (climbs_staging (fun s => .stageEntry s u _ _) fun r => ?_)
  cases r with
  | error e => trivial
  | ok e =>
  refine Attempt.climbs_bind.2 (climbs_staging (fun s => .stageEntry s u _ _) fun r => ?_)
  cases r with
  | error e => trivial
  | ok e' =>
  refine Attempt.climbs_bind.2 (climbs_adjustIn (fun j hj => by cases hj) (fun r => ?_) fun _ => trivial)
  cases r with
  | error e => trivial
  | ok x =>
  have habove : ∀ j ∈ [o.adjustments.1.account], j < o.adjustments.2.account := by
    intro j hj
    rw [List.mem_singleton.1 hj]
    exact hlt
  refine Attempt.climbs_bind.2 (climbs_adjustIn habove (fun r => ?_) fun _ => trivial)
  cases r <;> trivial

theorem climbs_transfer (o : Order) (terms : Terms) {Q : List Int → Except TransferError Receipt → Prop}
    (h : ∀ held r, Q held r) : (o.execute terms).run.Climbs Q [] := by
  rcases hproper : o.improper? with _ | e
  swap
  · have hdone := Order.execute_of_improper hproper terms
    unfold Attempt.outcome at hdone
    rw [hdone]
    exact h _ _
  obtain ⟨-, hne⟩ := Order.improper?_eq_none_iff.1 hproper
  rw [Order.execute_of_proper hproper]
  refine Attempt.climbs_bind.2 (Attempt.climbs_mapError.2 (climbs_execute (climbs_work o hne _) fun held r => ?_))
  cases r with
  | error e => exact h _ _
  | ok receipt => exact Attempt.climbs_sure_bind.2 (climbs_note (h _ _))

theorem climbs_check {r : TransferRequest} {Q : List Int → Except TransferError Order → Prop}
    (h : ∀ x, Q held x) : r.check.run.Climbs Q held := by
  have haccount : ∀ {c : Currency} {id : Int} {Q : List Int → Except TransferError Account → Prop},
      (∀ x, Q held x) → (TransferRequest.accountIn c id).run.Climbs Q held := by
    intro c id Q hQ
    unfold TransferRequest.accountIn
    refine Attempt.climbs_bind.2 (Attempt.climbs_mapError.2 (climbs_account fun x => ?_))
    cases x with
    | error e => exact hQ _
    | ok a =>
      show Timed.Climbs Q (ExceptT.run (if a.currency ≠ c then _ else _)) held
      split <;> exact hQ _
  unfold TransferRequest.check
  dsimp only
  by_cases ho : r.amount ≤ 0
  · rw [if_pos ho]; exact h _
  rw [if_neg ho]
  cases Currency.ofCode? r.currency with
  | none => exact h _
  | some c =>
    show Timed.Climbs Q (ExceptT.run (if r.source = r.target then _ else _)) held
    split
    · exact h _
    refine Attempt.climbs_bind.2 (haccount fun x => ?_)
    cases x with
    | error e => exact h _
    | ok a =>
      show Timed.Climbs Q (ExceptT.run (if a.owner ≠ r.principal then _ else _)) held
      split
      · exact h _
      refine Attempt.climbs_bind.2 (haccount fun x => ?_)
      cases x <;> exact h _

theorem climbs_submit (r : TransferRequest) (terms : Terms) :
    (r.submit terms).run.Climbs (fun _ _ => True) [] := by
  unfold TransferRequest.submit
  refine Attempt.climbs_bind.2 (climbs_check fun x => ?_)
  cases x with
  | error e => trivial
  | ok o =>
    refine Attempt.climbs_sure_bind.2 (climbs_transfer o terms fun held x => ?_)
    cases x with
    | ok receipt => trivial
    | error e => exact Attempt.climbs_sure_bind.2 (climbs_note trivial)

theorem climbs_openAccount (owner currency : String) :
    (Holder.openAccount owner currency).run.Climbs (fun _ _ => True) [] := by
  unfold Holder.openAccount
  dsimp only
  split
  · trivial
  cases Currency.ofCode? currency with
  | none => trivial
  | some c =>
    dsimp only
    rw [pure_bind]
    refine Attempt.climbs_bind.2 (Attempt.climbs_mapError.2 (climbs_createAccount fun r => ?_))
    cases r with
    | error e => trivial
    | ok a => exact Attempt.climbs_sure_bind.2 (climbs_note trivial)

theorem climbs_closeAccount (owner : String) (id : Int) :
    (Holder.deleteAccount owner id).run.Climbs (fun _ _ => True) [] := by
  unfold Holder.deleteAccount Holder.account
  refine Attempt.climbs_bind.2 (Attempt.climbs_bind.2 (Attempt.climbs_mapError.2 (climbs_account fun r => ?_)))
  cases r with
  | error e => trivial
  | ok a =>
    show Timed.Climbs _ (ExceptT.run (if a.owner ≠ owner then _ else _)) _
    split
    · trivial
    refine Attempt.climbs_bind.2 (Attempt.climbs_mapError.2 (climbs_deleteAccount fun r => ?_))
    cases r with
    | error e => trivial
    | ok => exact Attempt.climbs_sure.2 (climbs_note trivial)

section

-- what an account is opened for is not looked at any more
attribute [local irreducible] Holder.openAccount

theorem climbs (c : Call) : c.act.Climbs (fun _ _ => True) [] := by
  have hreply : ∀ {ε α : Type} {m : Attempt ε α} {f : Except ε α → Reply},
      m.run.Climbs (fun _ _ => True) [] → (m.outcome >>= fun r => pure (f r)).Climbs (fun _ _ => True) [] :=
    fun h => Timed.climbs_bind.2 (h.mono fun _ _ _ => trivial)
  cases c with
  | transfer o terms => exact hreply (climbs_transfer o terms fun _ _ => trivial)
  | submit r terms => exact hreply (climbs_submit r terms)
  | createAccount owner balance currency => exact hreply (climbs_createAccount fun _ => trivial)
  | openAccount owner currency => exact hreply (climbs_openAccount owner currency)
  | deleteAccount id => exact hreply (climbs_deleteAccount fun _ => trivial)
  | closeAccount owner id => exact hreply (climbs_closeAccount owner id)

end

end Call

/-! ### Runs -/

theorem Timed.Climbs.step {α : Type} {Q : List Int → α → Prop} {held : List Int} {m m' : Timed Bank α}
    {b b' : Bank} (h : m.Climbs Q held) (hs : Timed.Step m b m' b') :
    ∃ new, b.store.LocksOnly new b'.store ∧ m'.Climbs Q (new ++ held) := by
  cases hs with
  | act => exact ⟨[], h b⟩
  | ready _ d =>
    obtain ⟨-, ⟨new, hchange⟩, -⟩ := h
    obtain ⟨hlocks, hnext⟩ := hchange b
    exact ⟨new, hlocks, hnext d⟩
  | late d => exact ⟨[], .refl b.store, h.2.2 d⟩

variable {b : Bank} {h : List (Happening Call)} {e : Happening Call} {w w' : Traffic Call Reply}
  {stage stage' : Int → Stage Verdict} {n m k u j : Int} {f : Flight Call Reply} {d : Draft}

theorem Flight.Climbs.of_drafts {s s' : Store} (hf : f.Climbs s)
    (hs : ∀ u ∈ f.units, ∀ d, s'.drafts.get? u = some d → s.drafts.get? u = some d) : f.Climbs s' := by
  obtain ⟨held, hrest, hlocks⟩ := hf
  exact ⟨held, hrest, fun u hu d hd => hlocks u hu d (hs u hu d hd)⟩

namespace Traffic

theorem Step.climbs (hw : Call.protocol.Orderly stage w) (hs : Step Call.act w e w')
    (hadv : Call.protocol.Advance stage e stage')
    (hc : ∀ n f, w.flights.get? n = some f → f.Climbs w.bank.store) :
    ∀ n f, w'.flights.get? n = some f → f.Climbs w'.bank.store := by
  intro n f' hf'
  cases hs with
  | arrival c =>
    rcases Table.get?_put_eq_some_iff.1 hf' with ⟨rfl, rfl⟩ | ⟨-, hf'⟩
    · exact ⟨[], Call.climbs c, fun u hu => by cases hu⟩
    · exact hc n f' hf'
  | @move k f m b hf hm =>
    rcases Table.get?_put_eq_some_iff.1 hf' with ⟨rfl, rfl⟩ | ⟨hnk, hf'⟩
    · obtain ⟨held, hrest, hlocks⟩ := hc n f hf
      obtain ⟨new, hnew, hrest'⟩ := hrest.step hm
      refine ⟨new ++ held, hrest', fun u hu d hd j hj => List.mem_append.2 ?_⟩
      refine (hnew u d j hd hj).imp_right fun ⟨d₀, hd₀, hj₀⟩ => ?_
      rcases List.mem_append.1 hu with hu | hu
      · exact hlocks u hu d₀ hd₀ j hj₀
      · -- a unit that has just been opened was not there before
        have hlt := Store.Sound.number hw.inv hd₀
        have hle := (Store.mem_opened.1 hu).1
        omega
    · -- the others' units of work are as they left them
      refine (hc n f' hf').of_drafts fun u hu d hd => ?_
      have hne : (stage k).unit ≠ some u := fun hku => hw.apart hnk hf' hf hu (hw.unit hf hku)
      rw [← (hadv.2.move.untouched hw.inv hne (hw.number hf' hu)).draft]
      exact hd
  | @departure k f hf hwait =>
    obtain ⟨-, hf'⟩ := Table.get?_erase_eq_some_iff.1 hf'
    refine (hc n f' hf').of_drafts fun u hu d hd => ?_
    have hget := Store.discardAll_get? f.units w.bank.store u
    split at hget
    · rw [hget] at hd
      cases hd
    · rw [← hget]
      exact hd
  | change => exact (hc n f' hf').of_drafts fun u hu d hd => hd

theorem Run.climbs (hb : b.store.Sound) (hr : Run Call.act b h w) :
    ∀ n f, w.flights.get? n = some f → f.Climbs w.bank.store := by
  induction hr with
  | start => exact fun n f hf => by cases hf
  | step hr hs ih =>
    obtain ⟨stage, hw, -⟩ := hr.recorded Call.kept hb
    obtain ⟨stage', -, hadv⟩ := hw.step Call.kept hs
    exact hs.climbs hw hadv ih

/-! ### Waiting for each other -/

/-- The row that a call waits for is above all rows that it has locked. -/
theorem Run.lt_awaited (hb : b.store.Sound) (hr : Run Call.act b h w) (ha : w.Awaits n k)
    (hf : w.flights.get? n = some f) (hu : u ∈ f.units) (hd : w.bank.store.drafts.get? u = some d)
    (hj : j ∈ d.locks) : j < k := by
  obtain ⟨held, hrest, hlocks⟩ := hr.climbs hb n f hf
  obtain ⟨f', span, unit, change, next, late, hf', hwait, -⟩ := ha
  obtain rfl : f = f' := Option.some.inj (hf.symm.trans hf')
  rw [hwait] at hrest
  exact hrest.1 unit k rfl j (hlocks u hu d hd j hj)

/-- Along a chain of waiting calls, the rows that are waited for go up. -/
theorem Run.awaited_lt (hb : b.store.Sound) (hr : Run Call.act b h w)
    (hn : Relation.TransGen w.WaitsFor n m) : ∃ k, w.Awaits n k ∧ ∀ k', w.Awaits m k' → k < k' := by
  have hedge : ∀ {m k u f}, w.bank.store.holder? k = some u → w.flights.get? m = some f → u ∈ f.units →
      ∀ k', w.Awaits m k' → k < k' := by
    intro m k u f hk hf hu k' ha
    obtain ⟨d, hd, hkd⟩ := Store.of_holder?_eq_some hk
    exact hr.lt_awaited hb ha hf hu hd hkd
  induction hn with
  | single hw =>
    obtain ⟨k, u, f, ha, hk, hf, hu⟩ := hw
    exact ⟨k, ha, hedge hk hf hu⟩
  | tail _ hw ih =>
    obtain ⟨k, ha, hlt⟩ := ih
    obtain ⟨k₁, u, f, ha₁, hk, hf, hu⟩ := hw
    exact ⟨k, ha, fun k' ha' => Int.lt_trans (hlt k₁ ha₁) (hedge hk hf hu k' ha')⟩

theorem Run.acyclic (hb : b.store.Sound) (hr : Run Call.act b h w) :
    ¬ Relation.TransGen w.WaitsFor n n := by
  intro hn
  obtain ⟨k, ha, hlt⟩ := hr.awaited_lt hb hn
  exact Int.lt_irrefl k (hlt k ha)

/-- The row that a call waits for is locked by a call that is under way. -/
theorem Run.waitsFor (hb : b.store.Sound) (hopen : b.store.drafts = .empty) (hr : Run Call.act b h w)
    (ha : w.Awaits n k) : ∃ m, w.WaitsFor n m ∧ w.UnderWay m := by
  obtain ⟨-, -, unit, -, -, -, -, -, hfree⟩ := id ha
  cases hk : w.bank.store.holder? k with
  | none => exact absurd (.inl hk) hfree
  | some u =>
    rcases hr.holder hb hk with hold | ⟨m, f, hf, hu, hreply⟩
    · rw [hopen] at hold
      exact absurd rfl hold
    · exact ⟨m, ⟨k, u, f, ha, hk, hf, hu⟩, ⟨f, hf⟩, hreply⟩

theorem finite_underWay (w : Traffic Call Reply) : {n | w.UnderWay n}.Finite := by
  refine (w.flights.rows.map (·.1)).toFinset.finite_toSet.subset fun n hn => ?_
  obtain ⟨⟨f, hf⟩, -⟩ := hn
  have hmem := w.flights.mem_rows_iff.2 hf
  simp only [List.coe_toFinset, Set.mem_ofPred_eq, List.mem_map]
  exact ⟨(n, f), hmem, rfl⟩

end Traffic

/-- No calls wait for each other in a circle. If no units of work but theirs are open and some call is
under way, then one of these calls does not wait for a row. -/
theorem no_deadlock (hb : b.store.Reachable) (hr : Traffic.Run Call.act b h w) :
    (∀ n, ¬ Relation.TransGen w.WaitsFor n n) ∧
      (b.store.drafts = .empty → (∃ n, w.UnderWay n) → ∃ n, w.UnderWay n ∧ ∀ k, ¬ w.Awaits n k) := by
  have hacyclic : ∀ n, ¬ Relation.TransGen w.WaitsFor n n := fun n => hr.acyclic hb.sound
  refine ⟨hacyclic, fun hopen ⟨n, hn⟩ => ?_⟩
  -- among finitely many calls, a chain of waiting calls has an end
  have horder : IsStrictOrder Int fun m n => Relation.TransGen w.WaitsFor n m :=
    { irrefl := hacyclic, trans := fun _ _ _ h₁ h₂ => h₂.trans h₁ }
  have hwf := w.finite_underWay.wellFoundedOn (r := fun m n => Relation.TransGen w.WaitsFor n m)
  obtain ⟨⟨m, hm⟩, -, hmin⟩ := hwf.has_min Set.univ ⟨⟨n, hn⟩, trivial⟩
  refine ⟨m, hm, fun k ha => ?_⟩
  obtain ⟨m', hwait, hm'⟩ := hr.waitsFor hb.sound hopen ha
  exact hmin ⟨m', hm'⟩ trivial (.single hwait)

/-- Of two transfers in opposite directions, one waits for the row that the other has locked first, and
the other can go on. -/
theorem opposite_transfers : ∃ h w, Traffic.Run Call.act ⟨.pair .none, [], []⟩ h w ∧ w.Awaits 1 1 ∧
    ¬ Relation.TransGen w.WaitsFor 1 1 ∧ ∃ n, w.UnderWay n ∧ ∀ k, ¬ w.Awaits n k := by
  have hr : Traffic.Run Call.act ⟨.pair .none, [], []⟩ [] (.quiet _) := .start
  have hr₁ := (hr.step (.arrival (.transfer ⟨1, 2, 30⟩ ⟨false, none⟩))).step
    (.arrival (.transfer ⟨2, 1, 50⟩ ⟨false, none⟩))
  -- the first has locked its row after 17 steps, the second comes to its wait after 16
  obtain ⟨h₂, w₂, f₂, hr₂, -, hb₂, -, -, -, hothers⟩ :=
    hr₁.path (f := ⟨_, (Call.transfer ⟨1, 2, 30⟩ ⟨false, none⟩).act, []⟩) (n := 0) rfl (Timed.path_ahead 17 _ _)
  obtain ⟨h₃, w₃, ⟨c, m, units⟩, hr₃, -, hb₃, hf₃, -, hm, -⟩ := hr₂.path
    (f := ⟨_, (Call.transfer ⟨2, 1, 50⟩ ⟨false, none⟩).act, []⟩) (hothers 1 (by decide)) (Timed.path_ahead 16 _ _)
  rw [hb₂] at hb₃ hm
  obtain ⟨span, change, next, late, rfl⟩ : ∃ span change next late,
      m = .wait span (Bank.rowFree (some 4) 1) change next late := ⟨_, _, _, _, hm.trans rfl⟩
  have hlocked : w₃.bank.store.holder? 1 = some 3 := by
    rw [hb₃]
    rfl
  have ha : w₃.Awaits 1 1 := by
    refine ⟨_, _, _, _, _, _, hf₃, rfl, ?_⟩
    rintro (hfree | hfree) <;>
    · rw [hlocked] at hfree
      cases hfree
  have hn : w₃.UnderWay 1 := ⟨⟨_, hf₃⟩, by rw [Traffic.reply?, hf₃]⟩
  have h := no_deadlock (b := ⟨.pair .none, [], []⟩) (Store.reachable_pair .none) hr₃
  exact ⟨h₃, w₃, hr₃, ha, h.1 1, h.2 rfl ⟨1, hn⟩⟩

end Teller
