import Teller.Proofs.Store.Move

/-!
# Row locks across a step

A unit of work keeps the rows that it has locked until it ends, and the step that ends it frees them. If its rows are
published, then by that very step (`Store.Passes`).
-/

namespace Teller.Store

/-- The unit of work is open and has the account's row locked. -/
def Locked (s : Store) (u k : Int) : Prop :=
  ∃ d, s.drafts.get? u = some d ∧ k ∈ d.locks

/-- What becomes of locks from one store to the next. -/
structure Passes (s s' : Store) : Prop where
  kept : ∀ {u k}, s.Locked u k → s'.drafts.get? u ≠ none → s'.Locked u k
  freed : ∀ {u k}, s.Locked u k → s'.drafts.get? u = none → ∀ v, s'.Free v k
  /-- The book changes when a unit of work publishes its rows and ends, or when an account goes that nobody has
  locked. -/
  book : s'.book = s.book ∨
    (∃ u d, s.drafts.get? u = some d ∧ s'.drafts = s.drafts.erase u ∧ s'.book = d.publish s.book) ∨
    ∃ k, s.Free none k ∧ s'.book = { s.book with accounts := s.book.accounts.erase k }

variable {w : Option Int} {u v k j : Int} {d e : Draft} {s s' : Store}

namespace Locked

theorem of_drafts (h : s.Locked u k) (hdrafts : s'.drafts = s.drafts) : s'.Locked u k := by
  unfold Locked
  rw [hdrafts]
  exact h

theorem put (h : s.Locked v j) (hu : s.drafts.get? u = some d) (hdrafts : s'.drafts = s.drafts.put u e)
    (hsub : ∀ k ∈ d.locks, k ∈ e.locks) : s'.Locked v j := by
  obtain ⟨f, hv, hj⟩ := h
  by_cases hvu : v = u
  · subst hvu
    obtain rfl : d = f := Option.some.inj (hu.symm.trans hv)
    exact ⟨e, by rw [hdrafts, Table.get?_put_self], hsub j hj⟩
  · exact ⟨f, by rw [hdrafts, Table.get?_put_of_ne hvu, hv], hj⟩

theorem erase (h : s.Locked v j) (hdrafts : s'.drafts = s.drafts.erase u) (hv : s'.drafts.get? v ≠ none) :
    s'.Locked v j := by
  obtain ⟨f, hf, hj⟩ := h
  have hvu : v ≠ u := by
    rintro rfl
    rw [hdrafts, Table.get?_erase_self] at hv
    exact hv rfl
  exact ⟨f, by rw [hdrafts, Table.get?_erase_of_ne hvu, hf], hj⟩

end Locked

namespace Sound

theorem locked_unique (h : s.Sound) (hu : s.Locked u k) (hv : s.Locked v k) : u = v := by
  obtain ⟨d, hu, hk⟩ := hu
  obtain ⟨e, hv, hk'⟩ := hv
  by_contra huv
  exact (h.apart huv hu hv).locks hk hk'

theorem holder?_eq_some_iff (h : s.Sound) : s.holder? k = some u ↔ s.Locked u k := by
  refine ⟨of_holder?_eq_some, fun hu => ?_⟩
  cases hk : s.holder? k with
  | none =>
    obtain ⟨d, hd, hmem⟩ := hu
    exact absurd hmem (holder?_eq_none_iff.1 hk u d hd)
  | some v => rw [h.locked_unique (of_holder?_eq_some hk) hu]

/-- If units of work end and others stay as they are, then the rows of those that end are free. -/
theorem freed (h : s.Sound) (hu : s.Locked u k) (hnone : s'.drafts.get? u = none)
    (hsub : ∀ {v d}, s'.drafts.get? v = some d → s.drafts.get? v = some d) (o : Option Int) : s'.Free o k := by
  refine .inl (holder?_eq_none_iff.2 fun v d hv hk => ?_)
  obtain rfl := h.locked_unique hu ⟨d, hsub hv, hk⟩
  rw [hnone] at hv
  cases hv

end Sound

namespace Move

/-- A row is locked only on behalf of the unit of work that takes the step. -/
theorem locked (h : Move w s s') (hs : s.Sound) (hu : s'.Locked u k) : s.Locked u k ∨ w = some u := by
  refine or_iff_not_imp_right.2 fun hw => ?_
  obtain ⟨d, hd, hk⟩ := hu
  rcases h.opened (v := u) (by rw [hd]; exact Option.some_ne_none d) with hopen | ⟨rfl, rfl⟩
  · obtain ⟨e, he⟩ := Option.ne_none_iff_exists'.1 hopen
    rw [(h.untouched hs hw (hs.number he)).draft] at hd
    exact ⟨d, hd, hk⟩
  · obtain rfl : Draft.empty = d := Option.some.inj ((Table.get?_put_self _ _ _).symm.trans hd)
    cases hk

theorem kept (h : Move w s s') (hs : s.Sound) (hl : s.Locked v j) (hv : s'.drafts.get? v ≠ none) : s'.Locked v j := by
  cases h with
  | setting faults now => exact hl
  | openDraft =>
    obtain ⟨d, hd, hj⟩ := hl
    have hlt := hs.number hd
    exact ⟨d, (Table.get?_put_of_ne (by omega) _).trans hd, hj⟩
  | lock hu hk =>
    rcases lock_cases hu _ with ⟨-, heq⟩ | ⟨-, heq⟩ <;> rw [heq]
    · exact hl
    · exact hl.put hu rfl fun _ => List.mem_cons_of_mem _
  | stageAccount hu owner balance currency =>
    rcases stageAccount_cases hu owner balance currency with ⟨e, heq⟩ | ⟨a, -, -, -, -, -, heq⟩ <;> rw [heq]
    · exact hl
    · exact hl.put hu rfl fun _ hk => hk
  | stageTransfer hu source target amount =>
    rcases stageTransfer_cases hu source target amount with ⟨e, heq⟩ | ⟨-, -, -, t, -, -, -, -, heq⟩ <;> rw [heq]
    · exact hl
    · exact hl.put hu rfl fun _ hk => hk
  | stageEntry hu account amount =>
    rcases stageEntry_cases hu account amount with ⟨e, heq⟩ | ⟨-, e, -, -, -, heq⟩ <;> rw [heq]
    · exact hl
    · exact hl.put hu rfl fun _ hk => hk
  | adjust hu hk delta floor =>
    rcases adjust_cases hu _ delta floor with ⟨e, heq⟩ | ⟨a, b, -, -, heq⟩ <;> rw [heq]
    · exact hl
    · exact hl.put hu rfl fun _ hk => hk
  | publish hu =>
    rcases publish_cases hu with ⟨e, heq⟩ | ⟨-, heq⟩ <;> rw [heq] at hv ⊢
    · exact hl.erase rfl hv
    · exact hl.erase rfl hv
  | discard u => exact hl.erase rfl hv
  | remove hk =>
    rcases remove_cases s _ with ⟨e, heq⟩ | ⟨-, -, heq⟩ <;> rw [heq]
    · exact hl
    · exact hl.of_drafts rfl

/-- A step that ends a unit of work leaves the others as they are. -/
theorem ended (h : Move w s s') (hs : s.Sound) (hu : s.drafts.get? u = some d) (hnone : s'.drafts.get? u = none) :
    s'.drafts = s.drafts.erase u := by
  have hopen {t : Store} (heq : t.drafts.get? u = some d) (hnone : t.drafts.get? u = none) : False := by
    rw [heq] at hnone
    cases hnone
  cases h.change with
  | rest _ hdrafts => exact (hopen (hdrafts ▸ hu) hnone).elim
  | opens =>
    have hlt := hs.number hu
    exact (hopen ((Table.get?_put_of_ne (by omega) _).trans hu) hnone).elim
  | @stages v e f _ hv _ hdrafts =>
    rw [hdrafts, Table.get?_put] at hnone
    split at hnone
    · cases hnone
    · exact (hopen hu hnone).elim
  | discards v =>
    by_cases huv : u = v
    · rw [huv]
      rfl
    · exact (hopen ((Table.get?_erase_of_ne huv).trans hu) hnone).elim
  | @publishes v e hv =>
    by_cases huv : u = v
    · rw [huv]
      rfl
    · exact (hopen ((Table.get?_erase_of_ne huv).trans hu) hnone).elim
  | removes hk => exact (hopen hu hnone).elim

theorem passes (h : Move w s s') (hs : s.Sound) : s.Passes s' where
  kept := h.kept hs
  freed hl hnone := by
    obtain ⟨d, hd, -⟩ := id hl
    have hdrafts := h.ended hs hd hnone
    exact hs.freed hl hnone fun hv => by
      rw [hdrafts] at hv
      exact (Table.get?_erase_eq_some_iff.1 hv).2
  book := by
    cases h.change with
    | rest hbook => exact .inl hbook
    | opens => exact .inl rfl
    | stages _ hbook => exact .inl hbook
    | discards u => exact .inl rfl
    | publishes hu => exact .inr (.inl ⟨_, _, hu, rfl, rfl⟩)
    | removes hk => exact .inr (.inr ⟨_, hk, rfl⟩)

end Move

end Teller.Store
