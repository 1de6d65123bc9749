import Teller.Proofs.Ledger.Dangling

/-!
# Rows refer to accounts that have been there

A unit of work sees the accounts that a row refers to when it stages the row. So no row, staged or committed, refers
to a number that no account has had (`Store.Backed`), whatever becomes of the accounts later on.
-/

namespace Teller.Store

/-- No row refers to a number that no account has had. -/
structure Backed (s : Store) : Prop where
  staged : ∀ {u d} {r : Reference} {k}, s.drafts.get? u = some d → r.Staged d → r.To k → ¬ s.Unused k
  committed : ∀ {r : Reference} {k}, r.Committed s.book → r.To k → ¬ s.Unused k

variable {w : Option Int} {s s' : Store} {u k : Int} {d e : Draft}

theorem Reachable.not_unused (h : s.Reachable) (hu : s.drafts.get? u = some d) (hk : s.seen? u k ≠ none) :
    ¬ s.Unused k := by
  intro hunused
  obtain ⟨hbook, hdrafts⟩ := hunused s h .refl
  rw [seen?_eq hu] at hk
  exact hk (Option.or_eq_none_iff.2 ⟨hdrafts u d hu, hbook⟩)

namespace Backed

/-- The book stays as it is. -/
theorem of_drafts (h : s.Backed) (hm : Move w s s') (hbook : s'.book = s.book)
    (hdrafts : ∀ {v f} {r : Reference} {j}, s'.drafts.get? v = some f → r.Staged f → r.To j → ¬ s.Unused j) :
    s'.Backed where
  staged hv hr hj hunused := hdrafts hv hr hj (hunused.of_move hm)
  committed hr hj hunused := h.committed (hbook ▸ hr) hj (hunused.of_move hm)

/-- A unit of work changes its draft. -/
theorem stage (h : s.Backed) (hm : Move w s s') (hu : s.drafts.get? u = some d) (hbook : s'.book = s.book)
    (hdrafts : s'.drafts = s.drafts.put u e)
    (hrows : ∀ (r : Reference) j, r.Staged e → r.To j → r.Staged d ∨ ¬ s.Unused j) : s'.Backed := by
  refine h.of_drafts hm hbook fun hv hr hj => ?_
  rw [hdrafts] at hv
  rcases Table.get?_put_eq_some_iff.1 hv with ⟨-, rfl⟩ | ⟨-, hv⟩
  · exact (hrows _ _ hr hj).elim (h.staged hu · hj) id
  · exact h.staged hv hr hj

/-- A unit of work changes nothing in its draft but accounts and locks. -/
theorem restage (h : s.Backed) (hm : Move w s s') (hu : s.drafts.get? u = some d) (hbook : s'.book = s.book)
    (hdrafts : s'.drafts = s.drafts.put u e) (hentries : e.entries = d.entries)
    (htransfers : e.transfers = d.transfers) : s'.Backed := by
  refine h.stage hm hu hbook hdrafts fun r j hr _ => .inl ?_
  cases r with
  | entry x =>
    show x ∈ d.entries
    exact hentries ▸ (show x ∈ e.entries from hr)
  | transfer t =>
    show t ∈ d.transfers
    exact htransfers ▸ (show t ∈ e.transfers from hr)

theorem discard (h : s.Backed) (u : Int) : (s.discard u).Backed :=
  h.of_drafts (.discard u) rfl fun hv => h.staged (Table.get?_erase_eq_some_iff.1 hv).2

theorem move (h : s.Backed) (hs : s.Reachable) (hm : Move w s s') : s'.Backed := by
  have hm' := hm
  cases hm with
  | setting faults now => exact h.of_drafts hm' rfl h.staged
  | openDraft =>
    refine h.of_drafts hm' rfl fun {v f r j} hv hr => ?_
    rcases Table.get?_put_eq_some_iff.1 hv with ⟨-, rfl⟩ | ⟨-, hv⟩
    · cases r <;> cases hr
    · exact h.staged hv hr
  | lock hu hk =>
    rcases lock_cases hu _ with ⟨-, heq⟩ | ⟨-, heq⟩ <;> rw [heq] at hm' ⊢
    · exact h
    · exact h.restage hm' hu rfl rfl rfl rfl
  | stageAccount hu owner balance currency =>
    rcases stageAccount_cases hu owner balance currency with ⟨x, heq⟩ | ⟨a, -, -, -, -, -, heq⟩ <;> rw [heq] at hm' ⊢
    · exact h
    · exact h.restage hm' hu rfl rfl rfl rfl
  | stageTransfer hu source target amount =>
    rcases stageTransfer_cases hu source target amount with
      ⟨x, heq⟩ | ⟨-, hsource, htarget, t, -, rfl, rfl, -, heq⟩ <;> rw [heq] at hm' ⊢
    · exact h
    refine h.stage hm' hu rfl rfl fun r j hr hj => ?_
    cases r with
    | entry x => exact .inl hr
    | transfer t' =>
      rcases List.mem_append.1 hr with hr | hr
      · exact .inl hr
      · cases List.mem_singleton.1 hr
        rcases hj with rfl | rfl
        · exact .inr (hs.not_unused hu hsource)
        · exact .inr (hs.not_unused hu htarget)
  | stageEntry hu account amount =>
    rcases stageEntry_cases hu account amount with ⟨x, heq⟩ | ⟨haccount, x, -, rfl, -, heq⟩ <;> rw [heq] at hm' ⊢
    · exact h
    refine h.stage hm' hu rfl rfl fun r j hr hj => ?_
    cases r with
    | transfer t => exact .inl hr
    | entry x' =>
      rcases List.mem_append.1 hr with hr | hr
      · exact .inl hr
      · cases List.mem_singleton.1 hr
        cases hj
        exact .inr (hs.not_unused hu haccount)
  | adjust hu hk delta floor =>
    rcases adjust_cases hu _ delta floor with ⟨x, heq⟩ | ⟨a, b, -, -, heq⟩ <;> rw [heq] at hm' ⊢
    · exact h
    · exact h.restage hm' hu rfl rfl rfl rfl
  | publish hu =>
    rcases publish_cases hu with ⟨x, heq⟩ | ⟨-, heq⟩ <;> rw [heq] at hm' ⊢
    · exact h.discard _
    refine ⟨fun hv hr hj hunused => ?_, fun hr hj hunused => ?_⟩
    · exact h.staged (Table.get?_erase_eq_some_iff.1 hv).2 hr hj (hunused.of_move hm')
    · -- what is committed now was staged or committed before
      rcases hr.of_publish (hs.sound.draft hu) with hr | hr
      · exact h.staged hu hr hj (hunused.of_move hm')
      · exact h.committed hr hj (hunused.of_move hm')
  | discard u => exact h.discard u
  | remove hk =>
    rcases remove_cases s _ with ⟨x, heq⟩ | ⟨-, -, heq⟩ <;> rw [heq] at hm' ⊢
    · exact h
    refine ⟨fun hv hr hj hunused => h.staged hv hr hj (hunused.of_move hm'), fun {r j} hr hj hunused => ?_⟩
    have hr' : r.Committed s.book := by cases r <;> exact hr
    exact h.committed hr' hj (hunused.of_move hm')

end Backed

/-- Whatever has led to a store, what its rows refer to has been there. -/
theorem Reachable.backed (h : s.Reachable) : s.Backed := by
  obtain ⟨patience, now, hr⟩ := h
  induction hr with
  | refl => exact ⟨fun hu => (by cases hu), fun {r _} hr => (by cases r <;> cases hr)⟩
  | @tail t t' hr hm ih =>
    have ht : t.Reachable := ⟨patience, now, hr⟩
    exact hm.elim fun w hm => ih.move ht hm

/-- Nothing refers to an account before it is there. -/
theorem Reachable.not_refers (h : s.Reachable) (hk : s.Unused k) : ¬ s.book.Refers k := by
  rintro (⟨e, he, hek⟩ | ⟨t, ht, htk⟩)
  · exact h.backed.committed (r := .entry e) he hek hk
  · exact h.backed.committed (r := .transfer t) ht htk hk

end Teller.Store
