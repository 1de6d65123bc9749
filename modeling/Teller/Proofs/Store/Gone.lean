import Teller.Proofs.Store.Move
import Teller.Proofs.Store.Outcome

/-!
# Removed accounts

`Store.Gone`: an account is neither committed nor staged, and its number has been handed out. No step
brings it back (`Move.gone`): numbers are not handed out twice, and a unit of work can stage an account
that is not new only while it sees it. An account is removed while nobody has its row locked, so no unit
has it staged then, and it is gone from there on.
-/

namespace Teller.Store

variable {w : Option Int} {s s' : Store} {u k : Int} {d e : Draft}

/-- The account was there once, or its number was handed out in vain. -/
structure Gone (k : Int) (s : Store) : Prop where
  number : k < s.nextAccount
  book : s.book.accounts.get? k = none
  draft : ∀ {u d}, s.drafts.get? u = some d → d.accounts.get? k = none

namespace Gone

theorem seen (h : s.Gone k) (hu : s.drafts.get? u = some d) : s.seen? u k = none := by
  rw [seen?_eq hu, h.draft hu, h.book]
  rfl

theorem stage (h : s.Gone k) (hn : s.nextAccount ≤ s'.nextAccount) (hbook : s'.book = s.book)
    (hdrafts : s'.drafts = s.drafts.put u e) (he : e.accounts.get? k = none) : s'.Gone k := by
  refine ⟨Int.lt_of_lt_of_le h.number hn, hbook ▸ h.book, fun {v f} hv => ?_⟩
  rw [hdrafts] at hv
  rcases Table.get?_put_eq_some_iff.1 hv with ⟨-, rfl⟩ | ⟨-, hv⟩
  · exact he
  · exact h.draft hv

theorem discard (h : s.Gone k) (u : Int) : (s.discard u).Gone k :=
  ⟨h.number, h.book, fun hv => h.draft (Table.get?_erase_eq_some_iff.1 hv).2⟩

end Gone

theorem Move.gone (h : Move w s s') (hs : s.Sound) (hk : s.Gone k) : s'.Gone k := by
  cases h with
  | setting faults now => exact ⟨hk.number, hk.book, hk.draft⟩
  | openDraft =>
    exact hk.stage (Int.le_refl _) rfl rfl rfl
  | lock hu hfree =>
    rcases lock_cases hu _ with ⟨-, heq⟩ | ⟨-, heq⟩ <;> rw [heq]
    · exact hk
    · have hd := hk.draft hu
      exact hk.stage (Int.le_refl _) rfl rfl hd
  | stageAccount hu owner balance currency =>
    rcases stageAccount_cases hu owner balance currency with ⟨e, heq⟩ | ⟨a, ha, -, -, -, -, heq⟩ <;> rw [heq]
    · exact hk
    · have hne : k ≠ a.id := by
        have := hk.number
        omega
      exact hk.stage (Int.le_of_lt (Int.lt_succ _)) rfl rfl ((Table.get?_put_of_ne hne a).trans (hk.draft hu))
  | stageTransfer hu source target amount =>
    rcases stageTransfer_cases hu source target amount with ⟨e, heq⟩ | ⟨-, -, -, t, -, -, -, -, heq⟩ <;>
      rw [heq]
    · exact hk
    · have hd := hk.draft hu
      exact hk.stage (Int.le_refl _) rfl rfl hd
  | stageEntry hu account amount =>
    rcases stageEntry_cases hu account amount with ⟨e, heq⟩ | ⟨-, x, -, -, -, heq⟩ <;> rw [heq]
    · exact hk
    · have hd := hk.draft hu
      exact hk.stage (Int.le_refl _) rfl rfl hd
  | @adjust _ u j d hu hj delta floor =>
    rcases adjust_cases hu j delta floor with ⟨e, heq⟩ | ⟨a, b, ha, hb, heq⟩ <;> rw [heq]
    · exact hk
    · have hid : b.id = j := by rw [hb]; exact (hs.seen hu ha).1
      have hne : k ≠ b.id := by
        rintro rfl
        have := seen?_of_seen ha
        rw [← hid, hk.seen hu] at this
        cases this
      exact hk.stage (Int.le_refl _) rfl rfl ((Table.get?_put_of_ne hne b).trans (hk.draft hu))
  | @publish _ u d hu =>
    rcases publish_cases hu with ⟨e, heq⟩ | ⟨-, heq⟩ <;> rw [heq]
    · exact hk.discard u
    · refine ⟨hk.number, ?_, (hk.discard u).draft⟩
      show (d.publish s.book).accounts.get? k = none
      rw [(hs.draft hu).publish_account, Draft.account?, hk.draft hu, hk.book]
      rfl
  | discard u => exact hk.discard u
  | @remove _ _ j hj =>
    rcases remove_cases s j with ⟨e, heq⟩ | ⟨-, -, heq⟩ <;> rw [heq]
    · exact hk
    · refine ⟨hk.number, ?_, hk.draft⟩
      rw [Table.get?_erase, hk.book, ite_self]

/-- An account whose row nobody has locked is gone once it is removed. -/
theorem Sound.gone_erase (h : s.Sound) (hk : s.Free none k) {a : Account}
    (ha : s.book.accounts.get? k = some a) :
    Gone k { s with book := { s.book with accounts := s.book.accounts.erase k } } := by
  refine ⟨(h.account ha).2, Table.get?_erase_self _ _, fun {u d} hu => ?_⟩
  -- a unit that had it staged would have its row locked
  refine Option.eq_none_iff_forall_ne_some.2 fun b hb => ?_
  cases h.free_iff.1 hk u d hu ((h.draft hu).original hb ha).1

theorem Sound.gone_remove (h : s.Sound) (hk : s.Free none k) (hok : (s.remove k).1 = .ok ()) :
    (s.remove k).2.Gone k := by
  rcases remove_cases s k with ⟨e, heq⟩ | ⟨⟨a, ha⟩, -, heq⟩
  · rw [heq] at hok
    cases hok
  · rw [heq]
    exact h.gone_erase hk ha

end Teller.Store
