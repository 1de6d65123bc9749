import Teller.Proofs.Table
import Teller.Store.Basic

/-!
# What a step of the store comes to

A step of a unit of work either fails and leaves the store as it is, or it gives the unit another
draft; ending a unit either discards its draft or publishes it. One lemma for each step says which of
its store's parts change and how, so that what a step keeps can be read off without its definition.
-/

namespace Teller

/-- The balance after an addition is the exact sum; it is an amount, and above the floor. -/
theorem Account.add_eq_ok_iff {a b : Account} {delta : Int} {floor : Bool} :
    a.add delta floor = .ok b ↔ b = { a with balance := a.balance + delta } ∧
      Amount.Fits (a.balance + delta) ∧ (floor = true → 0 ≤ a.balance + delta) := by
  unfold add
  cases hf : Amount.fit? (a.balance + delta) with
  | none => simp [Amount.fit?_eq_none_iff.1 hf]
  | some x =>
    obtain ⟨rfl, hfit⟩ := Amount.fit?_eq_some_iff.1 hf
    by_cases hneg : floor = true ∧ a.balance + delta < 0
    · simp only [hneg, and_self, if_true, reduceCtorEq, false_iff]
      rintro ⟨-, -, h⟩
      have := h trivial
      omega
    · simp only [hneg, if_false, Except.ok.injEq, hfit, true_and]
      exact ⟨fun h => ⟨h.symm, fun hfl => by by_contra hn; exact hneg ⟨hfl, by omega⟩⟩, fun h => h.1.symm⟩

namespace Store

variable {s : Store} {u k : Int} {d : Draft}

theorem draft_eq (h : s.drafts.get? u = some d) : s.draft u = d := by
  simp [draft, h]

theorem seen?_eq (h : s.drafts.get? u = some d) :
    s.seen? u k = (d.accounts.get? k).or (s.book.accounts.get? k) := by
  rw [seen?, draft_eq h, Draft.account?]

theorem adjust_of_seen_error {delta : Int} {floor : Bool} {err : StoreError} (ha : s.seen u k = .error err) :
    s.adjust u k delta floor = (.error err, s) := by
  rw [adjust, ha]

theorem adjust_of_add_error {a : Account} {delta : Int} {floor : Bool} {err : StoreError}
    (ha : s.seen u k = .ok a) (hb : a.add delta floor = .error err) :
    s.adjust u k delta floor = (.error err, s) := by
  rw [adjust, ha]
  simp only [hb]

theorem adjust_of_add_ok {a b : Account} {delta : Int} {floor : Bool} (hu : s.drafts.get? u = some d)
    (ha : s.seen u k = .ok a) (hb : a.add delta floor = .ok b) : s.adjust u k delta floor =
      (.ok b, s.setDraft u { d with accounts := d.accounts.put b.id b }) := by
  rw [adjust, ha]
  simp only [hb, draft_eq hu]

theorem lock_cases (hu : s.drafts.get? u = some d) (k : Int) :
    k ∈ d.locks ∧ s.lock u k = s ∨
      k ∉ d.locks ∧ s.lock u k = s.setDraft u { d with locks := k :: d.locks } := by
  simp only [lock, draft_eq hu]
  by_cases hk : k ∈ d.locks
  · exact .inl ⟨hk, if_pos hk⟩
  · exact .inr ⟨hk, if_neg hk⟩

theorem stageAccount_cases (hu : s.drafts.get? u = some d) (owner : String) (balance : Int)
    (currency : Currency) :
    (∃ e, s.stageAccount u owner balance currency = (.error e, s)) ∨
      ∃ a : Account, a.id = s.nextAccount ∧ a.balance = balance ∧ a.IsOf owner currency ∧
        ¬ d.Stages owner currency ∧ ¬ s.book.Taken owner currency ∧
        s.stageAccount u owner balance currency =
          (.ok a, { s with nextAccount := s.nextAccount + 1 }.setDraft u
            { d with accounts := d.accounts.put a.id a }) := by
  simp only [stageAccount, draft_eq hu]
  by_cases h : d.Stages owner currency ∨ s.book.Taken owner currency
  · exact .inl ⟨_, if_pos h⟩
  · exact .inr ⟨_, rfl, rfl, ⟨rfl, rfl⟩, fun hd => h (.inl hd), fun hb => h (.inr hb), if_neg h⟩

theorem stageTransfer_cases (hu : s.drafts.get? u = some d) (source target amount : Int) :
    (∃ e, s.stageTransfer u source target amount = (.error e, s)) ∨
      0 < amount ∧ s.seen? u source ≠ none ∧ s.seen? u target ≠ none ∧ ∃ t : Transfer,
        t.id = s.nextTransfer ∧ t.source = source ∧ t.target = target ∧ t.amount = amount ∧
        s.stageTransfer u source target amount =
          (.ok t, { s with nextTransfer := s.nextTransfer + 1 }.setDraft u
            { d with transfers := d.transfers ++ [t] }) := by
  simp only [stageTransfer, draft_eq hu]
  by_cases hamount : amount ≤ 0
  · exact .inl ⟨_, if_pos hamount⟩
  by_cases hsource : s.seen? u source = none
  · exact .inl ⟨_, by rw [if_neg hamount, if_pos hsource]⟩
  by_cases htarget : s.seen? u target = none
  · exact .inl ⟨_, by rw [if_neg hamount, if_neg hsource, if_pos htarget]⟩
  refine .inr ⟨by omega, hsource, htarget, ⟨s.nextTransfer, source, target, amount, s.now⟩, rfl, rfl, rfl,
    rfl, ?_⟩
  rw [if_neg hamount, if_neg hsource, if_neg htarget]

theorem stageEntry_cases (hu : s.drafts.get? u = some d) (account amount : Int) :
    (∃ e, s.stageEntry u account amount = (.error e, s)) ∨
      s.seen? u account ≠ none ∧ ∃ e : Entry,
        e.id = s.nextEntry ∧ e.account = account ∧ e.amount = amount ∧
        s.stageEntry u account amount =
          (.ok e, { s with nextEntry := s.nextEntry + 1 }.setDraft u
            { d with entries := d.entries ++ [e] }) := by
  simp only [stageEntry, draft_eq hu]
  by_cases h : s.seen? u account = none
  · exact .inl ⟨_, if_pos h⟩
  · exact .inr ⟨h, _, rfl, rfl, rfl, if_neg h⟩

theorem adjust_cases (hu : s.drafts.get? u = some d) (k delta : Int) (floor : Bool) :
    (∃ e, s.adjust u k delta floor = (.error e, s)) ∨
      ∃ a b : Account, s.seen u k = .ok a ∧ b = { a with balance := a.balance + delta } ∧
        s.adjust u k delta floor =
          (.ok b, s.setDraft u { d with accounts := d.accounts.put b.id b }) := by
  cases ha : s.seen u k with
  | error e => exact .inl ⟨e, adjust_of_seen_error ha⟩
  | ok a =>
    cases hb : a.add delta floor with
    | error e => exact .inl ⟨e, adjust_of_add_error ha hb⟩
    | ok b => exact .inr ⟨a, b, rfl, (Account.add_eq_ok_iff.1 hb).1, adjust_of_add_ok hu ha hb⟩

theorem publish_outcome (s : Store) (u : Int) :
    (∃ e, s.publish u = (.error e, s.discard u)) ∨ (s.draft u).rival? s.book = none ∧
      s.publish u = (.ok (), { s.discard u with book := (s.draft u).publish s.book }) := by
  unfold publish
  dsimp only
  cases (s.draft u).rival? s.book with
  | some a => exact .inl ⟨_, rfl⟩
  | none => exact .inr ⟨rfl, rfl⟩

theorem publish_cases (hu : s.drafts.get? u = some d) :
    (∃ e, s.publish u = (.error e, s.discard u)) ∨
      d.rival? s.book = none ∧
        s.publish u = (.ok (), { s.discard u with book := d.publish s.book }) := by
  have h := s.publish_outcome u
  rwa [draft_eq hu] at h

theorem remove_cases (s : Store) (k : Int) : (∃ e, s.remove k = (.error e, s)) ∨
    (∃ a, s.book.accounts.get? k = some a) ∧ ¬ s.book.Refers k ∧
      s.remove k = (.ok (), { s with book := { s.book with accounts := s.book.accounts.erase k } }) := by
  unfold remove
  by_cases hpresent : s.book.accounts.contains k = true
  · rw [if_neg (not_not_intro hpresent)]
    by_cases href : s.book.Refers k
    · exact .inl ⟨_, if_pos href⟩
    · exact .inr ⟨Table.contains_iff.1 hpresent, href, if_neg href⟩
  · exact .inl ⟨_, if_pos hpresent⟩

theorem trip_cases (s : Store) (p : Point) :
    (s.trip p).1 = .ok () ∨ (s.trip p).1 = .error (.injectedAt p) := by
  unfold trip
  dsimp only
  split
  · exact .inr rfl
  · exact .inl rfl

theorem seen?_of_seen {a : Account} (h : s.seen u k = .ok a) : s.seen? u k = some a := by
  unfold seen at h
  split at h
  · cases h; assumption
  · cases h

end Store

end Teller
