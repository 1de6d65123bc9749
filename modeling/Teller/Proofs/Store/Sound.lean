import Mathlib.Data.List.Pairwise
import Teller.Proofs.Store.Outcome

/-!
# Sound stores

`Store.Sound`: every row stands at its number, numbers are handed out below the next one, and the
drafts of two units of work have nothing in common, neither a lock nor a staged row. An account that
is staged while a committed one has its number is that account with another balance, and its row is
locked. Every step of the store keeps this, whatever a unit of work is used for; the steps that stage
something are one lemma (`Sound.stage`) about the unit's new draft.
-/

namespace Teller

/-- What a unit of work has staged fits the committed rows and the numbers handed out so far. -/
structure Draft.Sound (d : Draft) (s : Store) : Prop where
  /-- A staged account stands at its number. -/
  account : ∀ {k a}, d.accounts.get? k = some a → a.id = k ∧ k < s.nextAccount
  /-- A staged account is a new one, or a committed one with another balance and a locked row. -/
  original : ∀ {k a a₀}, d.accounts.get? k = some a → s.book.accounts.get? k = some a₀ →
    k ∈ d.locks ∧ ∃ x, a = { a₀ with balance := x }
  entry : ∀ {e}, e ∈ d.entries → e.id < s.nextEntry ∧ s.book.entries.get? e.id = none
  /-- No two staged entries have one number. -/
  entries : d.entries.Pairwise fun e f => e.id ≠ f.id
  transfer : ∀ {t}, t ∈ d.transfers → t.id < s.nextTransfer ∧ s.book.transfers.get? t.id = none
  /-- No two staged transfers have one number. -/
  transfers : d.transfers.Pairwise fun t x => t.id ≠ x.id

/-- Two units of work have nothing in common. -/
structure Draft.Apart (d e : Draft) : Prop where
  locks : ∀ {k}, k ∈ d.locks → k ∉ e.locks
  accounts : ∀ {k a}, d.accounts.get? k = some a → e.accounts.get? k = none
  entries : ∀ {x y}, x ∈ d.entries → y ∈ e.entries → x.id ≠ y.id
  transfers : ∀ {x y}, x ∈ d.transfers → y ∈ e.transfers → x.id ≠ y.id

/-- Rows stand at their numbers, and open units of work do not get into each other's way. -/
structure Store.Sound (s : Store) : Prop where
  account : ∀ {k a}, s.book.accounts.get? k = some a → a.id = k ∧ k < s.nextAccount
  entry : ∀ {k e}, s.book.entries.get? k = some e → e.id = k ∧ k < s.nextEntry
  transfer : ∀ {k t}, s.book.transfers.get? k = some t → t.id = k ∧ k < s.nextTransfer
  number : ∀ {u d}, s.drafts.get? u = some d → u < s.nextDraft
  draft : ∀ {u d}, s.drafts.get? u = some d → d.Sound s
  apart : ∀ {u v d e}, u ≠ v → s.drafts.get? u = some d → s.drafts.get? v = some e → d.Apart e

namespace Draft

variable {d e : Draft} {s s' : Store}

theorem Apart.symm (h : d.Apart e) : e.Apart d where
  locks he hd := h.locks hd he
  accounts {k a} he := by
    cases hd : d.accounts.get? k with
    | none => rfl
    | some b => rw [h.accounts hd] at he; cases he
  entries hx hy := (h.entries hy hx).symm
  transfers hx hy := (h.transfers hy hx).symm

theorem sound_empty : empty.Sound s where
  account h := by cases h
  original h := by cases h
  entry h := by cases h
  entries := .nil
  transfer h := by cases h
  transfers := .nil

theorem apart_empty : empty.Apart e where
  locks h := by cases h
  accounts h := by cases h
  entries h := by cases h
  transfers h := by cases h

/-- Numbers handed out to others do no harm. -/
theorem Sound.mono (h : d.Sound s) (hbook : s'.book = s.book) (ha : s.nextAccount ≤ s'.nextAccount)
    (he : s.nextEntry ≤ s'.nextEntry) (ht : s.nextTransfer ≤ s'.nextTransfer) : d.Sound s' where
  account hk := ⟨(h.account hk).1, Int.lt_of_lt_of_le (h.account hk).2 ha⟩
  original hk h₀ := h.original hk (hbook ▸ h₀)
  entry hx := ⟨Int.lt_of_lt_of_le (h.entry hx).1 he, hbook ▸ (h.entry hx).2⟩
  entries := h.entries
  transfer hx := ⟨Int.lt_of_lt_of_le (h.transfer hx).1 ht, hbook ▸ (h.transfer hx).2⟩
  transfers := h.transfers

end Draft

namespace Store

variable {s s' : Store} {u k : Int} {d e : Draft}

/-! ### Locks -/

theorem holder?_eq_none_iff : s.holder? k = none ↔ ∀ u d, s.drafts.get? u = some d → k ∉ d.locks := by
  simp only [holder?, Option.map_eq_none_iff, List.find?_eq_none, decide_eq_true_eq, Prod.forall,
    Table.mem_rows_iff]

theorem of_holder?_eq_some (h : s.holder? k = some u) : ∃ d, s.drafts.get? u = some d ∧ k ∈ d.locks := by
  obtain ⟨⟨v, d⟩, hf, rfl⟩ := Option.map_eq_some_iff.1 h
  exact ⟨d, s.drafts.mem_rows_iff.1 (List.mem_of_find?_eq_some hf), by simpa using List.find?_some hf⟩

namespace Sound

theorem get?_eq_none_of_le (h : s.Sound) (hu : s.nextDraft ≤ u) : s.drafts.get? u = none := by
  refine Option.eq_none_iff_forall_ne_some.2 fun d hd => ?_
  have hlt := h.number hd
  omega

theorem account_new (h : s.Sound) (hk : k = s.nextAccount) : s.book.accounts.get? k = none := by
  refine Option.eq_none_iff_forall_ne_some.2 fun a ha => ?_
  have hlt := (h.account ha).2
  omega

theorem unstaged_new (h : s.Sound) (hu : s.drafts.get? u = some d) (hk : k = s.nextAccount) :
    d.accounts.get? k = none := by
  refine Option.eq_none_iff_forall_ne_some.2 fun a ha => ?_
  have hlt := ((h.draft hu).account ha).2
  omega

theorem entry_new (h : s.Sound) (hk : k = s.nextEntry) : s.book.entries.get? k = none := by
  refine Option.eq_none_iff_forall_ne_some.2 fun e he => ?_
  have hlt := (h.entry he).2
  omega

theorem transfer_new (h : s.Sound) (hk : k = s.nextTransfer) : s.book.transfers.get? k = none := by
  refine Option.eq_none_iff_forall_ne_some.2 fun t ht => ?_
  have hlt := (h.transfer ht).2
  omega

/-- A row that is free for a unit of work is locked by no other. -/
theorem free_iff (h : s.Sound) {o : Option Int} :
    s.Free o k ↔ ∀ v d, s.drafts.get? v = some d → k ∈ d.locks → o = some v := by
  constructor
  · rintro (hf | hf) v d hv hk
    · exact absurd hk (holder?_eq_none_iff.1 hf v d hv)
    · cases o with
      | none => exact absurd hk (holder?_eq_none_iff.1 hf v d hv)
      | some u =>
        obtain ⟨e, hu, hke⟩ := of_holder?_eq_some hf
        by_cases huv : u = v
        · rw [huv]
        · exact absurd hk ((h.apart huv hu hv).locks hke)
  · intro hf
    cases hh : s.holder? k with
    | none => exact .inl hh
    | some v =>
      obtain ⟨d, hv, hk⟩ := of_holder?_eq_some hh
      exact .inr (hh.trans (hf v d hv hk).symm)

/-! ### Staging -/

/-- A unit of work has another draft, and numbers may be handed out for it. -/
theorem stage (h : s.Sound) (hbook : s'.book = s.book) (hdrafts : s'.drafts = s.drafts.put u d)
    (ha : s.nextAccount ≤ s'.nextAccount) (he : s.nextEntry ≤ s'.nextEntry)
    (ht : s.nextTransfer ≤ s'.nextTransfer) (hn : s.nextDraft ≤ s'.nextDraft) (hu : u < s'.nextDraft)
    (hd : d.Sound s') (hap : ∀ v e, v ≠ u → s.drafts.get? v = some e → d.Apart e) : s'.Sound where
  account hk := ⟨(h.account (hbook ▸ hk)).1, Int.lt_of_lt_of_le (h.account (hbook ▸ hk)).2 ha⟩
  entry hk := ⟨(h.entry (hbook ▸ hk)).1, Int.lt_of_lt_of_le (h.entry (hbook ▸ hk)).2 he⟩
  transfer hk := ⟨(h.transfer (hbook ▸ hk)).1, Int.lt_of_lt_of_le (h.transfer (hbook ▸ hk)).2 ht⟩
  number {v e} hv := by
    rw [hdrafts] at hv
    rcases Table.get?_put_eq_some_iff.1 hv with ⟨rfl, -⟩ | ⟨-, hv⟩
    · exact hu
    · exact Int.lt_of_lt_of_le (h.number hv) hn
  draft {v e} hv := by
    rw [hdrafts] at hv
    rcases Table.get?_put_eq_some_iff.1 hv with ⟨-, rfl⟩ | ⟨-, hv⟩
    · exact hd
    · exact (h.draft hv).mono hbook ha he ht
  apart {v w e f} hvw hv hw := by
    rw [hdrafts] at hv hw
    rcases Table.get?_put_eq_some_iff.1 hv with ⟨rfl, rfl⟩ | ⟨hvu, hv'⟩ <;>
      rcases Table.get?_put_eq_some_iff.1 hw with ⟨rfl, rfl⟩ | ⟨hwu, hw'⟩
    · exact absurd rfl hvw
    · exact hap w f hwu hw'
    · exact (hap v e hvu hv').symm
    · exact h.apart hvw hv' hw'

theorem openDraft (h : s.Sound) : s.openDraft.2.Sound :=
  h.stage rfl rfl (Int.le_refl _) (Int.le_refl _) (Int.le_refl _) (Int.le_of_lt (Int.lt_succ _))
    (Int.lt_succ _) Draft.sound_empty fun _ _ _ _ => Draft.apart_empty

theorem lock (h : s.Sound) (hu : s.drafts.get? u = some d) (hk : s.Free (some u) k) :
    (s.lock u k).Sound := by
  have hd := h.draft hu
  rcases lock_cases hu k with ⟨-, heq⟩ | ⟨-, heq⟩ <;> rw [heq]
  · exact h
  · refine h.stage rfl rfl (Int.le_refl _) (Int.le_refl _) (Int.le_refl _) (Int.le_refl _) (h.number hu)
      ⟨hd.account, fun ha h₀ => ?_, hd.entry, hd.entries, hd.transfer, hd.transfers⟩ fun v e hv he => ?_
    · exact (hd.original ha h₀).imp_left (List.mem_cons_of_mem _)
    · have hap := h.apart (Ne.symm hv) hu he
      refine ⟨fun hj => ?_, hap.accounts, hap.entries, hap.transfers⟩
      rcases List.mem_cons.1 hj with rfl | hj
      · exact fun hje => hv (Option.some.inj (h.free_iff.1 hk v e he hje)).symm
      · exact hap.locks hj

theorem stageAccount (h : s.Sound) (hu : s.drafts.get? u = some d) (owner : String) (balance : Int)
    (currency : Currency) : (s.stageAccount u owner balance currency).2.Sound := by
  have hd := h.draft hu
  rcases stageAccount_cases hu owner balance currency with ⟨e, heq⟩ | ⟨a, ha, -, -, -, -, heq⟩ <;> rw [heq]
  · exact h
  · refine h.stage rfl rfl (Int.le_of_lt (Int.lt_succ _)) (Int.le_refl _) (Int.le_refl _) (Int.le_refl _)
      (h.number hu) ⟨fun {k b} hb => ?_, fun {k b b₀} hb h₀ => ?_, hd.entry, hd.entries, hd.transfer,
      hd.transfers⟩ fun v e hv he => ?_
    · show b.id = k ∧ k < s.nextAccount + 1
      rcases Table.get?_put_eq_some_iff.1 hb with ⟨rfl, rfl⟩ | ⟨-, hb⟩
      · exact ⟨rfl, by omega⟩
      · have := (hd.account hb).2
        exact ⟨(hd.account hb).1, by omega⟩
    · rcases Table.get?_put_eq_some_iff.1 hb with ⟨rfl, -⟩ | ⟨-, hb⟩
      · cases (h.account_new ha).symm.trans h₀
      · exact hd.original hb h₀
    · have hap := h.apart (Ne.symm hv) hu he
      refine ⟨hap.locks, fun {k b} hb => ?_, hap.entries, hap.transfers⟩
      rcases Table.get?_put_eq_some_iff.1 hb with ⟨rfl, -⟩ | ⟨-, hb⟩
      · exact h.unstaged_new he ha
      · exact hap.accounts hb

theorem stageTransfer (h : s.Sound) (hu : s.drafts.get? u = some d) (source target amount : Int) :
    (s.stageTransfer u source target amount).2.Sound := by
  have hd := h.draft hu
  rcases stageTransfer_cases hu source target amount with
    ⟨e, heq⟩ | ⟨-, -, -, t, ht, -, -, -, heq⟩ <;> rw [heq]
  · exact h
  refine h.stage rfl rfl (Int.le_refl _) (Int.le_refl _) (Int.le_of_lt (Int.lt_succ _)) (Int.le_refl _) (h.number hu)
    ⟨hd.account, hd.original, hd.entry, hd.entries, fun {x} hx => ?_, ?_⟩ fun v e hv he => ?_
  · show x.id < s.nextTransfer + 1 ∧ s.book.transfers.get? x.id = none
    rcases List.mem_append.1 hx with hx | hx
    · have := (hd.transfer hx).1
      exact ⟨by omega, (hd.transfer hx).2⟩
    · rw [List.mem_singleton.1 hx]
      exact ⟨by omega, h.transfer_new ht⟩
  · refine List.pairwise_append.2 ⟨hd.transfers, List.pairwise_singleton _ _, fun x hx y hy => ?_⟩
    rw [List.mem_singleton.1 hy]
    have := (hd.transfer hx).1
    omega
  · have hap := h.apart (Ne.symm hv) hu he
    refine ⟨hap.locks, hap.accounts, hap.entries, fun {x y} hx hy => ?_⟩
    rcases List.mem_append.1 hx with hx | hx
    · exact hap.transfers hx hy
    · rw [List.mem_singleton.1 hx]
      have := ((h.draft he).transfer hy).1
      omega

theorem stageEntry (h : s.Sound) (hu : s.drafts.get? u = some d) (account amount : Int) :
    (s.stageEntry u account amount).2.Sound := by
  have hd := h.draft hu
  rcases stageEntry_cases hu account amount with ⟨e, heq⟩ | ⟨-, e, he, -, -, heq⟩ <;> rw [heq]
  · exact h
  refine h.stage rfl rfl (Int.le_refl _) (Int.le_of_lt (Int.lt_succ _)) (Int.le_refl _) (Int.le_refl _) (h.number hu)
    ⟨hd.account, hd.original, fun {x} hx => ?_, ?_, hd.transfer, hd.transfers⟩ fun v f hv hf => ?_
  · show x.id < s.nextEntry + 1 ∧ s.book.entries.get? x.id = none
    rcases List.mem_append.1 hx with hx | hx
    · have := (hd.entry hx).1
      exact ⟨by omega, (hd.entry hx).2⟩
    · rw [List.mem_singleton.1 hx]
      exact ⟨by omega, h.entry_new he⟩
  · refine List.pairwise_append.2 ⟨hd.entries, List.pairwise_singleton _ _, fun x hx y hy => ?_⟩
    rw [List.mem_singleton.1 hy]
    have := (hd.entry hx).1
    omega
  · have hap := h.apart (Ne.symm hv) hu hf
    refine ⟨hap.locks, hap.accounts, fun {x y} hx hy => ?_, hap.transfers⟩
    rcases List.mem_append.1 hx with hx | hx
    · exact hap.entries hx hy
    · rw [List.mem_singleton.1 hx]
      have := ((h.draft hf).entry hy).1
      omega

/-- What a unit of work sees of an account whose row it has locked is the committed row with another
balance, or a row that only this unit has. -/
theorem seen (h : s.Sound) (hu : s.drafts.get? u = some d) {a : Account}
    (ha : s.seen u k = .ok a) :
    a.id = k ∧ k < s.nextAccount ∧
      ∀ a₀, s.book.accounts.get? k = some a₀ → ∃ x, a = { a₀ with balance := x } := by
  have hd := h.draft hu
  rw [Store.seen, seen?_eq hu] at ha
  cases hk : d.accounts.get? k with
  | some b =>
    simp only [hk, Option.some_or, Except.ok.injEq] at ha
    subst ha
    exact ⟨(hd.account hk).1, (hd.account hk).2, fun a₀ h₀ => (hd.original hk h₀).2⟩
  | none =>
    cases hb : s.book.accounts.get? k with
    | none => simp [hk, hb] at ha
    | some b =>
      simp only [hk, hb, Option.none_or, Except.ok.injEq] at ha
      subst ha
      exact ⟨(h.account hb).1, (h.account hb).2, fun a₀ h₀ => ⟨b.balance, by cases h₀; rfl⟩⟩

theorem adjust (h : s.Sound) (hu : s.drafts.get? u = some d) (hk : k ∈ d.locks) (delta : Int)
    (floor : Bool) : (s.adjust u k delta floor).2.Sound := by
  have hd := h.draft hu
  rcases adjust_cases hu k delta floor with ⟨e, heq⟩ | ⟨a, b, ha, hb, heq⟩ <;> rw [heq]
  · exact h
  obtain ⟨hak, hlt, h₀⟩ := h.seen hu ha
  have hbk : b.id = k := by rw [hb]; exact hak
  refine h.stage rfl rfl (Int.le_refl _) (Int.le_refl _) (Int.le_refl _) (Int.le_refl _) (h.number hu)
    ⟨fun {j c} hc => ?_, fun {j c c₀} hc hc₀ => ?_, hd.entry, hd.entries, hd.transfer, hd.transfers⟩
    fun v e hv he => ?_
  · rcases Table.get?_put_eq_some_iff.1 hc with ⟨rfl, rfl⟩ | ⟨-, hc⟩
    · exact ⟨rfl, hbk ▸ hlt⟩
    · exact hd.account hc
  · rcases Table.get?_put_eq_some_iff.1 hc with ⟨rfl, rfl⟩ | ⟨-, hc⟩
    · obtain ⟨x, rfl⟩ := h₀ c₀ (hbk ▸ hc₀)
      exact ⟨hbk ▸ hk, _, hb⟩
    · exact hd.original hc hc₀
  · have hap := h.apart (Ne.symm hv) hu he
    refine ⟨hap.locks, fun {j c} hc => ?_, hap.entries, hap.transfers⟩
    rcases Table.get?_put_eq_some_iff.1 hc with ⟨hj, -⟩ | ⟨-, hc⟩
    · obtain rfl : j = k := hj.trans hbk
      -- were the row staged by the other unit, it would be locked by both or new to both
      refine Option.eq_none_iff_forall_ne_some.2 fun x hx => ?_
      have hseen := seen?_of_seen ha
      rw [seen?_eq hu, hap.symm.accounts hx, Option.none_or] at hseen
      exact hap.locks hk ((h.draft he).original hx hseen).1
    · exact hap.accounts hc

/-! ### Ends of units of work -/

theorem discard (h : s.Sound) (u : Int) : (s.discard u).Sound where
  account := h.account
  entry := h.entry
  transfer := h.transfer
  number hv := h.number (Table.get?_erase_eq_some_iff.1 hv).2
  draft hv := (h.draft (Table.get?_erase_eq_some_iff.1 hv).2).mono rfl (Int.le_refl _) (Int.le_refl _)
    (Int.le_refl _)
  apart hvw hv hw :=
    h.apart hvw (Table.get?_erase_eq_some_iff.1 hv).2 (Table.get?_erase_eq_some_iff.1 hw).2

end Sound

end Store

/-! ### Publishing -/

namespace Draft

variable {d : Draft} {s : Store} {k : Int}

/-- What is committed is what the unit of work saw. -/
theorem publish_account (hkey : ∀ {j a}, d.accounts.get? j = some a → a.id = j) (b : Book) :
    (d.publish b).accounts.get? k = d.account? b k := by
  have hid : ∀ {a}, a ∈ d.accounts.values → d.accounts.get? a.id = some a := fun ha => by
    obtain ⟨j, hj⟩ := Table.mem_values.1 ha
    rwa [hkey hj]
  have hpw : d.accounts.values.Pairwise fun a b => a.id ≠ b.id :=
    List.pairwise_map.2 (d.accounts.ascending.imp_of_mem fun {x y} hx hy hxy => by
      have hx' := hkey (d.accounts.mem_rows_iff.1 hx)
      have hy' := hkey (d.accounts.mem_rows_iff.1 hy)
      omega)
  rw [account?]
  cases hk : d.accounts.get? k with
  | some a =>
    have := Table.get?_foldl_put_of_mem Account.id hpw (Table.mem_values_of_get? hk) b.accounts
    rw [hkey hk] at this
    exact this
  | none =>
    refine Table.get?_foldl_put_of_forall_ne Account.id (fun a ha hak => ?_) b.accounts
    rw [← hak, hid ha] at hk
    cases hk

theorem Sound.publish_account (hd : d.Sound s) :
    (d.publish s.book).accounts.get? k = d.account? s.book k :=
  Draft.publish_account (fun h => (hd.account h).1) s.book

theorem Sound.publish_entry (hd : d.Sound s) {e : Entry} :
    (d.publish s.book).entries.get? k = some e ↔
      (e ∈ d.entries ∧ e.id = k) ∨ s.book.entries.get? k = some e := by
  constructor
  · intro h
    exact (Table.get?_foldl_put Entry.id h).imp_right And.right
  · rintro (⟨he, rfl⟩ | h)
    · exact Table.get?_foldl_put_of_mem Entry.id hd.entries he s.book.entries
    · refine (Table.get?_foldl_put_of_forall_ne Entry.id (fun x hx hxk => ?_) s.book.entries).trans h
      rw [← hxk, (hd.entry hx).2] at h
      cases h

theorem Sound.publish_transfer (hd : d.Sound s) {t : Transfer} :
    (d.publish s.book).transfers.get? k = some t ↔
      (t ∈ d.transfers ∧ t.id = k) ∨ s.book.transfers.get? k = some t := by
  constructor
  · intro h
    exact (Table.get?_foldl_put Transfer.id h).imp_right And.right
  · rintro (⟨ht, rfl⟩ | h)
    · exact Table.get?_foldl_put_of_mem Transfer.id hd.transfers ht s.book.transfers
    · refine (Table.get?_foldl_put_of_forall_ne Transfer.id (fun x hx hxk => ?_) s.book.transfers).trans h
      rw [← hxk, (hd.transfer hx).2] at h
      cases h

end Draft

namespace Store.Sound

variable {s : Store} {u k : Int} {d : Draft}

theorem publish (h : s.Sound) (hu : s.drafts.get? u = some d) : (s.publish u).2.Sound := by
  have hd := h.draft hu
  rcases publish_cases hu with ⟨e, heq⟩ | ⟨-, heq⟩ <;> rw [heq]
  · exact h.discard u
  · have h' := h.discard u
    refine ⟨fun {k a} hk => ?_, fun {k e} hk => ?_, fun {k t} hk => ?_, h'.number, fun {v e} hv => ?_,
      h'.apart⟩
    · rw [hd.publish_account, Draft.account?] at hk
      cases hak : d.accounts.get? k with
      | some b => rw [hak] at hk; cases hk; exact hd.account hak
      | none => rw [hak] at hk; exact h.account hk
    · rcases hd.publish_entry.1 hk with ⟨he, rfl⟩ | hk
      · exact ⟨rfl, (hd.entry he).1⟩
      · exact h.entry hk
    · rcases hd.publish_transfer.1 hk with ⟨ht, rfl⟩ | hk
      · exact ⟨rfl, (hd.transfer ht).1⟩
      · exact h.transfer hk
    · obtain ⟨hvu, hv⟩ := Table.get?_erase_eq_some_iff.1 hv
      have he := h.draft hv
      have hap := h.apart (Ne.symm hvu) hu hv
      refine ⟨he.account, fun {k a a₀} hk hk₀ => ?_, fun {x} hx => ⟨(he.entry hx).1, ?_⟩, he.entries,
        fun {x} hx => ⟨(he.transfer hx).1, ?_⟩, he.transfers⟩
      · rw [hd.publish_account, Draft.account?, hap.symm.accounts hk] at hk₀
        exact he.original hk hk₀
      · refine Option.eq_none_iff_forall_ne_some.2 fun y hy => ?_
        rcases hd.publish_entry.1 hy with ⟨hy, hyx⟩ | hy
        · exact hap.entries hy hx hyx
        · rw [(he.entry hx).2] at hy; cases hy
      · refine Option.eq_none_iff_forall_ne_some.2 fun y hy => ?_
        rcases hd.publish_transfer.1 hy with ⟨hy, hyx⟩ | hy
        · exact hap.transfers hy hx hyx
        · rw [(he.transfer hx).2] at hy; cases hy

theorem remove (h : s.Sound) (k : Int) : (s.remove k).2.Sound := by
  rcases remove_cases s k with ⟨e, heq⟩ | ⟨-, -, heq⟩ <;> rw [heq]
  · exact h
  · refine ⟨fun {j a} hj => ?_, h.entry, h.transfer, h.number, fun hv => ?_, h.apart⟩
    · exact h.account (Table.get?_erase_eq_some_iff.1 hj).2
    · have hd := h.draft hv
      exact ⟨hd.account, fun hj hj₀ => hd.original hj (Table.get?_erase_eq_some_iff.1 hj₀).2, hd.entry,
        hd.entries, hd.transfer, hd.transfers⟩

theorem new (patience : Time.Span) (now : Time.Instant) : (Store.new patience now).Sound where
  account h := by cases h
  entry h := by cases h
  transfer h := by cases h
  number h := by cases h
  draft h := by cases h
  apart _ h := by cases h

end Store.Sound

end Teller
