import Teller.Proofs.Transfer.Alone

/-!
# An order tried again

`Order.Lone` is what holds at each moment while an order is carried out that nobody interferes with,
whatever goes wrong with it. So an order that fails, or is dropped, leaves the bank as it was before
(`Bank.Restored`) but for the journal, the faults and the numbers to hand out; and carried out again, it
comes to what it would have come to in the first place.
-/

namespace Teller

/-- The bank when no faults are asked for any more, at some time. -/
def Bank.cleared (b : Bank) (now : Time.Instant) : Bank :=
  { b with store := { b.store with faults := .none, now := now } }

/-- The bank is as it was, as far as orders can tell. -/
structure Bank.Restored (b₀ b : Bank) : Prop where
  sound : b.store.Sound
  book : b.store.book = b₀.store.book
  drafts : b.store.drafts = b₀.store.drafts
  patience : b.store.patience = b₀.store.patience
  refusals : b.refusals = b₀.refusals

/-- An order is being carried out at a bank, and nobody else is there. -/
structure Order.Lone (o : Order) (overdraft : Bool) (b₀ : Bank) (g : Stage Verdict) (b : Bank) : Prop where
  idle : g.Idle → b.store.book = b₀.store.book
  posted : ∀ r, g.verdict = some (.posted r) → o.Posts overdraft r b₀.store.book b.store.book
  /-- The units of work of others stay as they are. -/
  old : ∀ u, u < b₀.store.nextDraft → b.store.drafts.get? u = b₀.store.drafts.get? u
  new : ∀ u, b₀.store.nextDraft ≤ u → b.store.drafts.get? u ≠ none → g.unit = some u
  unit : ∀ u, g.unit = some u → b₀.store.nextDraft ≤ u
  next : b₀.store.nextDraft ≤ b.store.nextDraft
  patience : b.store.patience = b₀.store.patience
  refusals : b.refusals = b₀.refusals

/-- An order has been carried out while nobody else was there, or has come to nothing. -/
structure Order.Ran (o : Order) (terms : Terms) (b : Bank) (t : Trace Bank (Except TransferError Receipt)) :
    Prop where
  sound : t.state.store.Sound
  drafts : t.state.store.drafts = b.store.drafts
  patience : t.state.store.patience = b.store.patience
  refusals : t.state.refusals = b.refusals
  ok : ∀ r, t.value = .ok r → o.Posts terms.overdraft r b.store.book t.state.store.book
  error : ∀ e, t.value = .error e → t.state.store.book = b.store.book

variable {o : Order} {overdraft : Bool} {terms : Terms} {b₀ b b' : Bank} {g g' : Stage Verdict}

namespace Order

namespace Lone

theorem start (b : Bank) (hs : b.store.Sound) : o.Lone overdraft b .start b where
  idle _ := rfl
  posted _ h := by cases h
  old _ _ := rfl
  new u hu hd := absurd (hs.get?_eq_none_of_le hu) hd
  unit _ h := by cases h
  next := Int.le_refl _
  patience := rfl
  refusals := rfl

theorem turn (h : o.Lone overdraft b₀ g b) (hs : b.store.Sound)
    (ht : Turn (o.effect Store.Sound overdraft) g b g' b') : o.Lone overdraft b₀ g' b' := by
  have hbook : (g'.Idle → b'.store.book = b₀.store.book) ∧
      ∀ r, g'.verdict = some (.posted r) → o.Posts overdraft r b₀.store.book b'.store.book := by
    rcases ht.quiet_or_effect with ⟨hq, hv⟩ | ⟨x, hnone, hx, he⟩
    · have hidle : g'.Idle → g.Idle := fun hg x hx => hg x (hv.trans hx)
      rw [hq.book, hv]
      exact ⟨fun hg => h.idle (hidle hg), h.posted⟩
    · have hb := h.idle (Stage.idle_of_none hnone)
      cases x with
      | posted r =>
        refine ⟨fun hg => ?_, fun r' hr' => ?_⟩
        · obtain ⟨cause, hc⟩ := hg _ hx
          cases hc
        · rw [hx] at hr'
          cases hr'
          exact hb ▸ he.1
      | failed cause =>
        refine ⟨fun _ => ?_, fun r hr => ?_⟩
        · rw [he.1]
          exact hb
        · rw [hx] at hr
          cases hr
      | opened a => exact he.elim
      | removed id => exact he.elim
  have hle := ht.move.nextDraft_le
  have hnext := h.next
  constructor
  case idle => exact hbook.1
  case posted => exact hbook.2
  case old =>
    intro u hu
    -- the unit of the order was opened later, so this one belongs to somebody else
    have hne : g.unit ≠ some u := fun hg => by
      have := h.unit u hg
      omega
    exact (ht.move.untouched hs hne (by omega)).draft.trans (h.old u hu)
  case new =>
    intro u hu hd
    rcases ht.opened hd with hd' | ⟨-, hg⟩
    · rcases ht.closed (h.new u hu hd') with hg | hclosed
      · exact hg
      · exact absurd hclosed hd
    · exact hg
  case unit =>
    intro u hu
    rcases ht.unit_eq hu with hg | ⟨rfl, -⟩
    · exact h.unit u hg
    · exact hnext
  case next => omega
  case patience => exact ht.move.patience.trans h.patience
  case refusals => exact ht.refusals.trans h.refusals

/-- When the order has no unit of work open, only those of others are left. -/
theorem drafts (h : o.Lone overdraft b₀ g b) (hs : b₀.store.Sound) (hg : g.unit = none) :
    b.store.drafts = b₀.store.drafts := by
  refine Table.ext_get? fun u => ?_
  by_cases hu : u < b₀.store.nextDraft
  · exact h.old u hu
  have hnone : b.store.drafts.get? u = none := by
    by_contra hd
    have := h.new u (Int.not_lt.1 hu) hd
    rw [hg] at this
    cases this
  rw [hnone, hs.get?_eq_none_of_le (Int.not_lt.1 hu)]

/-- An order that has failed leaves the bank as it was. -/
theorem restored (h : o.Lone overdraft b₀ g b) (hs₀ : b₀.store.Sound) (hs : b.store.Sound)
    (hg : g.unit = none) (hidle : g.Idle) : b₀.Restored b :=
  ⟨hs, h.idle hidle, h.drafts hs₀ hg, h.patience, h.refusals⟩

/-- So does an order that is dropped. -/
theorem dropped (h : o.Lone overdraft b₀ g b) (hs₀ : b₀.store.Sound) (hs : b.store.Sound) (hidle : g.Idle) :
    b₀.Restored { b with store := b.store.discardFrom b₀.store.nextDraft } := by
  have heq := Store.discardFrom_eq b.store b₀.store.nextDraft
  refine ⟨Store.Sound.invariant.discardFrom hs _, ?_, Table.ext_get? fun u => ?_, ?_, h.refusals⟩
  · rw [heq]
    exact h.idle hidle
  · rw [Store.discardFrom_get?]
    split
    · rename_i hu
      exact (hs₀.get?_eq_none_of_le hu).symm
    · exact h.old u (by omega)
  · rw [heq]
    exact h.patience

end Lone

/-- An order that nobody interferes with, after any of its steps. -/
theorem lone_of_path {m : Act (Except TransferError Receipt)} (hs : b₀.store.Sound)
    (hp : Timed.Path (o.execute terms).outcome b₀ m b) : ∃ g, b.store.Sound ∧
      o.Lone terms.overdraft b₀ g b ∧
      m.Follows (o.conduct Store.Sound terms.overdraft).rules (fun g r _ => o.Ends g r) g b := by
  obtain ⟨g, hm, hreach, hb⟩ := (o.follows_execute_sound terms b₀).path (J := fun b => b.store.Sound)
    (fun _ _ h => Conduct.others_refl h) (fun _ _ _ _ _ h => h.1) hp hs
  refine ⟨g, hb, ?_, hm⟩
  suffices h : ∀ y, (o.conduct Store.Sound terms.overdraft).rules.Reaches (.start, b₀) y →
      y.2.store.Sound ∧ o.Lone terms.overdraft b₀ y.1 y.2 from (h _ hreach).2
  intro y hy
  induction hy with
  | refl => exact ⟨hs, .start b₀ hs⟩
  | tail _ hown ih => exact ⟨hown.1, ih.2.turn ih.1 hown.2⟩

/-- An order that nobody interferes with is carried out, or nothing happens. -/
theorem ran (o : Order) (terms : Terms) (hs : b.store.Sound) :
    o.Ran terms b ((o.execute terms).outcome.run b) := by
  obtain ⟨g, ht, hlone, hends⟩ := lone_of_path hs (Timed.path_run (o.execute terms).outcome b)
  replace hends : o.Ends g ((o.execute terms).outcome.run b).value := hends
  refine ⟨ht, hlone.drafts hs hends.unit, hlone.patience, hlone.refusals, fun r hr => ?_, fun e he => ?_⟩
  · rw [hr] at hends
    cases hends
    exact hlone.posted r rfl
  · rw [he] at hends
    exact hlone.idle hends.idle

end Order

namespace Bank.Restored

theorem cleared (h : b₀.Restored b) (now now' : Time.Instant) :
    (b₀.cleared now).Restored (b.cleared now') :=
  ⟨(Store.Move.setting .none now' : Store.Move none _ _).sound h.sound, h.book, h.drafts, h.patience, h.refusals⟩

theorem foretell (h : b₀.Restored b) (o : Order) (terms : Terms) :
    o.foretell terms b = o.foretell terms b₀ := by
  have hrefusal : b.refusal? .opening none = b₀.refusal? .opening none := by
    rw [Bank.refusal?, Bank.refusal?, h.refusals]
  have hreach : b.store.reach = b₀.store.reach := by
    funext k
    have hfree : b.store.Free none k = b₀.store.Free none k := by
      rw [Store.Free, Store.Free, Store.holder?, Store.holder?, h.drafts]
    simp only [Store.reach, hfree, h.book]
  rw [Order.foretell, Order.foretell, hrefusal, hreach, h.book, h.patience]

/-- Without faults, an order comes to the same as before. -/
theorem again (h : b₀.Restored b) (hs : b₀.store.Sound) (hf₀ : b₀.store.faults = .none)
    (hf : b.store.faults = .none) (o : Order) (terms : Terms) :
    let t := (o.execute terms).outcome.run b
    let t₀ := (o.execute terms).outcome.run b₀
    t.value.map Receipt.content = t₀.value.map Receipt.content ∧
      t.state.store.book.Alike t₀.state.store.book := by
  intro t t₀
  have hvalue : t.value.map Receipt.accounts = t₀.value.map Receipt.accounts := by
    rw [Order.execute_alone h.sound hf, Order.execute_alone hs hf₀, h.foretell]
  have hb : b.store.book.Alike b₀.store.book := h.book ▸ .refl _
  have ht : o.Ran terms b t := o.ran terms h.sound
  have ht₀ : o.Ran terms b₀ t₀ := o.ran terms hs
  cases hv : t.value with
  | ok r =>
    rw [hv] at hvalue
    cases hv₀ : t₀.value with
    | ok r₀ =>
      rw [hv₀] at hvalue
      have haccounts : r.accounts = r₀.accounts := Except.ok.inj hvalue
      have hp := ht.ok r hv
      have hp₀ := ht₀.ok r₀ hv₀
      refine ⟨congrArg Except.ok ?_, hp.alike hp₀ haccounts hb⟩
      rw [hp.records.content, hp₀.records.content, haccounts]
    | error e =>
      rw [hv₀] at hvalue
      cases hvalue
  | error e =>
    rw [hv] at hvalue
    cases hv₀ : t₀.value with
    | ok r₀ =>
      rw [hv₀] at hvalue
      cases hvalue
    | error e₀ =>
      rw [hv₀] at hvalue
      refine ⟨congrArg Except.error (Except.error.inj hvalue), ?_⟩
      rw [ht.error e hv, ht₀.error e₀ hv₀]
      exact hb

end Bank.Restored

end Teller
