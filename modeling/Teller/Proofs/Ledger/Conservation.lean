import Teller.Proofs.Bank.History
import Teller.Proofs.Ledger.Balanced

/-!
# Conservation of money

Whatever transfers, openings and removals of accounts go on at the same time, and whatever goes wrong
with them, the committed rows are balanced at every moment: each account has what it was opened with
and what its entries say, entries come in pairs that belong to a transfer, and the bank holds what the
accounts were opened with.
-/

namespace Teller

variable {patience : Time.Span} {now : Time.Instant} {h : List (Happening Call)}
  {w : Traffic Call Reply} {n : Int} {c : Call} {b b' : Bank} {a : Account}

/-! ### Opening balances -/

theorem opening_move_of_contains
    (hc : ∀ k, b'.store.book.accounts.contains k = true → b.store.book.accounts.contains k = true) :
    opening (.move n c b b' :: h) = opening h := by
  funext k
  rw [opening, if_neg]
  rintro ⟨hk, hk'⟩
  rw [hc k hk'] at hk
  cases hk

theorem opening_move_of_opens (ho : Book.Opens c.opening a b.store.book b'.store.book) (k : Int) :
    opening (.move n c b b' :: h) k = if k = a.id then c.opening else opening h k := by
  rw [opening, ho.book]
  by_cases hk : k = a.id
  · rw [if_pos hk, if_pos]
    rw [hk]
    exact ⟨by rw [Table.contains, ho.newAccount]; rfl, by rw [Table.contains, Table.get?_put_self]; rfl⟩
  · rw [if_neg hk, if_neg]
    rintro ⟨hnone, hsome⟩
    rw [Table.contains, Table.get?_put, if_neg (Ne.symm hk)] at hsome
    rw [Table.contains, hsome] at hnone
    cases hnone

/-! ### Runs -/

/-- What can be said of a book and of what its accounts were opened with, and is kept by each change that
certain calls make. -/
structure Book.Kept (calls : Call → Prop) (J : (Int → Int) → Book → Prop) : Prop where
  post : ∀ {c f b b' o r}, calls c → (∀ {k a}, b.accounts.get? k = some a → a.id = k) →
    Order.Posts o c.overdraft r b b' → J f b → J f b'
  opens : ∀ {f f' b b' balance a}, Book.Opens balance a b b' →
    (∀ k, f' k = if k = a.id then balance else f k) → J f b → J f' b'
  removes : ∀ {f b b' id}, Book.Removes id b b' → J f b → J f b'

/-- It holds at every moment if it holds of the empty book. -/
theorem Traffic.Run.keeps {calls : Call → Prop} {J : (Int → Int) → Book → Prop} (hJ : Book.Kept calls J)
    (hempty : J (fun _ => 0) .empty) (hr : Traffic.Run Call.act (Bank.new patience now) h w)
    (hcalls : ∀ n c, .arrival n c ∈ h → calls c) : J (opening h) w.bank.store.book := by
  have hnew : Call.protocol.inv (Bank.new patience now).store := Store.Sound.new patience now
  induction hr with
  | start => exact hempty
  | @step h e w w' hr hs ih =>
    have hj := ih fun n c hc => hcalls n c (List.mem_cons_of_mem _ hc)
    cases hs with
    | arrival c => exact hj
    | @departure n f hf hwait =>
      show J (opening h) (w.bank.store.discardAll f.units).book
      rwa [Store.discardAll_book]
    | change => exact hj
    | @move n f m b hf hm =>
      have hc := hcalls n f.call (List.mem_cons_of_mem _ (hr.arrived hf))
      obtain ⟨g, g', hsound, hturn⟩ :=
        (hr.step (.move hf hm)).turn Call.kept hnew List.mem_cons_self
      have hid {k a} (ha : w.bank.store.book.accounts.get? k = some a) : a.id = k :=
        (Store.Sound.account hsound ha).1
      -- only the step that gives the call its verdict touches the book
      rcases hturn.quiet_or_effect with ⟨hq, -⟩ | ⟨x, -, -, hx⟩
      · rw [opening_move_of_contains fun k hk => by rwa [hq.book] at hk]
        exact hq.book ▸ hj
      · rcases Call.effect_book hx with ⟨o, r, hp⟩ | ⟨a, ho⟩ | ⟨id, hrem⟩ | hbook
        · rw [opening_move_of_contains fun k hk => by rwa [hp.contains hid] at hk]
          exact hJ.post hc hid hp hj
        · exact hJ.opens ho (opening_move_of_opens ho) hj
        · rw [opening_move_of_contains fun k hk => by
            rw [hrem.book, Table.contains, Table.get?_erase] at hk
            split at hk
            · cases hk
            · exact hk]
          exact hJ.removes hrem hj
        · rw [opening_move_of_contains fun k hk => by rwa [hbook] at hk]
          exact hbook ▸ hj

theorem Traffic.Run.balanced (hr : Traffic.Run Call.act (Bank.new patience now) h w) :
    ∃ stage, Call.protocol.Orderly stage w ∧ w.bank.store.book.Balanced (opening h) := by
  have hnew : Call.protocol.inv (Bank.new patience now).store := Store.Sound.new patience now
  obtain ⟨stage, hw, -⟩ := hr.recorded Call.kept hnew
  have hkept : Book.Kept (fun _ => True) fun f b => b.Balanced f := by
    constructor
    case post => exact fun _ _ hp hb => hb.post hp
    case opens => exact fun ho hf hb => hb.opens ho hf
    case removes => exact fun hrem hb => hb.removes hrem
  exact ⟨stage, hw, hr.keeps hkept Book.balanced_empty fun _ _ _ => trivial⟩

/-- Ann and Bob open accounts, and an order is carried out. -/
theorem exists_run_order (ann bob : Int) (o : Order) :
    ∃ h w, Traffic.Run Call.act (Bank.new (.millis 5000) .epoch) h w ∧
      w.bank = ((Call.transfer o ⟨false, none⟩).act.run
        ((Call.createAccount "bob" bob .cad).act.run
          ((Call.createAccount "ann" ann .cad).act.run (.new (.millis 5000) .epoch)).state).state).state := by
  have hr : Traffic.Run Call.act (.new (.millis 5000) .epoch) [] (.quiet _) := .start
  obtain ⟨h₁, w₁, hr₁, hb₁, -⟩ := hr.alone (.createAccount "ann" ann .cad)
  obtain ⟨h₂, w₂, hr₂, hb₂, -⟩ := hr₁.alone (.createAccount "bob" bob .cad)
  obtain ⟨h₃, w₃, hr₃, hb₃, -⟩ := hr₂.alone (.transfer o ⟨false, none⟩)
  rw [hb₂, hb₁] at hb₃
  exact ⟨h₃, w₃, hr₃, hb₃⟩

/-- Two accounts are opened, and one pays the other. -/
theorem exists_run_transfer : ∃ h w, Traffic.Run Call.act (Bank.new (.millis 5000) .epoch) h w ∧
    w.bank = ((Call.transfer ⟨1, 2, 30⟩ ⟨false, none⟩).act.run
      ((Call.createAccount "bob" 0 .cad).act.run
        ((Call.createAccount "ann" 100 .cad).act.run (.new (.millis 5000) .epoch)).state).state).state :=
  exists_run_order 100 0 ⟨1, 2, 30⟩

/-- The balance of a committed account is what it was opened with, and what its entries moved. -/
theorem balance_eq_opening_add_entries (hr : Traffic.Run Call.act (Bank.new patience now) h w)
    (ha : a ∈ w.bank.store.book.accounts.values) :
    a.balance = opening h a.id + ((w.bank.store.book.entriesOf a.id).map (·.amount)).sum := by
  obtain ⟨stage, -, hb⟩ := hr.balanced
  obtain ⟨k, hk⟩ := Table.mem_values.1 ha
  rw [hb.account hk]
  exact hb.balance hk

theorem balance_after_transfer : ∃ h w, Traffic.Run Call.act (Bank.new (.millis 5000) .epoch) h w ∧
    ⟨1, "ann", 70, .cad, .epoch⟩ ∈ w.bank.store.book.accounts.values ∧
    70 = opening h 1 + ((w.bank.store.book.entriesOf 1).map (·.amount)).sum := by
  obtain ⟨h, w, hr, hb⟩ := exists_run_transfer
  have ha : ⟨1, "ann", 70, .cad, .epoch⟩ ∈ w.bank.store.book.accounts.values := by
    rw [hb]
    decide
  exact ⟨h, w, hr, ha, balance_eq_opening_add_entries hr ha⟩

/-- Committed transfers move a positive amount between two accounts, the committed entries are their
legs, and the balances add up to what the accounts were opened with. -/
theorem double_entry_and_conservation (hr : Traffic.Run Call.act (Bank.new patience now) h w) :
    (∀ t ∈ w.bank.store.book.transfers.values, 0 < t.amount ∧ t.source ≠ t.target) ∧
      (w.bank.store.book.entries.values.map fun e => (e.account, e.amount)).Perm
        (w.bank.store.book.transfers.values.flatMap fun t =>
          [(t.source, -t.amount), (t.target, t.amount)]) ∧
      (w.bank.store.book.accounts.values.map (·.balance)).sum =
        (w.bank.store.book.accounts.values.map fun a => opening h a.id).sum := by
  obtain ⟨stage, -, hb⟩ := hr.balanced
  refine ⟨fun t ht => ?_, hb.entries, hb.total⟩
  obtain ⟨k, hk⟩ := Table.mem_values.1 ht
  exact hb.transfer hk

theorem conservation_after_transfer : ∃ h w,
    Traffic.Run Call.act (Bank.new (.millis 5000) .epoch) h w ∧ w.bank.store.book.transfers.size = 1 ∧
    (w.bank.store.book.accounts.values.map (·.balance)).sum = 100 ∧
    (w.bank.store.book.accounts.values.map (·.balance)).sum =
      (w.bank.store.book.accounts.values.map fun a => opening h a.id).sum := by
  obtain ⟨h, w, hr, hb⟩ := exists_run_transfer
  refine ⟨h, w, hr, ?_, ?_, (double_entry_and_conservation hr).2.2⟩ <;>
  · rw [hb]
    decide

end Teller
