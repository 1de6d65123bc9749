import Teller.Bank.Basic
import Teller.Proofs.Table
import Teller.Proofs.Timed.Step

/-!
# Traffic

Calls at one bank at the same time. A step of the traffic is one step of one call, so the steps of
different calls interleave in any order. A call may be dropped wherever it waits; the units of work
that it has opened end then without a trace. Faults, refusals and the time may change at any moment.
-/

namespace Teller

/-- A call that has come in. -/
structure Flight (κ α : Type) where
  call : κ
  /-- What is left to be done. -/
  rest : Act α
  units : List Int

/-- A bank and the calls that have come in, by number. -/
structure Traffic (κ α : Type) where
  bank : Bank
  flights : Table (Flight κ α)
  /-- The number of the next call. -/
  next : Int

/-- Something that happens to a bank. -/
inductive Happening (κ : Type) where
  | arrival (n : Int) (call : κ)
  /-- A call goes one step ahead. -/
  | move (n : Int) (call : κ) (before after : Bank)
  | departure (n : Int) (call : κ)
  /-- Other faults or refusals are asked for, or time goes by. -/
  | change

/-- The units of work that are open and have a number from this one on. -/
def Store.opened (s : Store) (first : Int) : List Int :=
  (s.drafts.rows.map (·.1)).filter fun u => decide (first ≤ u)

theorem Store.mem_opened {s : Store} {first u : Int} :
    u ∈ s.opened first ↔ first ≤ u ∧ s.drafts.get? u ≠ none := by
  rw [opened, List.mem_filter, decide_eq_true_eq, and_comm, Option.ne_none_iff_exists']
  simp [Table.mem_rows_iff]

/-- Ends units of work without a trace. -/
def Store.discardAll (s : Store) (units : List Int) : Store :=
  units.foldl discard s

/-- What the end of a unit of work keeps is kept by the end of many. -/
theorem Store.discardAll_induct {J : Store → Prop} (hJ : ∀ s u, J s → J (s.discard u)) {s : Store} (hs : J s)
    (units : List Int) : J (s.discardAll units) := by
  induction units generalizing s with
  | nil => exact hs
  | cons u units ih => exact ih (hJ s u hs)

theorem Store.discardAll_book (units : List Int) (s : Store) : (s.discardAll units).book = s.book := by
  induction units generalizing s with
  | nil => rfl
  | cons u units ih => exact ih (s.discard u)

theorem Store.discardAll_get? (units : List Int) (s : Store) (u : Int) :
    (s.discardAll units).drafts.get? u = if u ∈ units then none else s.drafts.get? u := by
  induction units generalizing s with
  | nil => simp [discardAll]
  | cons v units ih =>
    have hv : (s.discard v).drafts.get? u = if v = u then none else s.drafts.get? u :=
      Table.get?_erase _ _ _
    show ((s.discard v).discardAll units).drafts.get? u = _
    rw [ih, hv]
    by_cases hu : u ∈ units <;> simp [hu, eq_comm]

namespace Traffic

variable {κ α : Type}

/-- A bank without calls. -/
def quiet (b : Bank) : Traffic κ α :=
  ⟨b, .empty, 0⟩

/-- The reply to a call that is over. -/
def reply? (w : Traffic κ α) (n : Int) : Option α :=
  match w.flights.get? n with
  | some ⟨_, .done r, _⟩ => some r
  | _ => none

/-- One step of the traffic; `act` says what a call is. -/
inductive Step (act : κ → Act α) : Traffic κ α → Happening κ → Traffic κ α → Prop
  | arrival {w : Traffic κ α} (c : κ) :
    Step act w (.arrival w.next c)
      { w with flights := w.flights.put w.next ⟨c, act c, []⟩, next := w.next + 1 }
  | move {w : Traffic κ α} {n : Int} {f : Flight κ α} {m : Act α} {b : Bank}
    (hf : w.flights.get? n = some f) (hm : Timed.Step f.rest w.bank m b) :
    Step act w (.move n f.call w.bank b)
      { w with
        bank := b
        flights := w.flights.put n ⟨f.call, m, f.units ++ b.store.opened w.bank.store.nextDraft⟩ }
  | departure {w : Traffic κ α} {n : Int} {f : Flight κ α} (hf : w.flights.get? n = some f)
    (hw : f.rest.Waits) :
    Step act w (.departure n f.call)
      { w with
        bank := { w.bank with store := w.bank.store.discardAll f.units }
        flights := w.flights.erase n }
  | change {w : Traffic κ α} (faults : Faults) (now : Time.Instant) (refusals : List Bank.Refusal) :
    Step act w .change
      { w with
        bank :=
          { w.bank with
            store := { w.bank.store with faults := faults, now := now }
            refusals := refusals } }

/-- Any number of steps from a bank without calls, with what happened, latest first. -/
inductive Run (act : κ → Act α) (b : Bank) : List (Happening κ) → Traffic κ α → Prop
  | start : Run act b [] (quiet b)
  | step {h : List (Happening κ)} {e : Happening κ} {w w' : Traffic κ α} (hr : Run act b h w)
    (hs : Step act w e w') : Run act b (e :: h) w'

variable {act : κ → Act α} {b : Bank} {h : List (Happening κ)} {e : Happening κ} {w w' : Traffic κ α} {n : Int}

theorem of_reply?_eq_some {x : α} (h : w.reply? n = some x) :
    ∃ f, w.flights.get? n = some f ∧ f.rest = .done x := by
  unfold reply? at h
  split at h
  · rename_i c r units hf
    cases h
    exact ⟨_, hf, rfl⟩
  · cases h

/-! ### Numbers of calls -/

theorem Step.next_le (hs : Step act w e w') : w.next ≤ w'.next := by
  cases hs with
  | arrival c => exact Int.le_of_lt (Int.lt_succ _)
  | _ => exact Int.le_refl _

theorem Run.arrived (hr : Run act b h w) {f : Flight κ α} (hf : w.flights.get? n = some f) :
    .arrival n f.call ∈ h := by
  induction hr generalizing f with
  | start => cases hf
  | @step h e w w' hr hs ih =>
    cases hs with
    | arrival c =>
      rcases Table.get?_put_eq_some_iff.1 hf with ⟨rfl, rfl⟩ | ⟨-, hf⟩
      · exact List.mem_cons_self
      · exact List.mem_cons_of_mem _ (ih hf)
    | move hf₀ hm =>
      rcases Table.get?_put_eq_some_iff.1 hf with ⟨rfl, rfl⟩ | ⟨-, hf⟩
      · have hmem := ih hf₀
        exact List.mem_cons_of_mem _ hmem
      · exact List.mem_cons_of_mem _ (ih hf)
    | departure => exact List.mem_cons_of_mem _ (ih (Table.get?_erase_eq_some_iff.1 hf).2)
    | change => exact List.mem_cons_of_mem _ (ih hf)

/-! ### Calls one after the other -/

/-- A call that nobody else interferes with takes any steps that it can take alone. -/
theorem Run.moves (hr : Run act b h w) {f : Flight κ α} (hf : w.flights.get? n = some f) {m : Act α}
    {b' : Bank} (hp : Timed.Path f.rest w.bank m b') : ∃ l w' f', Run act b (l ++ h) w' ∧
      (∀ e ∈ l, ∃ s s', e = .move n f.call s s') ∧ w'.bank = b' ∧ w'.flights.get? n = some f' ∧
      f'.call = f.call ∧ f'.rest = m ∧ ∀ k, k ≠ n → w'.flights.get? k = w.flights.get? k := by
  obtain ⟨c, rest, units⟩ := f
  obtain ⟨bank, flights, next⟩ := w
  dsimp only at hf hp ⊢
  induction hp generalizing h flights units with
  | refl => exact ⟨[], _, _, hr, (by simp), rfl, hf, rfl, rfl, fun _ _ => rfl⟩
  | @head m₀ m' k s t u hs _ ih =>
    obtain ⟨l, w', f', hr', hl, hb, hf', hc, hm, hothers⟩ :=
      ih _ _ (hr.step (.move hf hs)) (Table.get?_put_self _ _ _)
    refine ⟨l ++ [.move n c s t], w', f', by simpa using hr', fun e he => ?_, hb, hf', hc, hm, fun k hk => ?_⟩
    · rcases List.mem_append.1 he with he | he
      · exact hl e he
      · exact ⟨s, t, List.mem_singleton.1 he⟩
    · rw [hothers k hk, Table.get?_put_of_ne hk]

theorem Run.path (hr : Run act b h w) {f : Flight κ α} (hf : w.flights.get? n = some f) {m : Act α}
    {b' : Bank} (hp : Timed.Path f.rest w.bank m b') : ∃ h' w' f', Run act b h' w' ∧ h <:+ h' ∧
      w'.bank = b' ∧ w'.flights.get? n = some f' ∧ f'.call = f.call ∧ f'.rest = m ∧
      ∀ k, k ≠ n → w'.flights.get? k = w.flights.get? k := by
  obtain ⟨l, w', f', hr', -, hrest⟩ := hr.moves hf hp
  exact ⟨l ++ h, w', f', hr', List.suffix_append l h, hrest⟩

/-- After any traffic, one more call that nobody interferes with. -/
theorem Run.alone_arrivals (hr : Run act b h w) (c : κ) : ∃ h' w', Run act b h' w' ∧
    w'.bank = ((act c).run w.bank).state ∧ w'.reply? w.next = some ((act c).run w.bank).value ∧
    ∀ n c', .arrival n c' ∈ h' → c' = c ∨ .arrival n c' ∈ h := by
  obtain ⟨l, w', ⟨c', m, units⟩, hr', hl, hb, hf, -, rfl, -⟩ := (hr.step (.arrival c)).moves
    (Table.get?_put_self _ _ _) (Timed.path_run (act c) w.bank)
  refine ⟨_, w', hr', hb, ?_, fun n c' hn => ?_⟩
  · simp only [reply?, hf]
  · rcases List.mem_append.1 hn with hn | hn
    · obtain ⟨s, s', he⟩ := hl _ hn
      cases he
    · exact (List.mem_cons.1 hn).imp_left fun he => (Happening.arrival.inj he).2

theorem Run.alone (hr : Run act b h w) (c : κ) : ∃ h' w', Run act b h' w' ∧
    w'.bank = ((act c).run w.bank).state ∧ w'.reply? w.next = some ((act c).run w.bank).value := by
  obtain ⟨h', w', hr', hb, hx, -⟩ := hr.alone_arrivals c
  exact ⟨h', w', hr', hb, hx⟩

end Traffic

end Teller
