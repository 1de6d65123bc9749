import Teller.Proofs.Bank.Alone
import Teller.Proofs.Bank.Inside
import Teller.Proofs.Ledger.Permanent

/-!
# What work writes

The rows that the calls of some work return when nobody interferes (`Work.written`) are the rows that its unit
stages: to publish its draft is to write them into the book one after the other (`Draft.Holds`), whatever has
failed in between, because a call that fails stages nothing.
-/

namespace Teller

/-- The book with a row in its place. -/
def Book.write (b : Book) : Row → Book
  | .account a => { b with accounts := b.accounts.put a.id a }
  | .entry e => { b with entries := b.entries.put e.id e }
  | .transfer t => { b with transfers := b.transfers.put t.id t }

/-- The row that a call returns, if it succeeds. -/
def Row.returned {α : Type} (row : α → Row) : Except StoreError α → List Row
  | .ok a => [row a]
  | .error _ => []

/-- The rows that the calls of the work return, one after the other, while nobody else is at the bank. -/
def Work.written {α : Type} (unit : Int) : Work α → Bank → List Row
  | .done _, _ => []
  | .rest span next, b => next.written unit ((Timed.sleep span : Act Unit).run b).state
  | .readAccount id next, b =>
    let t := (Bank.accountIn unit id).outcome.run b
    (next t.value).written unit t.state
  | .openAccount owner balance currency next, b =>
    let t := (Bank.openAccountIn unit owner balance currency).outcome.run b
    Row.returned .account t.value ++ (next t.value).written unit t.state
  | .writeTransfer source target amount next, b =>
    let t := (Bank.writeTransferIn unit source target amount).outcome.run b
    Row.returned .transfer t.value ++ (next t.value).written unit t.state
  | .writeEntry account amount next, b =>
    let t := (Bank.writeEntryIn unit account amount).outcome.run b
    Row.returned .entry t.value ++ (next t.value).written unit t.state
  | .adjust id delta floor next, b =>
    let t := (Bank.adjustIn unit id delta floor).outcome.run b
    Row.returned .account t.value ++ (next t.value).written unit t.state

/-- The draft consists of these rows, the later ones in place of earlier ones. -/
structure Draft.Holds (d : Draft) (rows : List Row) : Prop where
  key : ∀ {k a}, d.accounts.get? k = some a → a.id = k
  publish : ∀ b, d.publish b = rows.foldl Book.write b

namespace Draft.Holds

variable {d : Draft} {rows : List Row}

theorem empty : Draft.empty.Holds [] :=
  ⟨by rintro k a ⟨⟩, fun _ => rfl⟩

theorem transfer (h : d.Holds rows) (t : Transfer) :
    Draft.Holds { d with transfers := d.transfers ++ [t] } (rows ++ [.transfer t]) := by
  refine ⟨h.key, fun b => ?_⟩
  rw [List.foldl_append, ← h.publish]
  simp only [Draft.publish, List.foldl_append, List.foldl_cons, List.foldl_nil, Book.write]

theorem entry (h : d.Holds rows) (e : Entry) :
    Draft.Holds { d with entries := d.entries ++ [e] } (rows ++ [.entry e]) := by
  refine ⟨h.key, fun b => ?_⟩
  rw [List.foldl_append, ← h.publish]
  simp only [Draft.publish, List.foldl_append, List.foldl_cons, List.foldl_nil, Book.write]

theorem account (h : d.Holds rows) (a : Account) :
    Draft.Holds { d with accounts := d.accounts.put a.id a } (rows ++ [.account a]) := by
  have hkey : ∀ {k x}, (d.accounts.put a.id a).get? k = some x → x.id = k := fun hx => by
    rcases Table.get?_put_eq_some_iff.1 hx with ⟨rfl, rfl⟩ | ⟨-, hx⟩
    · rfl
    · exact h.key hx
  refine ⟨hkey, fun b => ?_⟩
  have haccounts : (Draft.publish { d with accounts := d.accounts.put a.id a } b).accounts =
      (d.publish b).accounts.put a.id a := by
    refine Table.ext_get? fun k => ?_
    rw [Draft.publish_account hkey, Draft.account?, Table.get?_put, Table.get?_put,
      Draft.publish_account h.key, Draft.account?]
    split <;> rfl
  rw [List.foldl_append, ← h.publish]
  exact congrArg (fun t => Book.mk t (d.publish b).entries (d.publish b).transfers) haccounts

end Draft.Holds

/-- The unit's draft consists of these rows; accounts stand at their numbers. -/
structure Store.Holds (u : Int) (rows : List Row) (s : Store) : Prop where
  key : ∀ {k a}, s.book.accounts.get? k = some a → a.id = k
  draft : ∃ d, s.drafts.get? u = some d ∧ d.Holds rows

namespace Store.Holds

variable {s s' : Store} {u : Int} {rows rows' : List Row}

theorem setDraft {d : Draft} (h : s.Holds u rows) (hbook : s'.book = s.book) (hd : d.Holds rows') :
    (s'.setDraft u d).Holds u rows' where
  key ha := h.key (hbook ▸ ha)
  draft := ⟨d, Table.get?_put_self _ _ _, hd⟩

/-- Nothing is written by a call that fails. -/
theorem returned_error {α : Type} {row : α → Row} {e : StoreError} (h : s.Holds u rows) :
    s.Holds u (rows ++ Row.returned row (.error e)) := by
  rwa [Row.returned, List.append_nil]

theorem lock (h : s.Holds u rows) (k : Int) : (s.lock u k).Holds u rows := by
  -- to lock a row puts the draft back with another lock, and its rows as they are
  obtain ⟨d, hd, hrows⟩ := h.draft
  rcases lock_cases hd k with ⟨-, heq⟩ | ⟨-, heq⟩ <;> rw [heq]
  · exact h
  · exact h.setDraft rfl ⟨hrows.key, hrows.publish⟩

theorem stageAccount (h : s.Holds u rows) (owner : String) (balance : Int) (currency : Currency) :
    (s.stageAccount u owner balance currency).2.Holds u
      (rows ++ Row.returned .account (s.stageAccount u owner balance currency).1) := by
  obtain ⟨d, hd, hrows⟩ := h.draft
  rcases stageAccount_cases hd owner balance currency with ⟨e, heq⟩ | ⟨a, -, -, -, -, -, heq⟩ <;> rw [heq]
  · exact h.returned_error
  · exact h.setDraft rfl (hrows.account a)

theorem stageTransfer (h : s.Holds u rows) (source target amount : Int) :
    (s.stageTransfer u source target amount).2.Holds u
      (rows ++ Row.returned .transfer (s.stageTransfer u source target amount).1) := by
  obtain ⟨d, hd, hrows⟩ := h.draft
  rcases stageTransfer_cases hd source target amount with ⟨e, heq⟩ | ⟨-, -, -, t, -, -, -, -, heq⟩ <;> rw [heq]
  · exact h.returned_error
  · exact h.setDraft rfl (hrows.transfer t)

theorem stageEntry (h : s.Holds u rows) (account amount : Int) :
    (s.stageEntry u account amount).2.Holds u
      (rows ++ Row.returned .entry (s.stageEntry u account amount).1) := by
  obtain ⟨d, hd, hrows⟩ := h.draft
  rcases stageEntry_cases hd account amount with ⟨e, heq⟩ | ⟨-, e, -, -, -, heq⟩ <;> rw [heq]
  · exact h.returned_error
  · exact h.setDraft rfl (hrows.entry e)

theorem adjust (h : s.Holds u rows) (k delta : Int) (floor : Bool) :
    (s.adjust u k delta floor).2.Holds u (rows ++ Row.returned .account (s.adjust u k delta floor).1) := by
  obtain ⟨d, hd, hrows⟩ := h.draft
  rcases adjust_cases hd k delta floor with ⟨e, heq⟩ | ⟨a, b, -, -, heq⟩ <;> rw [heq]
  · exact h.returned_error
  · exact h.setDraft rfl (hrows.account b)

end Store.Holds

/-! ### Calls -/

namespace Bank

variable {b : Bank} {u : Int} {rows : List Row} {α : Type}

/-- A point is passed, or the call fails there; nothing of the store changes but its faults. -/
theorem pass_run (p : Point) (b : Bank) : b.Passing ((pass p).run.run b).state ∧
    (((pass p).run.run b).value = .ok () ∨ ((pass p).run.run b).value = .error (.injectedAt p)) :=
  Timed.Only.run (passing_pass p) .refl (fun _ _ _ => .trans) b

theorem holds_passing {b' : Bank} (h : b.store.Holds u rows) (hp : b.Passing b') : b'.store.Holds u rows := by
  obtain ⟨faults, hs⟩ := hp
  rw [hs]
  exact ⟨h.key, h.draft⟩

theorem holds_staging {p : Point} {f : Store → Except StoreError α × Store} {row : α → Row}
    (hf : ∀ s : Store, s.Holds u rows → (f s).2.Holds u (rows ++ Row.returned row (f s).1))
    (h : b.store.Holds u rows) :
    let t := (do pass p; Attempt.store f : Attempt StoreError α).run.run b
    t.state.store.Holds u (rows ++ Row.returned row t.value) := by
  obtain ⟨hp, hv⟩ := pass_run p b
  have hpassed := holds_passing h hp
  dsimp only
  rcases hv with hv | hv
  · rw [Attempt.run_bind_of_ok hv]
    exact hf _ hpassed
  · rw [Attempt.run_bind_of_error hv]
    exact hpassed.returned_error

theorem holds_adjustIn (h : b.store.Holds u rows) (k delta : Int) (floor : Bool) :
    let t := (adjustIn u k delta floor).run.run b
    t.state.store.Holds u (rows ++ Row.returned .account t.value) := by
  obtain ⟨hp, hv⟩ := pass_run .addBalance b
  have hpassed := holds_passing h hp
  unfold adjustIn
  dsimp only
  -- a call that fails at its point or waits for the row in vain has returned no row
  rcases hv with hv | hv
  · rw [Attempt.run_bind_of_ok hv]
    have hlock := lockRow_alone u k ((pass .addBalance).run.run b).state
    split at hlock
    · rw [Attempt.run_bind_ok hlock]
      exact (hpassed.lock k).adjust k delta floor
    · rw [Attempt.run_bind_error hlock]
      exact hpassed.returned_error
  · rw [Attempt.run_bind_of_error hv]
    exact hpassed.returned_error

end Bank

/-- The unit's draft consists of the rows that the calls of its work have returned. -/
theorem Work.holds_run {α : Type} (u : Int) (work : Work α) {b : Bank} {rows : List Row} (h : b.store.Holds u rows) :
    ((work.run u).run.run b).state.store.Holds u (rows ++ work.written u b) := by
  induction work generalizing b rows with
  | done r => rwa [written, List.append_nil]
  | rest span next ih =>
    rw [run, Attempt.state_sure_bind, written]
    exact ih h
  | readAccount id next ih =>
    rw [run, Attempt.state_sure_bind, written]
    exact ih _ h
  | openAccount owner balance currency next ih =>
    rw [run, Attempt.state_sure_bind, written, ← List.append_assoc]
    exact ih _ (Bank.holds_staging (fun s hs => hs.stageAccount owner balance currency) h)
  | writeTransfer source target amount next ih =>
    rw [run, Attempt.state_sure_bind, written, ← List.append_assoc]
    exact ih _ (Bank.holds_staging (fun s hs => hs.stageTransfer source target amount) h)
  | writeEntry account amount next ih =>
    rw [run, Attempt.state_sure_bind, written, ← List.append_assoc]
    exact ih _ (Bank.holds_staging (fun s hs => hs.stageEntry account amount) h)
  | adjust id delta floor next ih =>
    rw [run, Attempt.state_sure_bind, written, ← List.append_assoc]
    exact ih _ (Bank.holds_adjustIn h id delta floor)

end Teller
