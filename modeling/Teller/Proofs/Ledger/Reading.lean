import Teller.Proofs.Ledger.Permanent
import Teller.Proofs.Work.Steps

/-!
# Reads of committed rows

Whatever others do at the bank, a read outside units of work changes nothing, and what it returns are the rows
that the book has in the step that answers it (`Bank.Reading.walk_act`).
-/

namespace Teller

/-- A request for committed rows. -/
inductive Bank.Reading where
  | account (id : Int)
  | accounts (owner : String) (page : Page)
  | transfer (id : Int)
  | transfers (account : Int) (page : Page)
  | entries (account : Int) (page : Page)

namespace Bank.Reading

/-- What the bank does for the request. -/
def act : Reading → Attempt StoreError (List Row)
  | .account id => do return [.account (← Bank.account id)]
  | .accounts owner page => do return (← Bank.accounts owner page).map .account
  | .transfer id => do return [.transfer (← Bank.transfer id)]
  | .transfers id page => do return (← Bank.transfers id page).map .transfer
  | .entries id page => do return (← Bank.entries id page).map .entry

/-- The rows of a book that are asked for. -/
def rows (b : Book) : Reading → Except StoreError (List Row)
  | .account id => (b.account id).map fun a => [.account a]
  | .accounts owner page => .ok ((page.cut (b.accountsOf owner)).map .account)
  | .transfer id => (b.transfer id).map fun t => [.transfer t]
  | .transfers id page => .ok ((page.cut (b.transfersOf id)).map .transfer)
  | .entries id page => .ok ((page.cut (b.entriesOf id)).map .entry)

end Bank.Reading

theorem Page.mem_of_mem_cut {α : Type} {page : Page} {rows : List α} {x : α} (h : x ∈ page.cut rows) : x ∈ rows :=
  List.mem_of_mem_drop (List.mem_of_mem_take h)

variable {α β : Type} {l : List (Bank × Bank)}

/-! ### Walks -/

open Timed

theorem Attempt.walk_map {ε : Type} {m : Attempt ε α} {g : α → β} {r : Except ε β}
    (h : Walk (do return g (← m) : Attempt ε β).run l (.done r)) : ∃ x, r = x.map g ∧ Walk m.run l (.done x) := by
  rcases walk_bind h with ⟨e, rfl, hm⟩ | ⟨l₁, l₂, a, rfl, hm, hlast⟩
  · exact ⟨.error e, rfl, hm⟩
  · obtain ⟨rfl, hr⟩ := hlast.of_done
    rw [List.append_nil]
    exact ⟨.ok a, Timed.done.inj hr, hm⟩

namespace Bank

open Attempt

/-- The steps of a read leave the bank as it is, and the last one of them finds what is returned. -/
theorem walk_read {request : Request} {row : Option Int} {f : Store → Except StoreError α} {g : α → β}
    {r : Except StoreError β} (h : Walk (do
        let a ← (do receive request row; Attempt.look f : Attempt StoreError α)
        return g a : Attempt StoreError β).run l (.done r)) :
    (∀ s ∈ l, s.2 = s.1) ∧ ∀ x, r = .ok x → ∃ earlier b, l = earlier ++ [(b, b)] ∧ (f b.store).map g = .ok x := by
  have hreceive : (receive request row).run.Only (fun b b' => b' = b) fun _ => True := only_receive fun _ => rfl
  obtain ⟨r, rfl, hread⟩ := walk_map h
  rcases walk_bind hread with ⟨e, rfl, herror⟩ | ⟨l₁, l₂, _, rfl, hreceived, hlook⟩
  · refine ⟨(hreceive.walk (fun _ => rfl) herror).1, ?_⟩
    rintro x ⟨⟩
  · obtain ⟨b, rfl, rfl⟩ := walk_store (f := fun s => (f s, s)) hlook
    have hkept := (hreceive.walk (fun _ => rfl) hreceived).1
    refine ⟨List.forall_mem_append.2 ⟨hkept, List.forall_mem_singleton.2 rfl⟩, fun x hx => ?_⟩
    exact ⟨l₁, b, rfl, hx⟩

namespace Reading

variable {α : Type} {q : Reading} {b : Book} {rows : List Row} {r : Row}

theorem walk_act {r : Except StoreError (List Row)} (h : Walk q.act.run l (.done r)) : (∀ s ∈ l, s.2 = s.1) ∧
    ∀ rows, r = .ok rows → ∃ earlier b, l = earlier ++ [(b, b)] ∧ q.rows b.store.book = .ok rows := by
  cases q with
  | account id => exact walk_read h
  | accounts owner page => exact walk_read h
  | transfer id => exact walk_read h
  | transfers id page => exact walk_read h
  | entries id page => exact walk_read h

theorem committed_of_cut (kind : α → Row) {page : Page} {p : α → Bool} {t : Table α}
    (hkind : ∀ x ∈ t.values, (kind x).Committed b) (hr : r ∈ (page.cut (t.values.filter p)).map kind) :
    r.Committed b := by
  obtain ⟨x, hx, rfl⟩ := List.mem_map.1 hr
  exact hkind x (List.mem_of_mem_filter (Page.mem_of_mem_cut hx))

theorem committed_of_one (kind : α → Row) {x : Except StoreError α} (hkind : ∀ a, x = .ok a → (kind a).Committed b)
    (hrows : (x.map fun a => [kind a]) = .ok rows) (hr : r ∈ rows) : r.Committed b := by
  cases x with
  | error e => cases hrows
  | ok a =>
    obtain rfl := Except.ok.inj hrows
    rw [List.mem_singleton.1 hr]
    exact hkind a rfl

/-- Whatever is asked for, it is committed. -/
theorem committed_of_rows (hrows : q.rows b = .ok rows) (hr : r ∈ rows) : r.Committed b := by
  cases q with
  | account id =>
    exact committed_of_one .account (fun a ha => Table.mem_values_of_get? (Book.account_eq_ok_iff.1 ha)) hrows hr
  | transfer id =>
    refine committed_of_one .transfer (fun t ht => ?_) hrows hr
    unfold Book.transfer at ht
    split at ht
    · rename_i x hx
      cases ht
      exact Table.mem_values_of_get? hx
    · cases ht
  | accounts owner page =>
    obtain rfl := Except.ok.inj hrows
    exact committed_of_cut .account (t := b.accounts) (fun _ ha => ha) hr
  | transfers id page =>
    obtain rfl := Except.ok.inj hrows
    exact committed_of_cut .transfer (t := b.transfers) (fun _ ht => ht) hr
  | entries id page =>
    obtain rfl := Except.ok.inj hrows
    exact committed_of_cut .entry (t := b.entries) (fun _ he => he) hr

end Reading

end Bank

end Teller
