import Mathlib.Logic.Relation
import Teller.Proofs.Store.Sound

/-!
# Steps of the store

`Store.Move` lists the instantaneous steps that a store can take, each with the unit of work on whose
behalf it is taken. A step of one unit leaves every other unit's draft as it is, and the committed
rows that the other has locked (`Move.untouched`); that is all that a unit of work may count on.
-/

namespace Teller.Store

/-- A step of the store on behalf of a unit of work, or of none. -/
inductive Move : Option Int → Store → Store → Prop
  /-- Other faults are asked for, or time goes by. -/
  | setting {w : Option Int} {s : Store} (faults : Faults) (now : Time.Instant) :
    Move w s { s with faults := faults, now := now }
  | openDraft {w : Option Int} {s : Store} : Move w s s.openDraft.2
  | lock {s : Store} {u k : Int} {d : Draft} (hu : s.drafts.get? u = some d)
    (hk : s.Free (some u) k) : Move (some u) s (s.lock u k)
  | stageAccount {s : Store} {u : Int} {d : Draft} (hu : s.drafts.get? u = some d) (owner : String)
    (balance : Int) (currency : Currency) :
    Move (some u) s (s.stageAccount u owner balance currency).2
  | stageTransfer {s : Store} {u : Int} {d : Draft} (hu : s.drafts.get? u = some d)
    (source target amount : Int) : Move (some u) s (s.stageTransfer u source target amount).2
  | stageEntry {s : Store} {u : Int} {d : Draft} (hu : s.drafts.get? u = some d)
    (account amount : Int) : Move (some u) s (s.stageEntry u account amount).2
  /-- A balance is adjusted only under the row's lock. -/
  | adjust {s : Store} {u k : Int} {d : Draft} (hu : s.drafts.get? u = some d) (hk : k ∈ d.locks)
    (delta : Int) (floor : Bool) : Move (some u) s (s.adjust u k delta floor).2
  | publish {s : Store} {u : Int} {d : Draft} (hu : s.drafts.get? u = some d) :
    Move (some u) s (s.publish u).2
  | discard {s : Store} (u : Int) : Move (some u) s (s.discard u)
  /-- An account is removed only while nobody has its row locked. -/
  | remove {w : Option Int} {s : Store} {k : Int} (hk : s.Free none k) : Move w s (s.remove k).2

/-- A store that steps lead to from one without rows. -/
def Reachable (s : Store) : Prop :=
  ∃ patience now, Relation.ReflTransGen (fun s t => ∃ w, Move w s t) (Store.new patience now) s

/-- A property of the store that every step keeps that does not change the book. -/
structure Invariant (inv : Store → Prop) : Prop where
  sound : ∀ {s}, inv s → s.Sound
  quiet : ∀ {w s s'}, inv s → Move w s s' → s'.book = s.book → inv s'

/-- A unit of work finds its draft, and the rows that it has locked, as it left them. -/
structure Untouched (u : Int) (s s' : Store) : Prop where
  draft : s'.drafts.get? u = s.drafts.get? u
  row : ∀ {d}, s.drafts.get? u = some d → ∀ {k a}, k ∈ d.locks →
    s.book.accounts.get? k = some a → s'.book.accounts.get? k = some a

variable {w : Option Int} {u v k : Int} {d : Draft} {s s' s'' : Store}

namespace Untouched

theorem refl (u : Int) (s : Store) : Untouched u s s :=
  ⟨rfl, fun _ _ _ _ h => h⟩

theorem trans (h : Untouched u s s') (h' : Untouched u s' s'') : Untouched u s s'' where
  draft := h'.draft.trans h.draft
  row hd _ _ hk ha := h'.row (h.draft.trans hd) hk (h.row hd hk ha)

theorem of_book (hbook : s'.book = s.book) (hdraft : s'.drafts.get? u = s.drafts.get? u) :
    Untouched u s s' :=
  ⟨hdraft, fun _ _ _ _ h => hbook ▸ h⟩

theorem discard (hv : v ≠ u) (s : Store) : Untouched u s (s.discard v) :=
  of_book rfl (by rw [Store.discard, Table.get?_erase, if_neg hv])

end Untouched

theorem Sound.untouched_publish (h : s.Sound) (hu : s.drafts.get? u = some d) (huv : u ≠ v) :
    Untouched v s { s.discard u with book := d.publish s.book } := by
  have hd := h.draft hu
  refine ⟨(Untouched.discard huv s).draft, fun {e} hv {k a} hk ha => ?_⟩
  show (d.publish s.book).accounts.get? k = some a
  rw [hd.publish_account, Draft.account?]
  cases hkd : d.accounts.get? k with
  | none => exact ha
  | some b => exact absurd hk ((h.apart huv hu hv).locks (hd.original hkd ha).1)

theorem Sound.untouched_remove (h : s.Sound) (hk : s.Free none k) :
    Untouched v s { s with book := { s.book with accounts := s.book.accounts.erase k } } := by
  refine ⟨rfl, fun {e} hv {j a} hj ha => ?_⟩
  have hjk : j ≠ k := by
    rintro rfl
    cases h.free_iff.1 hk v e hv hj
  exact (Table.get?_erase_of_ne hjk).trans ha

/-- What a step does to the book and the drafts. -/
inductive Change (s : Store) : Option Int → Store → Prop
  /-- Whatever changes, it is neither a row nor a unit of work. -/
  | rest {w : Option Int} {s' : Store} (hbook : s'.book = s.book) (hdrafts : s'.drafts = s.drafts)
    (hn : s'.nextDraft = s.nextDraft) (hp : s'.patience = s.patience) : Change s w s'
  | opens {w : Option Int} : Change s w s.openDraft.2
  | stages {u : Int} {d e : Draft} {s' : Store} (hu : s.drafts.get? u = some d) (hbook : s'.book = s.book)
    (hdrafts : s'.drafts = s.drafts.put u e) (hn : s'.nextDraft = s.nextDraft)
    (hp : s'.patience = s.patience) : Change s (some u) s'
  | discards (u : Int) : Change s (some u) (s.discard u)
  | publishes {u : Int} {d : Draft} (hu : s.drafts.get? u = some d) :
    Change s (some u) { s.discard u with book := d.publish s.book }
  | removes {w : Option Int} {k : Int} (hk : s.Free none k) :
    Change s w { s with book := { s.book with accounts := s.book.accounts.erase k } }

namespace Move

theorem sound (h : Move w s s') (hs : s.Sound) : s'.Sound := by
  cases h with
  | setting f t =>
    exact ⟨hs.account, hs.entry, hs.transfer, hs.number,
      fun hu => (hs.draft hu).mono rfl (Int.le_refl _) (Int.le_refl _) (Int.le_refl _), hs.apart⟩
  | openDraft => exact hs.openDraft
  | lock hu hk => exact hs.lock hu hk
  | stageAccount hu o b c => exact hs.stageAccount hu o b c
  | stageTransfer hu a b c => exact hs.stageTransfer hu a b c
  | stageEntry hu a b => exact hs.stageEntry hu a b
  | adjust hu hk a b => exact hs.adjust hu hk a b
  | publish hu => exact hs.publish hu
  | discard u => exact hs.discard u
  | remove hk => exact hs.remove _

theorem change (h : Move w s s') : Change s w s' := by
  cases h with
  | setting f t => exact .rest rfl rfl rfl rfl
  | openDraft => exact .opens
  | lock hu hk =>
    rcases lock_cases hu _ with ⟨-, heq⟩ | ⟨-, heq⟩ <;> rw [heq]
    · exact .rest rfl rfl rfl rfl
    · exact .stages hu rfl rfl rfl rfl
  | stageAccount hu o b c =>
    rcases stageAccount_cases hu o b c with ⟨e, heq⟩ | ⟨a, -, -, -, -, -, heq⟩ <;> rw [heq]
    · exact .rest rfl rfl rfl rfl
    · exact .stages hu rfl rfl rfl rfl
  | stageTransfer hu a b c =>
    rcases stageTransfer_cases hu a b c with ⟨e, heq⟩ | ⟨-, -, -, t, -, -, -, -, heq⟩ <;> rw [heq]
    · exact .rest rfl rfl rfl rfl
    · exact .stages hu rfl rfl rfl rfl
  | stageEntry hu a b =>
    rcases stageEntry_cases hu a b with ⟨e, heq⟩ | ⟨-, e, -, -, -, heq⟩ <;> rw [heq]
    · exact .rest rfl rfl rfl rfl
    · exact .stages hu rfl rfl rfl rfl
  | @adjust _ u k d hu hk a b =>
    rcases adjust_cases hu k a b with ⟨e, heq⟩ | ⟨x, y, -, -, heq⟩ <;> rw [heq]
    · exact .rest rfl rfl rfl rfl
    · exact .stages hu rfl rfl rfl rfl
  | publish hu =>
    rcases publish_cases hu with ⟨e, heq⟩ | ⟨-, heq⟩ <;> rw [heq]
    · exact .discards _
    · exact .publishes hu
  | discard u => exact .discards u
  | @remove _ _ k hk =>
    rcases remove_cases s k with ⟨e, heq⟩ | ⟨-, -, heq⟩ <;> rw [heq]
    · exact .rest rfl rfl rfl rfl
    · exact .removes hk

/-- Other units of work find everything as they left it. -/
theorem untouched (h : Move w s s') (hs : s.Sound) (hw : w ≠ some v) (hv : v < s.nextDraft) :
    Untouched v s s' := by
  have hne : ∀ {u : Int}, w = some u → u ≠ v := fun hu hv => hw (hu.trans (hv ▸ rfl))
  cases h.change with
  | rest hbook hdrafts => exact .of_book hbook (hdrafts ▸ rfl)
  | opens => exact .of_book rfl (Table.get?_put_of_ne (by omega) _)
  | stages hu hbook hdrafts =>
    refine .of_book hbook ?_
    rw [hdrafts]
    exact Table.get?_put_of_ne (hne rfl).symm _
  | discards u => exact .discard (hne rfl) s
  | publishes hu => exact hs.untouched_publish hu (hne rfl)
  | removes hk => exact hs.untouched_remove hk

theorem nextDraft_le (h : Move w s s') : s.nextDraft ≤ s'.nextDraft := by
  cases h.change with
  | rest _ _ hn => exact Int.le_of_eq hn.symm
  | opens => exact Int.le_of_lt (Int.lt_succ _)
  | stages _ _ _ hn => exact Int.le_of_eq hn.symm
  | discards u => exact Int.le_refl _
  | publishes hu => exact Int.le_refl _
  | removes hk => exact Int.le_refl _

/-- Numbers of accounts are not taken back. -/
theorem nextAccount_le (h : Move w s s') : s.nextAccount ≤ s'.nextAccount := by
  cases h with
  | lock hu =>
    rcases lock_cases hu _ with ⟨-, heq⟩ | ⟨-, heq⟩ <;> exact Int.le_of_eq (congrArg (·.nextAccount) heq).symm
  | stageAccount hu owner balance currency =>
    rcases stageAccount_cases hu owner balance currency with ⟨e, heq⟩ | ⟨a, -, -, -, -, -, heq⟩
    · exact Int.le_of_eq (congrArg (·.2.nextAccount) heq).symm
    · rw [heq]
      exact Int.le_of_lt (Int.lt_succ _)
  | stageTransfer hu source target amount =>
    rcases stageTransfer_cases hu source target amount with ⟨e, heq⟩ | ⟨-, -, -, t, -, -, -, -, heq⟩ <;>
      exact Int.le_of_eq (congrArg (·.2.nextAccount) heq).symm
  | stageEntry hu account amount =>
    rcases stageEntry_cases hu account amount with ⟨e, heq⟩ | ⟨-, x, -, -, -, heq⟩ <;>
      exact Int.le_of_eq (congrArg (·.2.nextAccount) heq).symm
  | adjust hu hk delta floor =>
    rcases adjust_cases hu _ delta floor with ⟨e, heq⟩ | ⟨a, b, -, -, heq⟩ <;>
      exact Int.le_of_eq (congrArg (·.2.nextAccount) heq).symm
  | publish hu =>
    rcases publish_cases hu with ⟨e, heq⟩ | ⟨-, heq⟩ <;>
      exact Int.le_of_eq (congrArg (·.2.nextAccount) heq).symm
  | @remove _ _ k hk =>
    rcases remove_cases s k with ⟨e, heq⟩ | ⟨-, -, heq⟩ <;>
      exact Int.le_of_eq (congrArg (·.2.nextAccount) heq).symm
  | setting => exact Int.le_refl _
  | openDraft => exact Int.le_refl _
  | discard => exact Int.le_refl _

theorem patience (h : Move w s s') : s'.patience = s.patience := by
  cases h.change with
  | rest _ _ _ hp => exact hp
  | opens => rfl
  | stages _ _ _ _ hp => exact hp
  | discards u => rfl
  | publishes hu => rfl
  | removes hk => rfl

/-- Units of work are opened by `openDraft` only, at the next number. -/
theorem opened (h : Move w s s') (hv : s'.drafts.get? v ≠ none) :
    s.drafts.get? v ≠ none ∨ v = s.nextDraft ∧ s' = s.openDraft.2 := by
  have herase : ∀ {u : Int}, (s.drafts.erase u).get? v ≠ none → s.drafts.get? v ≠ none :=
    fun {u} he hn => he (by rw [Table.get?_erase, hn, ite_self])
  cases h.change with
  | rest _ hdrafts => exact .inl (hdrafts ▸ hv)
  | opens =>
    by_cases hk : v = s.nextDraft
    · exact .inr ⟨hk, rfl⟩
    · exact .inl ((Table.get?_put_of_ne hk _).symm ▸ hv)
  | @stages u d e _ hu _ hdrafts =>
    by_cases hvu : v = u
    · exact .inl (hvu ▸ hu ▸ Option.some_ne_none d)
    · rw [hdrafts, Table.get?_put_of_ne hvu] at hv
      exact .inl hv
  | discards u => exact .inl (herase hv)
  | publishes hu => exact .inl (herase hv)
  | removes hk => exact .inl hv

end Move

/-- The units of work from a number on are ended by discarding each of them. -/
theorem Invariant.discardFrom {inv : Store → Prop} (hI : Invariant inv) (hs : inv s) (first : Int) :
    inv (s.discardFrom first) := by
  unfold Store.discardFrom
  generalize s.drafts.rows.filter _ = l
  induction l generalizing s with
  | nil => exact hs
  | cons d l ih => exact ih (hI.quiet hs (.discard d.1) rfl)

theorem discardFrom_eq (s : Store) (first : Int) :
    s.discardFrom first = { s with drafts := (s.discardFrom first).drafts } := by
  unfold Store.discardFrom
  generalize s.drafts.rows.filter _ = l
  induction l generalizing s with
  | nil => rfl
  | cons d l ih => exact ih (s.discard d.1)

theorem discardFrom_get? (s : Store) (first u : Int) :
    (s.discardFrom first).drafts.get? u = if first ≤ u then none else s.drafts.get? u := by
  have hfold : ∀ (l : List (Int × Draft)) (s : Store), (l.foldl (fun s d => s.discard d.1) s).drafts.get? u =
      if u ∈ l.map (·.1) then none else s.drafts.get? u := by
    intro l
    induction l with
    | nil => intro s; simp
    | cons d l ih =>
      intro s
      have hd : (s.discard d.1).drafts.get? u = if d.1 = u then none else s.drafts.get? u :=
        Table.get?_erase _ _ _
      rw [List.foldl_cons, ih, hd]
      by_cases hu : u ∈ l.map (·.1) <;> simp [hu, eq_comm]
  rw [Store.discardFrom, hfold]
  by_cases hu : first ≤ u
  · rw [if_pos hu]
    split
    · rfl
    · rename_i hmem
      refine Option.eq_none_iff_forall_ne_some.2 fun d hd => hmem ?_
      exact List.mem_map.2 ⟨(u, d), List.mem_filter.2 ⟨s.drafts.mem_rows_iff.2 hd, by simpa using hu⟩, rfl⟩
  · rw [if_neg hu, if_neg]
    intro hmem
    obtain ⟨d, hd, rfl⟩ := List.mem_map.1 hmem
    exact hu (by simpa using (List.mem_filter.1 hd).2)

theorem Sound.invariant : Invariant Sound :=
  ⟨fun h => h, fun h hm _ => hm.sound h⟩

theorem Reachable.sound (h : s.Reachable) : s.Sound := by
  obtain ⟨patience, now, hr⟩ := h
  induction hr with
  | refl => exact .new patience now
  | tail _ hm ih => exact hm.elim fun _ hm => hm.sound ih

theorem Reachable.new (patience : Time.Span) (now : Time.Instant) : (Store.new patience now).Reachable :=
  ⟨patience, now, .refl⟩

theorem Reachable.move (h : s.Reachable) (hm : Move w s s') : s'.Reachable := by
  obtain ⟨patience, now, hr⟩ := h
  exact ⟨patience, now, hr.tail ⟨w, hm⟩⟩

/-- Whatever has led to the store, no account has had the number, neither a committed nor a staged one. -/
def Unused (k : Int) (s : Store) : Prop :=
  ∀ s₀, s₀.Reachable → Relation.ReflTransGen (fun s t => ∃ w, Move w s t) s₀ s →
    s₀.book.accounts.get? k = none ∧ ∀ u d, s₀.drafts.get? u = some d → d.accounts.get? k = none

theorem Unused.of_move (hm : Move w s s') (hk : s'.Unused k) : s.Unused k :=
  fun s₀ h₀ hsteps => hk s₀ h₀ (hsteps.tail ⟨w, hm⟩)

theorem unused_nextAccount (s : Store) : s.Unused s.nextAccount := by
  intro s₀ h₀ hsteps
  have hle : s₀.nextAccount ≤ s.nextAccount := by
    induction hsteps with
    | refl => exact Int.le_refl _
    | tail _ hm ih => exact hm.elim fun _ hm => Int.le_trans ih hm.nextAccount_le
  refine ⟨Option.eq_none_iff_forall_ne_some.2 fun a ha => ?_, fun u d hu =>
    Option.eq_none_iff_forall_ne_some.2 fun a ha => ?_⟩
  · have hlt := (h₀.sound.account ha).2
    omega
  · have hlt := ((h₀.sound.draft hu).account ha).2
    omega

/-- A store with two accounts, of which the first has money. -/
def pair (faults : Faults) : Store where
  book := ⟨(Table.empty.put 1 ⟨1, "ann", 100, .cad, .epoch⟩).put 2 ⟨2, "bob", 0, .cad, .epoch⟩, .empty, .empty⟩
  nextAccount := 3
  nextEntry := 1
  nextTransfer := 1
  drafts := .empty
  nextDraft := 3
  faults := faults
  patience := .millis 5000
  now := .epoch

theorem reachable_pair (faults : Faults) : (pair faults).Reachable := by
  have h := Reachable.new (.millis 5000) .epoch
  have hann := ((h.move (w := none) .openDraft).move (.stageAccount (u := 1) rfl "ann" 100 .cad)).move
    (.publish (u := 1) rfl)
  have hbob := ((hann.move (w := none) .openDraft).move (.stageAccount (u := 2) rfl "bob" 0 .cad)).move
    (.publish (u := 2) rfl)
  exact hbob.move (w := none) (.setting faults .epoch)

end Teller.Store
