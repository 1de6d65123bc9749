import Teller.Proofs.Bank.Floor
import Teller.Proofs.Store.Gone

/-!
# Rows that refer to missing accounts

A unit of work stages an entry or a transfer only if it sees the accounts that the row refers to, and an
account is not removed while a committed row refers to it. A row that is staged keeps nobody from
removing its accounts, though, and it is committed nevertheless. `Traced` is the invariant: for every
row, staged or committed, the accounts that it refers to are there, or they have been removed while it
was staged. So a committed row refers to a missing account exactly if that has happened.
-/

namespace Teller

/-- A row that refers to accounts. -/
inductive Reference where
  | entry (e : Entry)
  | transfer (t : Transfer)

namespace Reference

def To : Reference → Int → Prop
  | .entry e, k => e.account = k
  | .transfer t, k => t.Involves k

def Committed : Reference → Book → Prop
  | .entry e, b => e ∈ b.entries.values
  | .transfer t, b => t ∈ b.transfers.values

def Staged : Reference → Draft → Prop
  | .entry e, d => e ∈ d.entries
  | .transfer t, d => t ∈ d.transfers

/-- The account has been removed while a unit of work had the row staged. -/
def Orphaned (h : List Answered) (r : Reference) (k : Int) : Prop :=
  ∃ s u d, ⟨.deleteAccount k, .done (.ok ()), s⟩ ∈ h ∧ s.drafts.get? u = some d ∧ r.Staged d

variable {r : Reference} {h l : List Answered} {s : Store} {b : Book} {d : Draft} {k : Int}

theorem Orphaned.append (hr : Orphaned h r k) : Orphaned (l ++ h) r k := by
  obtain ⟨s, u, d, hmem, hu, hd⟩ := hr
  exact ⟨s, u, d, List.mem_append_right l hmem, hu, hd⟩

theorem Committed.refers (hr : r.Committed b) (hk : r.To k) : b.Refers k := by
  cases r with
  | entry e => exact .inl ⟨e, hr, hk⟩
  | transfer t => exact .inr ⟨t, hr, hk⟩

theorem Committed.of_publish (hd : d.Sound s) (hr : r.Committed (d.publish s.book)) :
    r.Staged d ∨ r.Committed s.book := by
  cases r with
  | entry e =>
    obtain ⟨k, hk⟩ := Table.mem_values.1 hr
    rcases hd.publish_entry.1 hk with ⟨he, -⟩ | hk
    · exact .inl he
    · exact .inr (Table.mem_values_of_get? hk)
  | transfer t =>
    obtain ⟨k, hk⟩ := Table.mem_values.1 hr
    rcases hd.publish_transfer.1 hk with ⟨ht, -⟩ | hk
    · exact .inl ht
    · exact .inr (Table.mem_values_of_get? hk)

end Reference

open Reference

/-- Rows refer to accounts that are there, or that were there when the row was staged. -/
structure Traced (h : List Answered) (s : Store) : Prop where
  staged : ∀ {u d r k}, s.drafts.get? u = some d → Staged r d → r.To k →
    d.account? s.book k ≠ none ∨ Orphaned h r k
  committed : ∀ {r k}, Committed r s.book → r.To k → s.book.accounts.get? k ≠ none ∨ Orphaned h r k

namespace Traced

variable {h l : List Answered} {s s' : Store} {u k : Int} {d : Draft}

theorem new_store (patience : Time.Span) (now : Time.Instant) : Traced [] (.new patience now) where
  staged h := by cases h
  committed {r k} hr _ := by cases r <;> cases hr

theorem append (ht : Traced h s) (l : List Answered) : Traced (l ++ h) s where
  staged hu hr hk := (ht.staged hu hr hk).imp_right Orphaned.append
  committed hr hk := (ht.committed hr hk).imp_right Orphaned.append

/-- The book is the same, and the rows that are new in a draft refer to accounts that it sees. -/
theorem of_drafts (ht : Traced h s) (hbook : s'.book = s.book)
    (hdrafts : ∀ {u e}, s'.drafts.get? u = some e → e = .empty ∨ ∃ d, s.drafts.get? u = some d ∧
      (∀ k, d.account? s.book k ≠ none → e.account? s.book k ≠ none) ∧
        ∀ r k, Staged r e → r.To k → Staged r d ∨ d.account? s.book k ≠ none) : Traced h s' where
  staged {u e r k} hu hr hk := by
    rw [hbook]
    rcases hdrafts hu with rfl | ⟨d, hd, hseen, hrows⟩
    · cases r <;> cases hr
    · rcases hrows r k hr hk with hr | hk'
      · exact (ht.staged hd hr hk).imp_left (hseen k)
      · exact .inl (hseen k hk')
  committed := by
    rw [hbook]
    exact ht.committed

theorem discard (ht : Traced h s) (u : Int) : Traced h (s.discard u) :=
  ht.of_drafts rfl fun {_ d} hv =>
    .inr ⟨d, (Table.get?_erase_eq_some_iff.1 hv).2, fun _ hk => hk, fun _ _ hr _ => .inl hr⟩

theorem setDraft (ht : Traced h s) (hu : s.drafts.get? u = some d) {e : Draft} (hbook : s'.book = s.book)
    (hdrafts : s'.drafts = s.drafts.put u e)
    (hseen : ∀ k, d.account? s.book k ≠ none → e.account? s.book k ≠ none)
    (hrows : ∀ r k, Staged r e → r.To k → Staged r d ∨ d.account? s.book k ≠ none) : Traced h s' := by
  refine ht.of_drafts hbook fun {v f} hv => ?_
  rw [hdrafts] at hv
  rcases Table.get?_put_eq_some_iff.1 hv with ⟨rfl, rfl⟩ | ⟨-, hv⟩
  · exact .inr ⟨d, hu, hseen, hrows⟩
  · exact .inr ⟨f, hv, fun _ hk => hk, fun _ _ hr _ => .inl hr⟩

theorem putAccount (ht : Traced h s) (hu : s.drafts.get? u = some d) (a : Account) (hbook : s'.book = s.book)
    (hdrafts : s'.drafts = s.drafts.put u { d with accounts := d.accounts.put a.id a }) : Traced h s' := by
  refine ht.setDraft hu hbook hdrafts (fun k hk => ?_) fun r k hr _ => .inl ?_
  · by_cases hka : k = a.id
    · rw [hka, Draft.account?, Table.get?_put_self]
      exact Option.some_ne_none _
    · rwa [Draft.account?, Table.get?_put_of_ne hka]
  · cases r <;> exact hr

theorem silent {w : Option Int} (ht : Traced h s) (hs : Store.Silent w s s') : Traced h s' := by
  cases hs with
  | setting faults now => exact ⟨ht.staged, ht.committed⟩
  | lock hu hk =>
    rcases Store.lock_cases hu _ with ⟨-, heq⟩ | ⟨-, heq⟩ <;> rw [heq]
    · exact ht
    · refine ht.setDraft hu rfl rfl (fun _ hk => hk) fun r k hr _ => .inl ?_
      cases r <;> exact hr
  | discard u => exact ht.discard u

theorem openDraft (ht : Traced h s) : Traced h s.openDraft.2 := by
  refine ht.of_drafts rfl fun {u e} hu => ?_
  rcases Table.get?_put_eq_some_iff.1 hu with ⟨-, rfl⟩ | ⟨-, hu⟩
  · exact .inl rfl
  · exact .inr ⟨e, hu, fun _ hk => hk, fun _ _ hr _ => .inl hr⟩

/-- The rows of a draft are committed with the accounts that it has seen. -/
theorem publish (hs : s.Sound) (ht : Traced h s) (hu : s.drafts.get? u = some d) :
    Traced h { s.discard u with book := d.publish s.book } := by
  have hd := hs.draft hu
  -- publishing removes no account
  have hkept : ∀ {k}, s.book.accounts.get? k ≠ none → (d.publish s.book).accounts.get? k ≠ none := by
    intro k hk
    rw [hd.publish_account, Draft.account?]
    exact fun hnone => hk (Option.or_eq_none_iff.1 hnone).2
  constructor
  case staged =>
    intro v e r k hv hr hk
    have hv' := (Table.get?_erase_eq_some_iff.1 hv).2
    refine (ht.staged hv' hr hk).imp_left fun hseen hnone => hseen ?_
    obtain ⟨he, hb⟩ := Option.or_eq_none_iff.1 hnone
    rw [Draft.account?, he, Option.none_or]
    by_contra hb'
    exact hkept hb' hb
  case committed =>
    intro r k hr hk
    rcases hr.of_publish hd with hr | hr
    · refine (ht.staged hu hr hk).imp_left fun hseen => ?_
      exact hd.publish_account.symm ▸ hseen
    · exact (ht.committed hr hk).imp_left hkept

/-- An account is removed: the committed rows do not refer to it, and the staged rows that do are
orphaned. -/
theorem remove (ht : Traced h s) (href : ¬ s.book.Refers k) :
    Traced (⟨.deleteAccount k, .done (.ok ()), s⟩ :: h)
      { s with book := { s.book with accounts := s.book.accounts.erase k } } := by
  have ht' := ht.append [⟨.deleteAccount k, .done (.ok ()), s⟩]
  constructor
  case staged =>
    intro u d r j hu hr hj
    by_cases hjk : j = k
    · subst hjk
      exact .inr ⟨s, u, d, List.mem_cons_self, hu, hr⟩
    · refine (ht'.staged hu hr hj).imp_left fun hseen => ?_
      rwa [Draft.account?, Table.get?_erase_of_ne hjk]
  case committed =>
    intro r j hr hj
    have hr' : Committed r s.book := by cases r <;> exact hr
    have hjk : j ≠ k := by
      rintro rfl
      exact href (hr'.refers hj)
    refine (ht'.committed hr' hj).imp_left fun hseen => ?_
    rwa [Table.get?_erase_of_ne hjk]

theorem answer (hs : s.Sound) (ht : Traced h s) {p : Primitive} {x : Answer} (hx : p.Answers x s s') :
    Traced (⟨p, x, s⟩ :: h) s' := by
  have hkeep : ∀ {t : Store}, Traced h t → Traced (⟨p, x, s⟩ :: h) t := fun ht' => ht'.append [_]
  cases hx with
  | beginUnit => exact hkeep ht.openDraft
  | readAccount id => exact hkeep ht
  | openAccount hu owner balance currency =>
    rcases Store.stageAccount_cases hu owner balance currency with ⟨e, heq⟩ | ⟨a, -, -, -, -, -, heq⟩ <;>
      rw [heq] at hkeep ⊢
    · exact hkeep ht
    · exact hkeep (ht.putAccount hu a rfl rfl)
  | writeTransfer hu source target amount =>
    rcases Store.stageTransfer_cases hu source target amount with
      ⟨e, heq⟩ | ⟨-, hsource, htarget, t, -, hts, htt, -, heq⟩ <;> rw [heq] at hkeep ⊢
    · exact hkeep ht
    · rw [Store.seen?_eq hu] at hsource htarget
      refine hkeep (ht.setDraft hu rfl rfl (fun _ hk => hk) fun r k hr hk => ?_)
      cases r with
      | entry e => exact .inl hr
      | transfer t' =>
        rcases List.mem_append.1 hr with hr | hr
        · exact .inl hr
        · cases List.mem_singleton.1 hr
          rcases hk with rfl | rfl
          · exact .inr (hts ▸ hsource)
          · exact .inr (htt ▸ htarget)
  | writeEntry hu account amount =>
    rcases Store.stageEntry_cases hu account amount with ⟨e, heq⟩ | ⟨haccount, e, -, hea, -, heq⟩ <;>
      rw [heq] at hkeep ⊢
    · exact hkeep ht
    · rw [Store.seen?_eq hu] at haccount
      refine hkeep (ht.setDraft hu rfl rfl (fun _ hk => hk) fun r k hr hk => ?_)
      cases r with
      | transfer t => exact .inl hr
      | entry e' =>
        rcases List.mem_append.1 hr with hr | hr
        · exact .inl hr
        · cases List.mem_singleton.1 hr
          cases hk
          exact .inr (hea ▸ haccount)
  | @adjust _ u k d hu hk delta floor =>
    rcases Store.adjust_cases hu k delta floor with ⟨e, heq⟩ | ⟨a, b, -, -, heq⟩ <;> rw [heq] at hkeep ⊢
    · exact hkeep ht
    · exact hkeep (ht.putAccount hu b rfl rfl)
  | commit hu =>
    rcases Store.publish_cases hu with ⟨e, heq⟩ | ⟨-, heq⟩ <;> rw [heq] at hkeep ⊢
    · exact hkeep (ht.discard _)
    · exact hkeep (ht.publish hs hu)
  | uncommitted e => exact hkeep (ht.discard _)
  | rollback r => exact hkeep (ht.discard _)
  | @deleteAccount _ id hfree =>
    rcases Store.remove_cases s id with ⟨e, heq⟩ | ⟨-, href, heq⟩ <;> rw [heq] at hkeep ⊢
    · exact hkeep ht
    · exact ht.remove href

theorem deed (hs : s.Sound) (ht : Traced h s) {w : Option Int} {l : List Answered}
    (hd : Store.Deed w l s s') : Traced (l ++ h) s' := by
  cases hd with
  | silent hs => exact ht.silent hs
  | failed hx hs => exact (ht.silent hs).append _
  | answer hx => exact ht.answer hs hx

end Traced

variable {patience : Time.Span} {now : Time.Instant} {h : List Answered} {w : Floor} {r : Reference} {k : Int}

theorem Primitive.Answers.gone {s s' : Store} (hs : s.Sound)
    (hx : Answers (.deleteAccount k) (.done (.ok ())) s s') : s'.Gone k := by
  generalize hans : Answer.done (.ok ()) = x at hx
  cases hx with
  | deleteAccount hfree =>
    injection hans with hok
    exact hs.gone_remove hfree hok.symm

namespace Floor.Run

theorem traced (hr : Floor.Run (Bank.new patience now) h w) : Traced h w.bank.store :=
  hr.induct (.new patience now) (.new_store patience now) fun hs hd ht => ht.deed hs hd

theorem gone {b : Bank} (hb : b.store.Sound) (hr : Floor.Run b h w) {s : Store}
    (hk : ⟨.deleteAccount k, .done (.ok ()), s⟩ ∈ h) : w.bank.store.Gone k := by
  refine hr.induct (J := fun h s' => ∀ s, ⟨.deleteAccount k, .done (.ok ()), s⟩ ∈ h → s'.Gone k) hb
    (fun _ h => by cases h) (fun {h u l s s'} hs hd ih t ht => ?_) s hk
  rcases List.mem_append.1 ht with ht | ht
  · cases hd with
    | silent => cases ht
    | failed hx =>
      cases List.mem_singleton.1 ht
      exact hx.elim
    | answer hx =>
      cases List.mem_singleton.1 ht
      exact hx.gone hs
  · exact hd.move.gone hs (ih t ht)

end Floor.Run

/-- A committed row refers to a missing account exactly if the account was removed while the row was
staged. -/
theorem dangling_iff (hr : Floor.Run (Bank.new patience now) h w) (hrow : r.Committed w.bank.store.book)
    (hk : r.To k) : w.bank.store.book.accounts.get? k = none ↔ Orphaned h r k := by
  constructor
  · intro hnone
    exact (hr.traced.committed hrow hk).resolve_left (absurd hnone)
  · rintro ⟨s, u, d, hmem, -⟩
    exact (hr.gone (.new patience now) hmem).book

/-- An account is removed while an entry of it is staged, and the entry is committed. -/
theorem exists_dangling_entry : ∃ h w, Floor.Run (.new (.millis 5000) .epoch) h w ∧
    (⟨1, 1, 5, .epoch⟩ : Entry) ∈ w.bank.store.book.entries.values ∧
    w.bank.store.book.accounts.get? 1 = none := by
  obtain ⟨h, w, hr, hbank, -⟩ := Floor.Run.carry (b := .new (.millis 5000) .epoch) (.new _ _)
    [.commit 2, .deleteAccount 1, .writeEntry 2 1 5, .beginUnit, .commit 1, .openAccount 1 "ann" 100 .cad,
      .beginUnit] (by decide)
  refine ⟨h, w, hr, ?_, ?_⟩
  · rw [hbank]
    exact List.mem_singleton.2 rfl
  · rw [hbank]
    rfl

theorem dangling_entry_orphaned : ∃ h w, Floor.Run (.new (.millis 5000) .epoch) h w ∧
    (entry ⟨1, 1, 5, .epoch⟩).Committed w.bank.store.book ∧ Orphaned h (entry ⟨1, 1, 5, .epoch⟩) 1 := by
  obtain ⟨h, w, hr, hmem, hnone⟩ := exists_dangling_entry
  exact ⟨h, w, hr, hmem, (dangling_iff hr (r := entry ⟨1, 1, 5, .epoch⟩) hmem rfl).1 hnone⟩

/-- So rows may refer to accounts that are missing. -/
theorem not_forall_referenced : ¬ ∀ h w, Floor.Run (.new (.millis 5000) .epoch) h w →
    ∀ e ∈ w.bank.store.book.entries.values, ∃ a, w.bank.store.book.accounts.get? e.account = some a := by
  obtain ⟨h, w, hr, hmem, hnone⟩ := exists_dangling_entry
  intro hall
  obtain ⟨a, ha⟩ := hall h w hr _ hmem
  cases hnone.symm.trans ha

end Teller
