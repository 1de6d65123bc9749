import Teller.Proofs.Ledger.Dangling

/-!
# A history to which is only added

Entries and transfers stay as they are once they are committed, and of an account only the balance
changes, until it is removed for good. A commit writes whole rows at their numbers, so this rests on where
the rows of a draft come from. `Numbered` is the invariant: no two rows of a kind have been created with
the same number, whatever became of their units of work, and every row that is around is one that has
been created, up to the balance of an account.
-/

namespace Teller

/-- A row of the ledger. -/
inductive Row where
  | account (a : Account)
  | entry (e : Entry)
  | transfer (t : Transfer)

inductive Row.Kind where
  | account
  | entry
  | transfer
deriving DecidableEq

namespace Row

def kind : Row → Kind
  | .account _ => .account
  | .entry _ => .entry
  | .transfer _ => .transfer

def number : Row → Int
  | .account a => a.id
  | .entry e => e.id
  | .transfer t => t.id

/-- Where the row stands. -/
def key (r : Row) : Kind × Int :=
  (r.kind, r.number)

def Committed : Row → Book → Prop
  | .account a, b => a ∈ b.accounts.values
  | .entry e, b => e ∈ b.entries.values
  | .transfer t, b => t ∈ b.transfers.values

def Staged : Row → Draft → Prop
  | .account a, d => a ∈ d.accounts.values
  | .entry e, d => e ∈ d.entries
  | .transfer t, d => t ∈ d.transfers

section

variable {d : Draft} {k : Int} {a : Account} {e : Entry} {t : Transfer} {r : Row}

theorem Staged.of_put (hr : r.Staged { d with accounts := d.accounts.put k a }) :
    r.Staged d ∨ r = .account a := by
  cases r with
  | entry e => exact .inl hr
  | transfer t => exact .inl hr
  | account b =>
    obtain ⟨j, hj⟩ := Table.mem_values.1 hr
    rcases Table.get?_put_eq_some_iff.1 hj with ⟨-, rfl⟩ | ⟨-, hj⟩
    · exact .inr rfl
    · exact .inl (Table.mem_values_of_get? hj)

theorem Staged.of_entry (hr : r.Staged { d with entries := d.entries ++ [e] }) :
    r.Staged d ∨ r = .entry e := by
  cases r with
  | account a => exact .inl hr
  | transfer t => exact .inl hr
  | entry f => exact (List.mem_append.1 hr).imp_right fun hf => congrArg entry (List.mem_singleton.1 hf)

theorem Staged.of_transfer (hr : r.Staged { d with transfers := d.transfers ++ [t] }) :
    r.Staged d ∨ r = .transfer t := by
  cases r with
  | account a => exact .inl hr
  | entry e => exact .inl hr
  | transfer x => exact (List.mem_append.1 hr).imp_right fun hx => congrArg transfer (List.mem_singleton.1 hx)

end

/-- The row is the same, but for the balance of an account. -/
inductive Becomes : Row → Row → Prop
  | same (r : Row) : Becomes r r
  | balance (a : Account) (x : Int) : Becomes (.account a) (.account { a with balance := x })

theorem Becomes.trans {r r' r'' : Row} (h : r.Becomes r') (h' : r'.Becomes r'') : r.Becomes r'' := by
  cases h with
  | same => exact h'
  | balance a x =>
    cases h' with
    | same => exact .balance a x
    | balance _ y => exact .balance a y

end Row

/-- The number that the next row of the kind is given. -/
def Store.nextNumber (s : Store) : Row.Kind → Int
  | .account => s.nextAccount
  | .entry => s.nextEntry
  | .transfer => s.nextTransfer

/-- The row is committed, or some unit of work has it staged. -/
def Store.Has (s : Store) (r : Row) : Prop :=
  r.Committed s.book ∨ ∃ u d, s.drafts.get? u = some d ∧ r.Staged d

/-- The row that has been created. -/
def Answered.made? : Answered → Option Row
  | ⟨.openAccount _ _ _ _, .account (.ok a), _⟩ => some (.account a)
  | ⟨.writeEntry _ _ _, .entry (.ok e), _⟩ => some (.entry e)
  | ⟨.writeTransfer _ _ _ _, .transfer (.ok t), _⟩ => some (.transfer t)
  | _ => none

/-- The rows that have been created, committed or not, latest first. -/
def made (h : List Answered) : List Row :=
  h.filterMap Answered.made?

variable {h l : List Answered} {s s' : Store} {e : Answered} {u k : Int} {d : Draft} {r : Row}

theorem Answered.made?_of_failed {p : Primitive} {x : Answer} (hx : x.Failed) :
    Answered.made? ⟨p, x, s⟩ = none := by
  obtain ⟨e, rfl | rfl | rfl | rfl | rfl⟩ := hx.cases
  all_goals cases p <;> rfl

theorem made_cons_of_none (he : e.made? = none) : made (e :: h) = made h := by
  simp [made, he]

theorem made_cons_of_some (he : e.made? = some r) : made (e :: h) = r :: made h := by
  simp [made, he]

/-! ### Rows that are around -/

namespace Store.Has

theorem stage {f : Draft} (hr : s'.Has r) (hbook : s'.book = s.book)
    (hdrafts : s'.drafts = s.drafts.put u f) : s.Has r ∨ r.Staged f := by
  rcases hr with hr | ⟨v, g, hv, hr⟩
  · rw [hbook] at hr
    exact .inl (.inl hr)
  · rw [hdrafts] at hv
    rcases Table.get?_put_eq_some_iff.1 hv with ⟨-, rfl⟩ | ⟨-, hv⟩
    · exact .inr hr
    · exact .inl (.inr ⟨v, g, hv, hr⟩)

theorem add {f : Draft} {r' : Row} (hr : s'.Has r) (hu : s.drafts.get? u = some d)
    (hbook : s'.book = s.book) (hdrafts : s'.drafts = s.drafts.put u f)
    (hf : r.Staged f → r.Staged d ∨ r = r') : s.Has r ∨ r = r' := by
  rcases hr.stage hbook hdrafts with hr | hr
  · exact .inl hr
  · exact (hf hr).imp_left fun hr => .inr ⟨u, d, hu, hr⟩

theorem discard (hr : (s.discard u).Has r) : s.Has r := by
  rcases hr with hr | ⟨v, f, hv, hr⟩
  · exact .inl hr
  · exact .inr ⟨v, f, (Table.get?_erase_eq_some_iff.1 hv).2, hr⟩

theorem publish (hd : d.Sound s) (hu : s.drafts.get? u = some d)
    (hr : Has { s.discard u with book := d.publish s.book } r) : s.Has r := by
  have hcommitted (hr : r.Committed (d.publish s.book)) : r.Staged d ∨ r.Committed s.book := by
    cases r with
    | entry e => exact Reference.Committed.of_publish (r := .entry e) hd hr
    | transfer t => exact Reference.Committed.of_publish (r := .transfer t) hd hr
    | account a =>
      obtain ⟨k, hk⟩ := Table.mem_values.1 hr
      rw [hd.publish_account, Draft.account?] at hk
      rcases Option.or_eq_some_iff.1 hk with hk | ⟨-, hk⟩
      · exact .inl (Table.mem_values_of_get? hk)
      · exact .inr (Table.mem_values_of_get? hk)
  rcases hr with hr | ⟨v, f, hv, hr⟩
  · rcases hcommitted hr with hr | hr
    · exact .inr ⟨u, d, hu, hr⟩
    · exact .inl hr
  · exact .inr ⟨v, f, (Table.get?_erase_eq_some_iff.1 hv).2, hr⟩

theorem remove (hr : Has { s with book := { s.book with accounts := s.book.accounts.erase k } } r) :
    s.Has r := by
  rcases hr with hr | hr
  · refine .inl ?_
    cases r with
    | entry e => exact hr
    | transfer t => exact hr
    | account a =>
      obtain ⟨j, hj⟩ := Table.mem_values.1 hr
      exact Table.mem_values_of_get? (Table.get?_erase_eq_some_iff.1 hj).2
  · exact .inr hr

theorem of_seen {a : Account} (hu : s.drafts.get? u = some d) (ha : s.seen u k = .ok a) :
    s.Has (.account a) := by
  have hseen := Store.seen?_of_seen ha
  rw [Store.seen?_eq hu] at hseen
  rcases Option.or_eq_some_iff.1 hseen with hk | ⟨-, hk⟩
  · exact .inr ⟨u, d, hu, Table.mem_values_of_get? hk⟩
  · exact .inl (Table.mem_values_of_get? hk)

end Store.Has

/-! ### Numbers -/

/-- Rows have the numbers that they were created with. -/
structure Numbered (h : List Answered) (s : Store) : Prop where
  number : ∀ r ∈ made h, r.number < s.nextNumber r.kind
  distinct : ((made h).map Row.key).Nodup
  made : ∀ r, s.Has r → ∃ r₀ ∈ made h, r₀.Becomes r

namespace Numbered

theorem new_store (patience : Time.Span) (now : Time.Instant) : Numbered [] (.new patience now) where
  number r hr := by cases hr
  distinct := .nil
  made r hr := by
    rcases hr with hr | ⟨u, d, hu, -⟩
    · cases r <;> cases hr
    · cases hu

theorem keep (hn : Numbered h s) (hnext : s'.nextNumber = s.nextNumber)
    (hrows : ∀ r, s'.Has r → ∃ r₀, s.Has r₀ ∧ r₀.Becomes r) : Numbered h s' where
  number r hr := by
    rw [hnext]
    exact hn.number r hr
  distinct := hn.distinct
  made r hr := by
    obtain ⟨r₁, hr₁, hbecomes⟩ := hrows r hr
    obtain ⟨r₀, hr₀, hbecomes₀⟩ := hn.made r₁ hr₁
    exact ⟨r₀, hr₀, hbecomes₀.trans hbecomes⟩

theorem keep_rows (hn : Numbered h s) (hnext : s'.nextNumber = s.nextNumber)
    (hrows : ∀ r, s'.Has r → s.Has r) : Numbered h s' :=
  hn.keep hnext fun r hr => ⟨r, hrows r hr, .same r⟩

/-- A row is created with the next number of its kind. -/
theorem make (hn : Numbered h s) (he : e.made? = some r) (hnumber : r.number = s.nextNumber r.kind)
    (hnext : ∀ K, s'.nextNumber K = if K = r.kind then s.nextNumber K + 1 else s.nextNumber K)
    (hrows : ∀ r', s'.Has r' → s.Has r' ∨ r' = r) : Numbered (e :: h) s' := by
  have hmade := made_cons_of_some (h := h) he
  constructor
  case number =>
    intro r' hr'
    rw [hmade] at hr'
    rw [hnext]
    rcases List.mem_cons.1 hr' with rfl | hr'
    · rw [if_pos rfl, hnumber]
      omega
    · have hlt := hn.number r' hr'
      split <;> omega
  case distinct =>
    rw [hmade, List.map_cons, List.nodup_cons]
    refine ⟨fun hmem => ?_, hn.distinct⟩
    obtain ⟨r', hr', hkey⟩ := List.mem_map.1 hmem
    obtain ⟨hkind, hnum⟩ := Prod.mk.inj hkey
    -- `r'` has a lower number than the next one of its kind, which `r` has
    have hlt := hn.number r' hr'
    rw [hkind, hnum, hnumber] at hlt
    exact Int.lt_irrefl _ hlt
  case made =>
    intro r' hr'
    rw [hmade]
    rcases hrows r' hr' with hr' | rfl
    · obtain ⟨r₀, hr₀, hbecomes⟩ := hn.made r' hr'
      exact ⟨r₀, List.mem_cons_of_mem _ hr₀, hbecomes⟩
    · exact ⟨r', List.mem_cons_self, .same r'⟩

theorem answer_none (hn : Numbered h s) (he : e.made? = none) : Numbered (e :: h) s := by
  have hmade := made_cons_of_none (h := h) he
  refine ⟨?_, ?_, ?_⟩ <;> rw [hmade]
  exacts [hn.number, hn.distinct, hn.made]

theorem silent {w : Option Int} (hn : Numbered h s) (hs : Store.Silent w s s') : Numbered h s' := by
  cases hs with
  | setting faults now => exact hn.keep_rows rfl fun r hr => hr
  | lock hu hk =>
    rcases Store.lock_cases hu _ with ⟨-, heq⟩ | ⟨-, heq⟩ <;> rw [heq]
    · exact hn
    · refine hn.keep_rows rfl fun r hr => ?_
      rcases hr.stage (s := s) rfl rfl with hr | hr
      · exact hr
      · refine .inr ⟨_, _, hu, ?_⟩
        cases r <;> exact hr
  | discard u => exact hn.keep_rows rfl fun r hr => hr.discard

theorem answer (hn : Numbered h s) (hs : s.Sound) {p : Primitive} {x : Answer} (hx : p.Answers x s s') :
    Numbered (⟨p, x, s⟩ :: h) s' := by
  cases hx with
  | beginUnit =>
    refine (hn.answer_none rfl).keep_rows rfl fun r hr => ?_
    rcases hr.stage (s := s) rfl rfl with hr | hr
    · exact hr
    · cases r <;> cases hr
  | readAccount id => exact hn.answer_none rfl
  | openAccount hu owner balance currency =>
    rcases Store.stageAccount_cases hu owner balance currency with ⟨e, heq⟩ | ⟨a, ha, -, -, -, -, heq⟩ <;>
      rw [heq]
    · exact hn.answer_none rfl
    · exact hn.make (r := .account a) rfl ha (fun K => by cases K <;> rfl) fun r hr =>
        hr.add hu rfl rfl Row.Staged.of_put
  | writeTransfer hu source target amount =>
    rcases Store.stageTransfer_cases hu source target amount with
      ⟨e, heq⟩ | ⟨-, -, -, t, ht, -, -, -, heq⟩ <;> rw [heq]
    · exact hn.answer_none rfl
    · exact hn.make (r := .transfer t) rfl ht (fun K => by cases K <;> rfl) fun r hr =>
        hr.add hu rfl rfl Row.Staged.of_transfer
  | writeEntry hu account amount =>
    rcases Store.stageEntry_cases hu account amount with ⟨e, heq⟩ | ⟨-, e, he, -, -, heq⟩ <;> rw [heq]
    · exact hn.answer_none rfl
    · exact hn.make (r := .entry e) rfl he (fun K => by cases K <;> rfl) fun r hr =>
        hr.add hu rfl rfl Row.Staged.of_entry
  | @adjust _ u k d hu hk delta floor =>
    rcases Store.adjust_cases hu k delta floor with ⟨e, heq⟩ | ⟨a, b, ha, rfl, heq⟩ <;> rw [heq]
    · exact hn.answer_none rfl
    · -- an account is staged again, which is around already with another balance
      refine (hn.answer_none rfl).keep rfl fun r hr => ?_
      rcases hr.add (s := s) hu rfl rfl Row.Staged.of_put with hr | rfl
      · exact ⟨r, hr, .same r⟩
      · exact ⟨.account a, .of_seen hu ha, .balance a _⟩
  | commit hu =>
    rcases Store.publish_cases hu with ⟨e, heq⟩ | ⟨-, heq⟩ <;> rw [heq]
    · exact (hn.answer_none rfl).keep_rows rfl fun r hr => hr.discard
    · exact (hn.answer_none rfl).keep_rows rfl fun r hr => hr.publish (hs.draft hu) hu
  | uncommitted e => exact (hn.answer_none rfl).keep_rows rfl fun r hr => hr.discard
  | rollback r => exact (hn.answer_none rfl).keep_rows rfl fun r hr => hr.discard
  | @deleteAccount _ id hid =>
    rcases Store.remove_cases s id with ⟨e, heq⟩ | ⟨-, -, heq⟩ <;> rw [heq]
    · exact hn.answer_none rfl
    · exact (hn.answer_none rfl).keep_rows rfl fun r hr => hr.remove

theorem deed (hn : Numbered h s) (hs : s.Sound) {w : Option Int} (hd : Store.Deed w l s s') :
    Numbered (l ++ h) s' := by
  cases hd with
  | silent hsilent => exact hn.silent hsilent
  | failed hx hsilent => exact (hn.silent hsilent).answer_none (Answered.made?_of_failed hx)
  | answer hx => exact hn.answer hs hx

end Numbered

/-- Where a draft has a row for which there is a committed one, that is the same account. -/
theorem Store.Sound.overwritten (hs : s.Sound) {r r' : Row} (hr : r.Staged (s.draft u))
    (hr' : r'.Committed s.book) (hkey : r'.key = r.key) :
    ∃ a x, r' = .account a ∧ r = .account { a with balance := x } := by
  cases hu : s.drafts.get? u with
  | none =>
    have hempty : s.draft u = .empty := by simp [Store.draft, hu]
    rw [hempty] at hr
    cases r <;> cases hr
  | some d =>
    rw [Store.draft_eq hu] at hr
    have hd := hs.draft hu
    obtain ⟨hkind, hnumber⟩ := Prod.mk.inj hkey
    cases r with
    | account a =>
      cases r' with
      | account a' =>
        obtain ⟨j, hj⟩ := Table.mem_values.1 hr
        obtain ⟨k, hk⟩ := Table.mem_values.1 hr'
        have hid : a'.id = a.id := hnumber
        rw [(hs.account hk).1, (hd.account hj).1] at hid
        subst hid
        obtain ⟨-, x, rfl⟩ := hd.original hj hk
        exact ⟨a', x, rfl, rfl⟩
      | _ => cases hkind
    | entry e =>
      cases r' with
      | entry e' =>
        obtain ⟨k, hk⟩ := Table.mem_values.1 hr'
        have hid : e'.id = e.id := hnumber
        have hnew := (hd.entry hr).2
        rw [← hid, (hs.entry hk).1, hk] at hnew
        cases hnew
      | _ => cases hkind
    | transfer t =>
      cases r' with
      | transfer t' =>
        obtain ⟨k, hk⟩ := Table.mem_values.1 hr'
        have hid : t'.id = t.id := hnumber
        have hnew := (hd.transfer hr).2
        rw [← hid, (hs.transfer hk).1, hk] at hnew
        cases hnew
      | _ => cases hkind

namespace Floor.Run

variable {patience : Time.Span} {now : Time.Instant} {b : Bank} {w : Floor}

theorem numbered (hr : Floor.Run (Bank.new patience now) h w) : Numbered h w.bank.store :=
  hr.induct (.new patience now) (.new_store patience now) fun hs hd hn => hn.deed hs hd

/-- The store was sound before each step that answered a primitive. -/
theorem sound_before (hb : b.store.Sound) (hr : Floor.Run b h w) (he : e ∈ h) : e.store.Sound := by
  refine hr.induct (J := fun h _ => ∀ e ∈ h, e.store.Sound) hb (by simp) (fun {h u l s s'} hs hd ih => ?_) e he
  intro e he
  rcases List.mem_append.1 he with he | he
  · cases hd with
    | silent => cases he
    | failed => rw [List.mem_singleton.1 he]; exact hs
    | answer => rw [List.mem_singleton.1 he]; exact hs
  · exact ih e he

end Floor.Run

/-- From one moment to a later one, entries and transfers stay, and an account that is still there differs
in its balance only; accounts that have been removed do not come back. No two rows of a kind have been
created with one number, every committed row is one of them, and if a commit writes a row where there is
one already, it is that of the same account. -/
theorem append_only_history {patience : Time.Span} {now : Time.Instant} {w w' : Floor}
    (hr : Floor.Run (Bank.new patience now) h w) (hl : Floor.Steps w l w') :
    (∀ k e, w.bank.store.book.entries.get? k = some e → w'.bank.store.book.entries.get? k = some e) ∧
      (∀ k t, w.bank.store.book.transfers.get? k = some t →
        w'.bank.store.book.transfers.get? k = some t) ∧
      (∀ k a a', w.bank.store.book.accounts.get? k = some a →
        w'.bank.store.book.accounts.get? k = some a' →
        a'.id = a.id ∧ a'.owner = a.owner ∧ a'.currency = a.currency ∧ a'.createdAt = a.createdAt) ∧
      (∀ k s, ⟨.deleteAccount k, .done (.ok ()), s⟩ ∈ l ++ h →
        w'.bank.store.book.accounts.get? k = none) ∧
      ((made (l ++ h)).map Row.key).Nodup ∧
      (∀ r : Row, r.Committed w'.bank.store.book → ∃ r₀ ∈ made (l ++ h), r₀.Becomes r) ∧
      ∀ u s (r r' : Row), ⟨.commit u, .done (.ok ()), s⟩ ∈ l ++ h → r.Staged (s.draft u) →
        r'.Committed s.book → r'.key = r.key →
        ∃ a x, r' = .account a ∧ r = .account { a with balance := x } := by
  have hsound : (Bank.new patience now).store.Sound := .new patience now
  have hlater := hl.precedes (hr.orderly hsound)
  have hr' := hr.extend hl
  have hnumbered := hr'.numbered
  refine ⟨fun k e => hlater.entry, fun k t => hlater.transfer, fun k a a' ha ha' => ?_, fun k s hk => ?_,
    hnumbered.distinct, fun r hrow => ?_, fun u s r r' hcommit hrow hrow' hkey => ?_⟩
  · obtain ⟨x, rfl⟩ := (hlater.account ha).get? ha'
    exact ⟨rfl, rfl, rfl, rfl⟩
  · exact (hr'.gone hsound hk).book
  · exact hnumbered.made r (.inl hrow)
  · exact (hr'.sound_before hsound hcommit).overwritten hrow hrow' hkey

/-- A transfer is committed; later its source is adjusted again, an account that was never committed has
used up a number, and another account is opened and removed. -/
theorem history_after_removal : ∃ h l w w', Floor.Run (.new (.millis 5000) .epoch) h w ∧
    Floor.Steps w l w' ∧ (∃ s, ⟨.deleteAccount 4, .done (.ok ()), s⟩ ∈ l) ∧
    w.bank.store.book.accounts.get? 1 = some ⟨1, "ann", 70, .cad, .epoch⟩ ∧
    w'.bank.store.book.accounts.get? 1 = some ⟨1, "ann", 60, .cad, .epoch⟩ ∧
    w'.bank.store.book.transfers.get? 1 = some ⟨1, 1, 2, 30, .epoch⟩ ∧
    w'.bank.store.book.entries.get? 1 = some ⟨1, 1, -30, .epoch⟩ ∧
    w'.bank.store.book.accounts.get? 4 = none := by
  obtain ⟨h, w, hr, hbank, hcalls, -⟩ := Floor.Run.carry (b := .new (.millis 5000) .epoch) (.new _ _)
    [.commit 2, .adjust 2 2 30 false, .adjust 2 1 (-30) true, .writeEntry 2 2 30, .writeEntry 2 1 (-30),
      .writeTransfer 2 1 2 30, .beginUnit, .commit 1, .openAccount 1 "bob" 0 .cad,
      .openAccount 1 "ann" 100 .cad, .beginUnit] (by decide)
  have hw : w.Orderly := hr.orderly (.new _ _)
  obtain ⟨l, w', hsteps, hbank', -, hl⟩ := Floor.Steps.carry hw hcalls
    [.deleteAccount 4, .commit 4, .adjust 4 1 (-10) true, .openAccount 4 "cid" 5 .usd, .beginUnit,
      .rollback 3, .openAccount 3 "cid" 5 .usd, .beginUnit] (by rw [hbank]; decide)
  rw [hbank] at hbank' hl
  obtain ⟨e, he, hanswer⟩ : ∃ e ∈ l, (e.primitive, e.answer) = (.deleteAccount 4, .done (.ok ())) := by
    refine List.mem_map.1 ?_
    rw [hl]
    exact List.mem_cons_self
  obtain ⟨p, x, s⟩ := e
  obtain ⟨rfl, rfl⟩ := Prod.mk.inj hanswer
  obtain ⟨hentries, htransfers, -, hgone, -⟩ := append_only_history hr hsteps
  refine ⟨h, l, w, w', hr, hsteps, ⟨s, he⟩, ?_, ?_, htransfers 1 _ ?_, hentries 1 _ ?_,
    hgone 4 s (List.mem_append_left h he)⟩
  · rw [hbank]
    rfl
  · rw [hbank']
    rfl
  · rw [hbank]
    rfl
  · rw [hbank]
    rfl

end Teller
