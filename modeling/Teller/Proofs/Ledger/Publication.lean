import Teller.Proofs.Ledger.Reading
import Teller.Proofs.Work.Written

/-!
# All or nothing

The calls of a unit of work return rows, and a commit that succeeds adds just these to the book. `Drafted` is the
invariant: the draft of an open unit consists of the rows that have been returned in it, whatever else has failed
there and whatever others have committed since. No other step of a unit of work changes the book, and reads show
committed rows only.
-/

namespace Teller

/-! ### The rows that are returned in a unit of work -/

/-- The row that has been returned: one that has been created, or an account whose balance has been adjusted. -/
def Answered.row? (e : Answered) : Option Row :=
  match e.primitive, e.answer with
  | .adjust _ _ _ _, .account (.ok a) => some (.account a)
  | _, _ => e.made?

/-- What has been answered in the unit of work, latest first. -/
def answeredIn (h : List Answered) (u : Int) : List Answered :=
  h.filter fun e => decide (e.primitive.unit? = some u)

/-- The rows that have been returned in the unit of work, oldest first. -/
def returned (h : List Answered) (u : Int) : List Row :=
  ((answeredIn h u).filterMap Answered.row?).reverse

def Row.account? (k : Int) : Row → Option Account
  | .account a => if a.id = k then some a else none
  | _ => none

/-- The account of a number as it has been returned last. -/
def lastAccount (rows : List Row) (k : Int) : Option Account :=
  rows.reverse.findSome? (Row.account? k)

/-- The book has gained these rows: entries and transfers are new, and of each account the last row stands. -/
structure Book.Gains (rows : List Row) (b b' : Book) : Prop where
  book : b' = rows.foldl Book.write b
  accounts : ∀ k, b'.accounts.get? k = (lastAccount rows k).or (b.accounts.get? k)
  entries : ∀ k e, b'.entries.get? k = some e ↔ .entry e ∈ rows ∧ e.id = k ∨ b.entries.get? k = some e
  transfers : ∀ k t, b'.transfers.get? k = some t ↔ .transfer t ∈ rows ∧ t.id = k ∨ b.transfers.get? k = some t
  newEntries : ∀ e, .entry e ∈ rows → b.entries.get? e.id = none
  newTransfers : ∀ t, .transfer t ∈ rows → b.transfers.get? t.id = none

/-- The draft consists of these rows, kind by kind. -/
structure Draft.Records (d : Draft) (rows : List Row) : Prop extends d.Holds rows where
  accounts : ∀ k, d.accounts.get? k = lastAccount rows k
  entries : ∀ e, e ∈ d.entries ↔ .entry e ∈ rows
  transfers : ∀ t, t ∈ d.transfers ↔ .transfer t ∈ rows

variable {h l : List Answered} {s s' : Store} {e : Answered} {u v k : Int} {d f : Draft} {r : Row} {rows : List Row}

theorem lastAccount_concat (rows : List Row) (r : Row) (k : Int) :
    lastAccount (rows ++ [r]) k = (r.account? k).or (lastAccount rows k) := by
  unfold lastAccount
  rw [List.reverse_append, List.reverse_singleton, List.singleton_append, List.findSome?_cons]
  cases r.account? k <;> rfl

theorem lastAccount_ne_none {a : Account} (ha : .account a ∈ rows) : lastAccount rows a.id ≠ none := by
  intro hnone
  have hrow := List.findSome?_eq_none_iff.1 hnone (.account a) (List.mem_reverse.2 ha)
  simp [Row.account?] at hrow

theorem Answered.row?_of_made? (he : e.made? = some r) : e.row? = some r := by
  obtain ⟨p, x, s⟩ := e
  unfold row?
  split
  · rename_i hp ha
    dsimp only at hp ha
    subst hp ha
    cases he
  · exact he

theorem Answered.row?_of_failed {p : Primitive} {x : Answer} (hx : x.Failed) : row? ⟨p, x, s⟩ = none := by
  unfold row?
  split
  · rename_i hp ha
    dsimp only at ha
    rw [ha] at hx
    exact hx.elim
  · exact made?_of_failed hx

theorem returned_cons_of_none (he : e.row? = none) (u : Int) : returned (e :: h) u = returned h u := by
  unfold returned answeredIn
  by_cases hu : e.primitive.unit? = some u <;> simp [hu, he]

theorem returned_cons_of_some (he : e.row? = some r) (hu : e.primitive.unit? = some u) :
    returned (e :: h) u = returned h u ++ [r] := by
  simp [returned, answeredIn, hu, he]

theorem returned_cons_of_ne (hu : e.primitive.unit? ≠ some u) : returned (e :: h) u = returned h u := by
  simp [returned, answeredIn, hu]

theorem mem_returned_of_made (hr : r ∈ made (answeredIn h u)) : r ∈ returned h u := by
  obtain ⟨e, he, hmade⟩ := List.mem_filterMap.1 hr
  exact List.mem_reverse.2 (List.mem_filterMap.2 ⟨e, he, Answered.row?_of_made? hmade⟩)

/-- In a unit of work a row has been created before, or by the call that has just been answered. -/
theorem mem_made_cons (hr : r ∈ made (answeredIn (e :: h) u)) :
    r ∈ made (answeredIn h u) ∨ e.primitive.unit? = some u ∧ e.made? = some r := by
  unfold answeredIn at hr
  by_cases hu : e.primitive.unit? = some u
  · rw [List.filter_cons_of_pos (by simpa using hu)] at hr
    cases he : e.made? with
    | none =>
      rw [made_cons_of_none he] at hr
      exact .inl hr
    | some r' =>
      rw [made_cons_of_some he] at hr
      rcases List.mem_cons.1 hr with rfl | hr
      · exact .inr ⟨hu, rfl⟩
      · exact .inl hr
  · rw [List.filter_cons_of_neg (by simpa using hu)] at hr
    exact .inl hr

namespace Draft.Records

theorem empty : Draft.empty.Records [] :=
  ⟨.empty, fun _ => rfl, fun _ => by simp [Draft.empty], fun _ => by simp [Draft.empty]⟩

theorem entry (h : d.Records rows) (e : Entry) :
    Draft.Records { d with entries := d.entries ++ [e] } (rows ++ [.entry e]) := by
  refine ⟨h.toHolds.entry e, fun k => ?_, fun x => ?_, fun t => ?_⟩
  · rw [lastAccount_concat]
    exact h.accounts k
  · simp [h.entries]
  · simp [h.transfers]

theorem transfer (h : d.Records rows) (t : Transfer) :
    Draft.Records { d with transfers := d.transfers ++ [t] } (rows ++ [.transfer t]) := by
  refine ⟨h.toHolds.transfer t, fun k => ?_, fun e => ?_, fun x => ?_⟩
  · rw [lastAccount_concat]
    exact h.accounts k
  · simp [h.entries]
  · simp [h.transfers]

theorem account (h : d.Records rows) (a : Account) :
    Draft.Records { d with accounts := d.accounts.put a.id a } (rows ++ [.account a]) := by
  refine ⟨h.toHolds.account a, fun k => ?_, fun e => ?_, fun t => ?_⟩
  · rw [lastAccount_concat, Table.get?_put, h.accounts, Row.account?]
    split <;> rfl
  · simp [h.entries]
  · simp [h.transfers]

theorem gains (h : d.Records rows) (hd : d.Sound s) : Book.Gains rows s.book (d.publish s.book) where
  book := h.publish s.book
  accounts k := by rw [hd.publish_account, Draft.account?, h.accounts]
  entries k e := by rw [hd.publish_entry, h.entries]
  transfers k t := by rw [hd.publish_transfer, h.transfers]
  newEntries e he := (hd.entry ((h.entries e).2 he)).2
  newTransfers t ht := (hd.transfer ((h.transfers t).2 ht)).2

end Draft.Records

/-! ### The invariant -/

/-- Each open unit of work has staged what has been returned in it. -/
structure Drafted (h : List Answered) (s : Store) : Prop where
  records : ∀ {u d}, s.drafts.get? u = some d → d.Records (returned h u)
  /-- An account that has been opened in it is not committed yet. -/
  uncommitted : ∀ {u d a}, s.drafts.get? u = some d → .account a ∈ made (answeredIn h u) →
    s.book.accounts.get? a.id = none
  unborn : ∀ {u}, s.nextDraft ≤ u → returned h u = []

namespace Drafted

theorem start (hdrafts : s.drafts = .empty) : Drafted [] s := by
  refine ⟨fun hu => ?_, fun hu => ?_, fun _ => rfl⟩ <;>
  · rw [hdrafts] at hu
    cases hu

theorem neutral (hd : Drafted h s) (he : e.row? = none) : Drafted (e :: h) s := by
  refine ⟨fun hu => ?_, fun hu ha => ?_, fun hu => ?_⟩
  · rw [returned_cons_of_none he]
    exact hd.records hu
  · rcases mem_made_cons ha with ha | ⟨-, hmade⟩
    · exact hd.uncommitted hu ha
    · cases he.symm.trans (Answered.row?_of_made? hmade)
  · rw [returned_cons_of_none he]
    exact hd.unborn hu

/-- Units of work may end, and committed accounts may go. -/
theorem fewer (hd : Drafted h s) (hnext : s'.nextDraft = s.nextDraft)
    (hdrafts : ∀ {v d}, s'.drafts.get? v = some d → s.drafts.get? v = some d)
    (hbook : ∀ {k}, s.book.accounts.get? k = none → s'.book.accounts.get? k = none) : Drafted h s' where
  records hu := hd.records (hdrafts hu)
  uncommitted hu ha := hbook (hd.uncommitted (hdrafts hu) ha)
  unborn hu := hd.unborn (hnext ▸ hu)

theorem discard (hd : Drafted h s) (u : Int) : Drafted h (s.discard u) :=
  hd.fewer rfl (fun hv => (Table.get?_erase_eq_some_iff.1 hv).2) fun hk => hk

/-- A unit of work stages the row that is returned in it. -/
theorem stage (hd : Drafted h s) (hu : s.drafts.get? u = some d) (hlt : u < s.nextDraft) (he : e.row? = some r)
    (hin : e.primitive.unit? = some u) (hf : f.Records (returned h u ++ [r]))
    (hnew : ∀ a, e.made? = some (.account a) → s.book.accounts.get? a.id = none) (hbook : s'.book = s.book)
    (hdrafts : s'.drafts = s.drafts.put u f) (hnext : s'.nextDraft = s.nextDraft) : Drafted (e :: h) s' := by
  have hother : ∀ {v}, v ≠ u → e.primitive.unit? ≠ some v := fun hv hev =>
    hv (Option.some.inj (hev.symm.trans hin))
  refine ⟨fun {v g} hv => ?_, fun {v g a} hv ha => ?_, fun {v} hv => ?_⟩
  · rw [hdrafts] at hv
    rcases Table.get?_put_eq_some_iff.1 hv with ⟨rfl, rfl⟩ | ⟨hvu, hv⟩
    · rwa [returned_cons_of_some he hin]
    · rw [returned_cons_of_ne (hother hvu)]
      exact hd.records hv
  · obtain ⟨g', hv'⟩ : ∃ g', s.drafts.get? v = some g' := by
      rw [hdrafts] at hv
      rcases Table.get?_put_eq_some_iff.1 hv with ⟨rfl, -⟩ | ⟨-, hv⟩
      · exact ⟨d, hu⟩
      · exact ⟨g, hv⟩
    rw [hbook]
    rcases mem_made_cons ha with ha | ⟨-, hmade⟩
    · exact hd.uncommitted hv' ha
    · exact hnew a hmade
  · rw [hnext] at hv
    rw [returned_cons_of_ne (hother (by omega))]
    exact hd.unborn hv

theorem lock (hd : Drafted h s) (hu : s.drafts.get? u = some d) (k : Int) : Drafted h (s.lock u k) := by
  rcases Store.lock_cases hu k with ⟨-, heq⟩ | ⟨-, heq⟩ <;> rw [heq]
  · exact hd
  -- a lock is no row
  refine ⟨fun {v g} hv => ?_, fun {v g a} hv ha => ?_, hd.unborn⟩ <;>
    rcases Table.get?_put_eq_some_iff.1 hv with ⟨rfl, rfl⟩ | ⟨-, hv⟩
  · have hrec := hd.records hu
    exact ⟨⟨hrec.key, hrec.publish⟩, hrec.accounts, hrec.entries, hrec.transfers⟩
  · exact hd.records hv
  · exact hd.uncommitted hu ha
  · exact hd.uncommitted hv ha

theorem openDraft (hd : Drafted h s) : Drafted h s.openDraft.2 := by
  have hfresh := hd.unborn (Int.le_refl s.nextDraft)
  have hmade : ∀ {r}, r ∉ made (answeredIn h s.nextDraft) := by
    intro r hr
    have hmem := mem_returned_of_made hr
    rw [hfresh] at hmem
    cases hmem
  refine ⟨fun {v g} hv => ?_, fun {v g a} hv ha => ?_, fun {v} hv => ?_⟩
  · rcases Table.get?_put_eq_some_iff.1 hv with ⟨rfl, rfl⟩ | ⟨-, hv⟩
    · rw [hfresh]
      exact .empty
    · exact hd.records hv
  · rcases Table.get?_put_eq_some_iff.1 hv with ⟨rfl, rfl⟩ | ⟨-, hv⟩
    · exact absurd ha hmade
    · exact hd.uncommitted hv ha
  · have hle : s.nextDraft + 1 ≤ v := hv
    exact hd.unborn (by omega)

/-- What one unit of work publishes has nothing to do with the drafts of the others. -/
theorem publish (hd : Drafted h s) (hs : s.Sound) (hu : s.drafts.get? u = some d) :
    Drafted h { s.discard u with book := d.publish s.book } := by
  have hdiscard := hd.discard u
  refine ⟨hdiscard.records, fun {v g a} hv ha => ?_, hd.unborn⟩
  obtain ⟨hvu, hv⟩ := Table.get?_erase_eq_some_iff.1 hv
  have hstaged : g.accounts.get? a.id ≠ none := by
    rw [(hd.records hv).accounts]
    exact lastAccount_ne_none (mem_returned_of_made ha)
  obtain ⟨a', ha'⟩ := Option.ne_none_iff_exists'.1 hstaged
  show (d.publish s.book).accounts.get? a.id = none
  rw [(hs.draft hu).publish_account, Draft.account?, (hs.apart hvu hv hu).accounts ha']
  exact hd.uncommitted hv ha

theorem silent {w : Option Int} (hd : Drafted h s) (hs : Store.Silent w s s') : Drafted h s' := by
  cases hs with
  | setting faults now => exact hd.fewer rfl (fun hv => hv) fun hk => hk
  | lock hu hk => exact hd.lock hu _
  | discard u => exact hd.discard u

theorem answer (hd : Drafted h s) (hs : s.Sound) {p : Primitive} {x : Answer} (hx : p.Answers x s s') :
    Drafted (⟨p, x, s⟩ :: h) s' := by
  cases hx with
  | beginUnit => exact hd.openDraft.neutral rfl
  | readAccount id => exact hd.neutral rfl
  | openAccount hu owner balance currency =>
    rcases Store.stageAccount_cases hu owner balance currency with ⟨e, heq⟩ | ⟨a, ha, -, -, -, -, heq⟩ <;>
      rw [heq]
    · exact hd.neutral rfl
    · refine hd.stage hu (hs.number hu) rfl rfl ((hd.records hu).account a) (fun x hx => ?_) rfl rfl rfl
      obtain rfl : a = x := Row.account.inj (Option.some.inj hx)
      exact hs.account_new ha
  | writeTransfer hu source target amount =>
    rcases Store.stageTransfer_cases hu source target amount with
      ⟨e, heq⟩ | ⟨-, -, -, t, -, -, -, -, heq⟩ <;> rw [heq]
    · exact hd.neutral rfl
    · exact hd.stage hu (hs.number hu) rfl rfl ((hd.records hu).transfer t) (by rintro a ⟨⟩) rfl rfl rfl
  | writeEntry hu account amount =>
    rcases Store.stageEntry_cases hu account amount with ⟨e, heq⟩ | ⟨-, e, -, -, -, heq⟩ <;> rw [heq]
    · exact hd.neutral rfl
    · exact hd.stage hu (hs.number hu) rfl rfl ((hd.records hu).entry e) (by rintro a ⟨⟩) rfl rfl rfl
  | @adjust _ u k d hu hk delta floor =>
    rcases Store.adjust_cases hu k delta floor with ⟨e, heq⟩ | ⟨a, b, -, -, heq⟩ <;> rw [heq]
    · exact hd.neutral rfl
    · exact hd.stage hu (hs.number hu) rfl rfl ((hd.records hu).account b) (by rintro a ⟨⟩) rfl rfl rfl
  | commit hu =>
    rcases Store.publish_cases hu with ⟨e, heq⟩ | ⟨-, heq⟩ <;> rw [heq]
    · exact (hd.discard _).neutral rfl
    · exact (hd.publish hs hu).neutral rfl
  | uncommitted e => exact (hd.discard _).neutral rfl
  | rollback r => exact (hd.discard _).neutral rfl
  | @deleteAccount _ id hid =>
    rcases Store.remove_cases s id with ⟨e, heq⟩ | ⟨-, -, heq⟩ <;> rw [heq]
    · exact hd.neutral rfl
    · have hfewer : Drafted h { s with book := { s.book with accounts := s.book.accounts.erase id } } := by
        refine hd.fewer rfl (fun hv => hv) fun {k} hk => ?_
        show (s.book.accounts.erase id).get? k = none
        rw [Table.get?_erase, hk, ite_self]
      exact hfewer.neutral rfl

theorem deed (hd : Drafted h s) (hs : s.Sound) {w : Option Int} (hdeed : Store.Deed w l s s') :
    Drafted (l ++ h) s' := by
  cases hdeed with
  | silent hsilent => exact hd.silent hsilent
  | failed hx hsilent => exact (hd.silent hsilent).neutral (Answered.row?_of_failed hx)
  | answer hx => exact hd.answer hs hx

end Drafted

/-! ### Steps that change the book -/

/-- The account is the one of its number that has been returned last, it is not committed, and its owner has got
another account in the currency. -/
structure Book.Clashes (rows : List Row) (b : Book) (a : Account) : Prop where
  last : lastAccount rows a.id = some a
  new : b.accounts.get? a.id = none
  taken : b.Taken a.owner a.currency

theorem Store.Deed.book_cases {w : Option Int} (h : Store.Deed w l s s') : s'.book = s.book ∨
    (∃ u, l = [⟨.commit u, .done (.ok ()), s⟩]) ∨ ∃ id, l = [⟨.deleteAccount id, .done (.ok ()), s⟩] := by
  have hsilent : ∀ {w s'}, Store.Silent w s s' → s'.book = s.book := fun h => by
    cases h with
    | setting faults now => rfl
    | lock hu hk =>
      rcases Store.lock_cases hu _ with ⟨-, heq⟩ | ⟨-, heq⟩ <;> rw [heq]
      rfl
    | discard u => rfl
  cases h with
  | silent h => exact .inl (hsilent h)
  | failed hx h => exact .inl (hsilent h)
  | answer hx =>
    cases hx with
    | commit hu =>
      rcases Store.publish_cases hu with ⟨e, heq⟩ | ⟨-, heq⟩ <;> rw [heq]
      · exact .inl rfl
      · exact .inr (.inl ⟨_, rfl⟩)
    | @deleteAccount _ id hid =>
      rcases Store.remove_cases s id with ⟨e, heq⟩ | ⟨-, -, heq⟩ <;> rw [heq]
      · exact .inl rfl
      · exact .inr (.inr ⟨_, rfl⟩)
    | openAccount hu owner balance currency =>
      rcases Store.stageAccount_cases hu owner balance currency with ⟨e, heq⟩ | ⟨a, -, -, -, -, -, heq⟩ <;>
        rw [heq] <;> exact .inl rfl
    | writeTransfer hu source target amount =>
      rcases Store.stageTransfer_cases hu source target amount with ⟨e, heq⟩ | ⟨-, -, -, t, -, -, -, -, heq⟩ <;>
        rw [heq] <;> exact .inl rfl
    | writeEntry hu account amount =>
      rcases Store.stageEntry_cases hu account amount with ⟨e, heq⟩ | ⟨-, e, -, -, -, heq⟩ <;>
        rw [heq] <;> exact .inl rfl
    | adjust hu hk delta floor =>
      rcases Store.adjust_cases hu _ delta floor with ⟨e, heq⟩ | ⟨a, b, -, -, heq⟩ <;> rw [heq] <;> exact .inl rfl
    | _ => exact .inl rfl

namespace Drafted

theorem clashes_of_rival? (hd : Drafted h s) (hs : s.Sound) (hu : s.drafts.get? u = some d) {a : Account}
    (ha : d.rival? s.book = some a) : s.book.Clashes (returned h u) a := by
  obtain ⟨k, hk⟩ := Table.mem_values.1 (List.mem_of_find?_eq_some ha)
  have hfound := List.find?_some ha
  simp only [Bool.and_eq_true, Bool.not_eq_true', decide_eq_true_eq] at hfound
  refine ⟨?_, ?_, hfound.2⟩
  · rw [← (hd.records hu).accounts, ((hs.draft hu).account hk).1]
    exact hk
  · refine Option.eq_none_iff_forall_ne_some.2 fun x hx => ?_
    rw [Table.contains_iff.2 ⟨x, hx⟩] at hfound
    cases hfound.1

theorem not_clashes (hd : Drafted h s) (hu : s.drafts.get? u = some d) (hnone : d.rival? s.book = none) (a : Account) :
    ¬ s.book.Clashes (returned h u) a := by
  rintro ⟨hlast, hnew, htaken⟩
  rw [← (hd.records hu).accounts] at hlast
  have hnot := List.find?_eq_none.1 hnone a (Table.mem_values_of_get? hlast)
  have hcontains : s.book.accounts.contains a.id = false := by
    refine Bool.eq_false_iff.2 fun hc => ?_
    obtain ⟨x, hx⟩ := Table.contains_iff.1 hc
    cases hnew.symm.trans hx
  simp [hcontains, htaken] at hnot

theorem commit (hd : Drafted h s) (hs : s.Sound) {w : Option Int}
    (hdeed : Store.Deed w [⟨.commit u, .done (.ok ()), s⟩] s s') : s.book.Gains (returned h u) s'.book ∧
      (∀ a, .account a ∈ made (answeredIn h u) → s.book.accounts.get? a.id = none) ∧
      ∀ a, ¬ s.book.Clashes (returned h u) a := by
  generalize hx : Answer.done (.ok ()) = x at hdeed
  cases hdeed with
  | failed hfailed =>
    subst hx
    exact hfailed.elim
  | answer hanswer =>
    cases hanswer with
    | commit hu =>
      rcases Store.publish_cases hu with ⟨e, heq⟩ | ⟨hnone, heq⟩ <;> rw [heq] at hx ⊢
      · cases hx
      · exact ⟨(hd.records hu).gains (hs.draft hu), fun a => hd.uncommitted hu, hd.not_clashes hu hnone⟩
    | uncommitted e => cases hx

/-- A commit that the store refuses is refused for an account that has been opened in its unit of work. -/
theorem refused (hd : Drafted h s) (hs : s.Sound) {err : StoreError} (herr : (s.publish u).1 = .error err) :
    ∃ a, s.book.Clashes (returned h u) a ∧ err = .ownerHasAccount a.owner a.currency.code := by
  unfold Store.publish at herr
  dsimp only at herr
  split at herr
  · rename_i a ha
    cases hu : s.drafts.get? u with
    | none =>
      -- nothing is staged in a unit of work that is not open
      rw [Store.draft, hu] at ha
      cases ha
    | some d =>
      rw [Store.draft_eq hu] at ha
      exact ⟨a, hd.clashes_of_rival? hs hu ha, (Except.error.inj herr).symm⟩
  · cases herr

/-- What has been staged in an open unit of work stands nowhere in the book. -/
theorem key_ne (hd : Drafted h s) (hs : s.Sound) (hu : s.drafts.get? u = some d) (hr : r ∈ made (answeredIn h u))
    {x : Row} (hx : x.Committed s.book) : x.key ≠ r.key := by
  intro hkey
  obtain ⟨hkind, hnumber⟩ := Prod.mk.inj hkey
  have hrec := hd.records hu
  have hreturned := mem_returned_of_made hr
  cases r with
  | account a =>
    cases x with
    | account y =>
      obtain ⟨k, hk⟩ := Table.mem_values.1 hx
      have hid : y.id = a.id := hnumber
      have hnew := hd.uncommitted hu hr
      rw [← hid, (hs.account hk).1, hk] at hnew
      cases hnew
    | _ => cases hkind
  | entry e =>
    cases x with
    | entry y =>
      obtain ⟨k, hk⟩ := Table.mem_values.1 hx
      have hid : y.id = e.id := hnumber
      have hnew := ((hs.draft hu).entry ((hrec.entries e).2 hreturned)).2
      rw [← hid, (hs.entry hk).1, hk] at hnew
      cases hnew
    | _ => cases hkind
  | transfer t =>
    cases x with
    | transfer y =>
      obtain ⟨k, hk⟩ := Table.mem_values.1 hx
      have hid : y.id = t.id := hnumber
      have hnew := ((hs.draft hu).transfer ((hrec.transfers t).2 hreturned)).2
      rw [← hid, (hs.transfer hk).1, hk] at hnew
      cases hnew
    | _ => cases hkind

end Drafted

/-! ### Commits that fail -/

open Timed

namespace Floor

variable {b : Bank} {w w' : Floor} {n : Int} {p : Primitive} {m : Act Answer}

/-- A call that is under way has come there by its own steps. -/
theorem Run.walked (hr : Run b h w) (hc : w.calls.get? n = some (p, m)) : ∃ l, Walk p.act l m := by
  induction hr generalizing n p m with
  | start => cases hc
  | step hr hs ih =>
    cases hs with
    | call q hq =>
      rcases Table.get?_put_eq_some_iff.1 hc with ⟨-, heq⟩ | ⟨-, hold⟩
      · cases heq
        exact ⟨[], .nil⟩
      · exact ih hold
    | move hc' hm hx =>
      rcases Table.get?_put_eq_some_iff.1 hc with ⟨-, heq⟩ | ⟨-, hold⟩
      · cases heq
        obtain ⟨l, hl⟩ := ih hc'
        exact ⟨_, hl.append (.cons hm .nil)⟩
      · exact ih hold
    | answer hc' hm => exact ih (Table.get?_erase_eq_some_iff.1 hc).2
    | cancel hc' hw => exact ih (Table.get?_erase_eq_some_iff.1 hc).2
    | drop hu => exact ih hc
    | change faults now refusals => exact ih hc

theorem Run.commit_error (hr : Run b h w) {err : StoreError}
    (hs : Step w [⟨.commit u, .done (.error err), w.bank.store⟩] w') :
    err = .injectedAt .commit ∨ (w.bank.store.publish u).1 = .error err := by
  generalize hl : [(⟨.commit u, .done (.error err), w.bank.store⟩ : Answered)] = l at hs
  cases hs with
  | answer hc hm =>
    cases hl
    obtain ⟨l, hwalk⟩ := hr.walked hc
    rcases Primitive.walk_commit (hwalk.append (.cons hm .nil)) with ⟨heq, -⟩ | ⟨heq, -⟩
    · exact .inr (Answer.done.inj heq).symm
    · exact .inl (Except.error.inj (Answer.done.inj heq))
  | _ => cases hl

end Floor

theorem Floor.Run.drafted {b : Bank} {w : Floor} (hb : b.store.Sound) (hdrafts : b.store.drafts = .empty)
    (hr : Floor.Run b h w) : Drafted h w.bank.store :=
  hr.induct hb (.start hdrafts) fun hs hdeed hd => hd.deed hs hdeed

/-- A commit that succeeds adds to the book the rows that have been returned in its unit of work, each account as it
was returned last; new are all but the accounts that have been adjusted. A commit that fails leaves the book as
it is: an injected failure, or an account opened in the unit whose owner has got one in the currency meanwhile. No
other step in a unit of work changes the book, nor does its end in any other way. Until the commit reads return the
rows of the book as it was, and none that has been created in the unit. -/
theorem commit_publishes_all_or_nothing {b : Bank} {w w' : Floor} (hb : b.store.Reachable)
    (hdrafts : b.store.drafts = .empty) (hr : Floor.Run b h w) (hs : Floor.Step w l w') :
    (∀ u, l = [⟨.commit u, .done (.ok ()), w.bank.store⟩] →
        w.bank.store.book.Gains (returned h u) w'.bank.store.book ∧
        (∀ a, .account a ∈ made (answeredIn h u) → w.bank.store.book.accounts.get? a.id = none) ∧
        ∀ a, ¬ w.bank.store.book.Clashes (returned h u) a) ∧
      (∀ u err, l = [⟨.commit u, .done (.error err), w.bank.store⟩] →
        w'.bank.store.book = w.bank.store.book ∧ (err = .injectedAt .commit ∨
          ∃ a, w.bank.store.book.Clashes (returned h u) a ∧ err = .ownerHasAccount a.owner a.currency.code)) ∧
      (w'.bank.store.book = w.bank.store.book ∨ (∃ u, l = [⟨.commit u, .done (.ok ()), w.bank.store⟩]) ∨
        ∃ id, l = [⟨.deleteAccount id, .done (.ok ()), w.bank.store⟩]) ∧
      ∀ (q : Bank.Reading) earlier b' rows,
        Walk q.act.run (earlier ++ [(w.bank, b')]) (.done (.ok rows)) →
        (∀ s ∈ earlier ++ [(w.bank, b')], s.2 = s.1) ∧ q.rows w.bank.store.book = .ok rows ∧
        (∀ x ∈ rows, x.Committed w.bank.store.book) ∧
        ∀ u d r x, w.bank.store.drafts.get? u = some d → r ∈ made (answeredIn h u) → x ∈ rows → x.key ≠ r.key := by
  have hw := hr.orderly hb.sound
  have hd := hr.drafted hb.sound hdrafts
  obtain ⟨v, hdeed⟩ := (hw.step hs).2
  refine ⟨?_, ?_, hdeed.book_cases, fun q earlier b' rows hwalk => ?_⟩
  · rintro u rfl
    exact hd.commit hw.sound hdeed
  · rintro u err rfl
    have hbook : w'.bank.store.book = w.bank.store.book := by
      rcases hdeed.book_cases with hbook | ⟨u', heq⟩ | ⟨id, heq⟩
      · exact hbook
      · cases heq
      · cases heq
    exact ⟨hbook, (hr.commit_error hs).imp_right (hd.refused hw.sound)⟩
  · obtain ⟨hkept, hfound⟩ := Bank.Reading.walk_act hwalk
    obtain ⟨earlier', s, hsplit, hrows⟩ := hfound rows rfl
    obtain ⟨-, hlast⟩ := List.append_inj' hsplit rfl
    cases hlast
    refine ⟨hkept, hrows, fun x hx => Bank.Reading.committed_of_rows hrows hx, fun u d r x hu hr' hx => ?_⟩
    exact hd.key_ne hw.sound hu hr' (Bank.Reading.committed_of_rows hrows hx)

/-- An account is opened and credited and another one debited, a call fails, and another unit of work commits in
between. -/
theorem publication_of_new_account : ∃ (h : List Answered) (w w' : Floor),
    Floor.Run ⟨.pair .none, [], []⟩ h w ∧ w.bank.store.book.Gains (returned h 3) w'.bank.store.book ∧
    w.bank.store.book.accounts.get? 1 = some ⟨1, "ann", 100, .cad, .epoch⟩ ∧
    w.bank.store.book.accounts.get? 2 = some ⟨2, "bob", 5, .cad, .epoch⟩ ∧
    w'.bank.store.book.accounts.get? 1 = some ⟨1, "ann", 70, .cad, .epoch⟩ ∧
    w'.bank.store.book.accounts.get? 2 = some ⟨2, "bob", 5, .cad, .epoch⟩ ∧
    w'.bank.store.book.accounts.get? 3 = some ⟨3, "cid", 30, .cad, .epoch⟩ ∧
    w'.bank.store.book.transfers.get? 1 = some ⟨1, 1, 3, 30, .epoch⟩ := by
  obtain ⟨h, w, hr, hbank, hcalls, -⟩ := Floor.Run.carry (b := ⟨.pair .none, [], []⟩) (Store.reachable_pair _).sound
    [.writeEntry 3 9 1, .commit 4, .adjust 4 2 5 false, .adjust 3 1 (-30) true, .adjust 3 3 30 false,
      .writeTransfer 3 1 3 30, .openAccount 3 "cid" 0 .cad, .beginUnit, .beginUnit] (by decide)
  obtain ⟨bank, calls, next⟩ := w
  obtain rfl : bank = _ := hbank
  obtain rfl : calls = _ := hcalls
  -- the commit looks for a delay, counts the call and publishes
  have hcall := hr.step (.call (.commit 3) fun u hu => by
    cases hu
    exact ⟨⟨_, rfl⟩, fun _ _ _ hnone => by cases hnone⟩)
  have hlook := hcall.step (.move (Table.get?_put_self _ _ _) .act (by rintro x ⟨⟩))
  have htrip := hlook.step (.move (Table.get?_put_self _ _ _) .act (by rintro x ⟨⟩))
  obtain ⟨hcommit, -⟩ := commit_publishes_all_or_nothing (Store.reachable_pair _) rfl htrip
    (.answer (Table.get?_put_self _ _ _) .act)
  exact ⟨_, _, _, htrip, (hcommit 3 rfl).1, rfl, rfl, rfl, rfl, rfl, rfl⟩

end Teller
