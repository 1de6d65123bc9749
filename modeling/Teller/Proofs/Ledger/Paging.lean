import Teller.Proofs.Holder.Use

/-!
# Page after page

Lists are read a page at a time. A client that reads the pages one after the other gets every row once, in the
order of their numbers (`Paged.upTo`), and may stop at the first page that is not full (`Paged.full`). The pages
that can be asked for suffice, since rows are numbered from one and their numbers are amounts: an offset that is
an amount, or has been clamped to the greatest one, leaves no row out.
-/

namespace Teller

/-! ### Rows are numbered from one -/

namespace Store

/-- The numbers of rows, and those that rows will be given, are positive. -/
structure Positive (s : Store) : Prop where
  next : ∀ K, 1 ≤ s.nextNumber K
  row : ∀ r, s.Has r → 1 ≤ r.number

namespace Positive

variable {w : Option Int} {s s' : Store}

theorem new_store (patience : Time.Span) (now : Time.Instant) : (Store.new patience now).Positive where
  next K := by cases K <;> exact Int.le_refl 1
  row r hr := by
    rcases hr with hr | ⟨u, d, hu, -⟩
    · cases r <;> cases hr
    · cases hu

theorem keep (h : s.Positive) (hnext : s'.nextNumber = s.nextNumber) (hrows : ∀ r, s'.Has r → s.Has r) :
    s'.Positive where
  next K := hnext ▸ h.next K
  row r hr := h.row r (hrows r hr)

/-- A row takes the next number of its kind. -/
theorem make (h : s.Positive) {r : Row} (hnumber : r.number = s.nextNumber r.kind)
    (hnext : ∀ K, s'.nextNumber K = if K = r.kind then s.nextNumber K + 1 else s.nextNumber K)
    (hrows : ∀ r', s'.Has r' → s.Has r' ∨ r' = r) : s'.Positive where
  next K := by
    have hK := h.next K
    rw [hnext]
    split <;> omega
  row r' hr' := by
    rcases hrows r' hr' with hr' | rfl
    · exact h.row r' hr'
    · exact hnumber ▸ h.next _

theorem move (h : s.Positive) (hs : s.Sound) (hm : Move w s s') : s'.Positive := by
  cases hm with
  | setting faults now => exact h.keep rfl fun r hr => hr
  | openDraft =>
    refine h.keep rfl fun r hr => ?_
    rcases hr.stage (s := s) rfl rfl with hr | hr
    · exact hr
    · cases r <;> cases hr
  | lock hu hk =>
    rcases lock_cases hu _ with ⟨-, heq⟩ | ⟨-, heq⟩ <;> rw [heq]
    · exact h
    · refine h.keep rfl fun r hr => ?_
      rcases hr.stage (s := s) rfl rfl with hr | hr
      · exact hr
      · refine .inr ⟨_, _, hu, ?_⟩
        cases r <;> exact hr
  | stageAccount hu owner balance currency =>
    rcases stageAccount_cases hu owner balance currency with ⟨e, heq⟩ | ⟨a, ha, -, -, -, -, heq⟩ <;> rw [heq]
    · exact h
    · exact h.make (r := .account a) ha (fun K => by cases K <;> rfl) fun r hr =>
        hr.add hu rfl rfl Row.Staged.of_put
  | stageTransfer hu source target amount =>
    rcases stageTransfer_cases hu source target amount with ⟨e, heq⟩ | ⟨-, -, -, t, ht, -, -, -, heq⟩ <;> rw [heq]
    · exact h
    · exact h.make (r := .transfer t) ht (fun K => by cases K <;> rfl) fun r hr =>
        hr.add hu rfl rfl Row.Staged.of_transfer
  | stageEntry hu account amount =>
    rcases stageEntry_cases hu account amount with ⟨e, heq⟩ | ⟨-, e, he, -, -, heq⟩ <;> rw [heq]
    · exact h
    · exact h.make (r := .entry e) he (fun K => by cases K <;> rfl) fun r hr =>
        hr.add hu rfl rfl Row.Staged.of_entry
  | adjust hu hk delta floor =>
    rcases adjust_cases hu _ delta floor with ⟨e, heq⟩ | ⟨a, b, ha, rfl, heq⟩ <;> rw [heq]
    · exact h
    · -- the account that is staged again has the number that it is seen with
      refine ⟨h.next, fun r hr => ?_⟩
      rcases hr.add (s := s) hu rfl rfl Row.Staged.of_put with hr | rfl
      · exact h.row r hr
      · exact h.row (.account a) (.of_seen hu ha)
  | publish hu =>
    rcases publish_cases hu with ⟨e, heq⟩ | ⟨-, heq⟩ <;> rw [heq]
    · exact h.keep rfl fun r hr => hr.discard
    · exact h.keep rfl fun r hr => hr.publish (hs.draft hu) hu
  | discard u => exact h.keep rfl fun r hr => hr.discard
  | remove hk =>
    rcases remove_cases s _ with ⟨e, heq⟩ | ⟨-, -, heq⟩ <;> rw [heq]
    · exact h
    · exact h.keep rfl fun r hr => hr.remove

end Positive

theorem Reachable.positive {s : Store} (h : s.Reachable) : s.Positive := by
  obtain ⟨patience, now, hr⟩ := h
  induction hr with
  | refl => exact .new_store patience now
  | @tail t t' hr hm ih =>
    have ht : t.Reachable := ⟨patience, now, hr⟩
    exact hm.elim fun w hm => ih.move ht.sound hm

end Store

/-! ### Rows that match, in ascending order -/

/-- The rows are those of the table that match, in ascending order of number. -/
structure Table.Lists {α : Type} (t : Table α) (number : α → Int) (P : α → Prop) (rows : List α) : Prop where
  ascending : rows.Pairwise fun x y => number x < number y
  mem : ∀ x, x ∈ rows ↔ t.get? (number x) = some x ∧ P x

/-- Numbers in a range that ascend are no more than the range has. -/
theorem length_le_of_ascending {l : List Int} (h : l.Pairwise (· < ·)) (lo hi : Int) (hlo : lo ≤ hi + 1)
    (hmem : ∀ x ∈ l, lo ≤ x ∧ x ≤ hi) : (l.length : Int) ≤ hi + 1 - lo := by
  induction l generalizing lo with
  | nil => simpa using hlo
  | cons x l ih =>
    obtain ⟨hx, hl⟩ := List.pairwise_cons.1 h
    have hbounds := hmem x List.mem_cons_self
    have hrest := ih hl (x + 1) (by omega) fun y hy => ⟨hx y hy, (hmem y (List.mem_cons_of_mem _ hy)).2⟩
    rw [List.length_cons]
    omega

namespace Table

variable {α : Type} {t : Table α} {number : α → Int}

theorem lists_filter (hnumber : ∀ k x, t.get? k = some x → number x = k) (P : α → Prop) [DecidablePred P] :
    t.Lists number P (t.values.filter fun x => decide (P x)) where
  ascending := by
    refine List.Pairwise.filter _ (List.pairwise_map.2 ?_)
    refine t.ascending.imp_of_mem fun {a b} ha hb hlt => ?_
    rw [hnumber _ _ (t.mem_rows_iff.1 ha), hnumber _ _ (t.mem_rows_iff.1 hb)]
    exact hlt
  mem x := by
    rw [List.mem_filter, mem_values, decide_eq_true_iff]
    refine and_congr_left fun _ => ⟨?_, fun h => ⟨_, h⟩⟩
    rintro ⟨k, hk⟩
    rwa [hnumber k x hk]

theorem Lists.length_le {P : α → Prop} {rows : List α} (h : t.Lists number P rows) {greatest : Int}
    (hgreatest : 0 ≤ greatest) (hrange : ∀ k x, t.get? k = some x → 1 ≤ k ∧ k ≤ greatest) :
    (rows.length : Int) ≤ greatest := by
  have hlength := length_le_of_ascending (List.pairwise_map.2 h.ascending) 1 greatest (by omega) fun n hn => by
      obtain ⟨x, hx, rfl⟩ := List.mem_map.1 hn
      exact hrange _ x ((h.mem x).1 hx).1
  rw [List.length_map] at hlength
  omega

end Table

/-- The numbers of entries and transfers are amounts. -/
structure Book.NumbersFit (b : Book) : Prop where
  entry : ∀ k e, b.entries.get? k = some e → Amount.Fits k
  transfer : ∀ k t, b.transfers.get? k = some t → Amount.Fits k

theorem Book.numbersFit_iff {b : Book} :
    b.NumbersFit ↔ (∀ r ∈ b.entries.rows, Amount.Fits r.1) ∧ ∀ r ∈ b.transfers.rows, Amount.Fits r.1 := by
  refine ⟨fun h => ⟨fun r hr => ?_, fun r hr => ?_⟩, fun h => ⟨fun k e he => ?_, fun k t ht => ?_⟩⟩
  · exact h.entry _ _ (b.entries.mem_rows_iff.1 hr)
  · exact h.transfer _ _ (b.transfers.mem_rows_iff.1 hr)
  · exact h.1 _ (b.entries.mem_rows_iff.2 he)
  · exact h.2 _ (b.transfers.mem_rows_iff.2 ht)

instance (b : Book) : Decidable b.NumbersFit :=
  decidable_of_iff _ Book.numbersFit_iff.symm

namespace Store

variable {s : Store}

theorem Sound.lists_accountsOf (h : s.Sound) (owner : String) :
    s.book.accounts.Lists (·.id) (·.owner = owner) (s.book.accountsOf owner) :=
  Table.lists_filter (fun _ _ ha => (h.account ha).1) _

theorem Sound.lists_entriesOf (h : s.Sound) (account : Int) :
    s.book.entries.Lists (·.id) (·.account = account) (s.book.entriesOf account) :=
  Table.lists_filter (fun _ _ he => (h.entry he).1) _

theorem Sound.lists_transfersOf (h : s.Sound) (account : Int) :
    s.book.transfers.Lists (·.id) (·.Involves account) (s.book.transfersOf account) :=
  Table.lists_filter (fun _ _ ht => (h.transfer ht).1) _

theorem Reachable.length_entriesOf_le (h : s.Reachable) (hfit : s.book.NumbersFit) (account : Int) :
    ((s.book.entriesOf account).length : Int) ≤ Amount.greatest := by
  refine (h.sound.lists_entriesOf account).length_le (by decide) fun k e he => ⟨?_, (hfit.entry k e he).2⟩
  rw [← (h.sound.entry he).1]
  exact h.positive.row (.entry e) (.inl (Table.mem_values_of_get? he))

theorem Reachable.length_transfersOf_le (h : s.Reachable) (hfit : s.book.NumbersFit) (account : Int) :
    ((s.book.transfersOf account).length : Int) ≤ Amount.greatest := by
  refine (h.sound.lists_transfersOf account).length_le (by decide) fun k t ht => ⟨?_, (hfit.transfer k t ht).2⟩
  rw [← (h.sound.transfer ht).1]
  exact h.positive.row (.transfer t) (.inl (Table.mem_values_of_get? ht))

end Store

/-! ### Pages of a list -/

namespace Page

variable {α : Type} {rows : List α} {number size : Int}

/-- The number of the last page whose offset is an amount. -/
def last (size : Int) : Int :=
  Amount.greatest / size + 1

theorem le_last_iff (hsize : 1 ≤ size) : number ≤ last size ↔ (number - 1) * size ≤ Amount.greatest := by
  rw [last, ← Int.le_ediv_iff_mul_le (by omega)]
  omega

theorem greatest_le_last_mul (hsize : 1 ≤ size) : Amount.greatest ≤ last size * size := by
  have hnot : ¬ (last size + 1 - 1) * size ≤ Amount.greatest := (le_last_iff hsize).not.1 (by omega)
  rw [Int.add_sub_cancel] at hnot
  omega

/-- The rows on the page of a number. -/
def rowsOf (rows : List α) (size number : Int) : List α :=
  Page.cut ⟨size, (number - 1) * size⟩ rows

theorem length_rowsOf (rows : List α) (size number : Int) :
    (rowsOf rows size number).length = min size.toNat (rows.length - ((number - 1) * size).toNat) := by
  rw [rowsOf, cut, List.length_take, List.length_drop]

theorem cut_eq_nil {page : Page} (h : (rows.length : Int) ≤ page.offset) : page.cut rows = [] := by
  rw [cut, List.drop_of_length_le (by omega), List.take_nil]

theorem rowsOf_eq_nil (h : (rows.length : Int) ≤ (number - 1) * size) : rowsOf rows size number = [] :=
  cut_eq_nil h

theorem length_rowsOf_of_lt (hsize : 1 ≤ size) {later : Int} (hlater : number < later) (hnumber : 1 ≤ number)
    (h : rowsOf rows size later ≠ []) : ((rowsOf rows size number).length : Int) = size := by
  have hoffset : (later - 1) * size < rows.length := by
    refine Int.not_le.1 fun hle => h (rowsOf_eq_nil hle)
  have hnext : number * size ≤ (later - 1) * size := Int.mul_le_mul_of_nonneg_right (by omega) (by omega)
  have hfirst : 0 ≤ (number - 1) * size := Int.mul_nonneg (by omega) (by omega)
  have hexpand : number * size = (number - 1) * size + size := by rw [Int.sub_mul]; omega
  rw [length_rowsOf]
  omega

/-- The rows up to the end of a page are those before it and its own. -/
theorem take_append_rowsOf (hsize : 1 ≤ size) (rows : List α) (n : Nat) :
    rows.take (n * size.toNat) ++ rowsOf rows size (n + 1) = rows.take ((n + 1) * size.toNat) := by
  obtain ⟨k, rfl⟩ := Int.eq_ofNat_of_zero_le (show 0 ≤ size by omega)
  have hoffset : (((n : Int) + 1 - 1) * (k : Int)).toNat = n * k := by
    rw [Int.add_sub_cancel, ← Int.natCast_mul, Int.toNat_natCast]
  rw [rowsOf, cut, hoffset, Int.toNat_natCast, Nat.succ_mul, List.take_add]

/-- A clamped offset is past all rows, as the exact one is. -/
theorem cut_numbered (hnumber : 1 ≤ number) (hsize : 1 ≤ size) (hrows : (rows.length : Int) ≤ Amount.greatest) :
    (numbered number size).cut rows = rowsOf rows size number := by
  have hoffset : 0 ≤ (number - 1) * size := Int.mul_nonneg (by omega) (by omega)
  rw [numbered_eq (.inr (by omega)), rowsOf]
  by_cases hfits : (number - 1) * size ≤ Amount.greatest
  · rw [Amount.clamp_of_fits ⟨Int.le_trans (by decide) hoffset, hfits⟩]
  · rw [Amount.clamp_of_greatest_le (by omega), cut_eq_nil hrows, cut_eq_nil (by dsimp only; omega)]

end Page

/-! ### Reading page after page -/

section

variable {ε α : Type}

/-- Reads the pages from the first one on, one after the other. -/
def readUpTo (read : Int → Attempt ε (List α)) : Nat → Attempt ε (List α)
  | 0 => ExceptT.mk (pure (.ok []))
  | n + 1 => do
    let before ← readUpTo read n
    let page ← read (n + 1)
    ExceptT.mk (pure (.ok (before ++ page)))

/-- The rows are read in full, page after page, up to the last page that can be asked for. -/
structure Paged (read : Int → Attempt ε (List α)) (size last : Int) (b : Bank) (rows : List α) : Prop where
  /-- The pages up to a number are the first rows, each once and in order. -/
  upTo : ∀ n : Nat, n ≤ last → (readUpTo read n).Gives b (.ok (rows.take (n * size.toNat))) b.store
  /-- There are as many pages as the rows need. -/
  enough : (rows.length : Int) ≤ last * size
  /-- Each page is given. -/
  given : ∀ n, 1 ≤ n → n ≤ last → ∃ xs, (read n).Gives b (.ok xs) b.store
  /-- A page before one that has rows is full. -/
  full : ∀ m n xs ys, 1 ≤ m → m < n → n ≤ last → (read m).Gives b (.ok xs) b.store →
    (read n).Gives b (.ok ys) b.store → ys ≠ [] → xs.length = size
  /-- The pages after the last row are empty. -/
  beyond : ∀ n, 1 ≤ n → n ≤ last → rows.length ≤ (n - 1) * size → (read n).Gives b (.ok []) b.store

variable {read : Int → Attempt ε (List α)} {size last : Int} {b : Bank} {rows : List α}

theorem gives_readUpTo (hsize : 1 ≤ size)
    (h : ∀ b' : Bank, b'.store = b.store → b'.refusals = b.refusals → ∀ n, 1 ≤ n → n ≤ last →
      (read n).Gives b' (.ok (Page.rowsOf rows size n)) b.store) (n : Nat) (hn : n ≤ last) :
    (readUpTo read n).Gives b (.ok (rows.take (n * size.toNat))) b.store := by
  induction n with
  | zero =>
    rw [Nat.zero_mul, List.take_zero]
    exact .done rfl _
  | succ n ih =>
    refine (ih (by omega)).bind_ok fun b' hs hr => ?_
    refine (h b' hs hr (n + 1) (by omega) (by exact_mod_cast hn)).bind_ok fun b'' hs' _ => ?_
    rw [← Page.take_append_rowsOf hsize]
    exact .done hs' _

/-- It is enough that each page has the rows of its place, whenever it is read. -/
theorem Paged.of_gives (hsize : 1 ≤ size) (henough : (rows.length : Int) ≤ last * size)
    (h : ∀ b' : Bank, b'.store = b.store → b'.refusals = b.refusals → ∀ n, 1 ≤ n → n ≤ last →
      (read n).Gives b' (.ok (Page.rowsOf rows size n)) b.store) : Paged read size last b rows where
  upTo := gives_readUpTo hsize h
  enough := henough
  given n hn hlast := ⟨_, h b rfl rfl n hn hlast⟩
  full m n xs ys hm hmn hn hxs hys hne := by
    have hx := (h b rfl rfl m hm (by omega)).value
    have hy := (h b rfl rfl n (by omega) hn).value
    obtain rfl := Except.ok.inj (hx.symm.trans hxs.value)
    obtain rfl := Except.ok.inj (hy.symm.trans hys.value)
    exact Page.length_rowsOf_of_lt hsize hmn hm hne
  beyond n hn hlast hrows := by
    have := h b rfl rfl n hn hlast
    rwa [Page.rowsOf_eq_nil hrows] at this

end

/-! ### The lists of a bank -/

namespace Holder

variable {b : Bank} {p : String} {id number size : Int}

theorem page_eq_ok (hnumber : 1 ≤ number) (hleast : leastPageSize ≤ size) (hgreatest : size ≤ greatestPageSize)
    (hlast : number ≤ Page.last size) : page number size = .ok ⟨size, (number - 1) * size⟩ := by
  have hsize : 1 ≤ size := Int.le_trans (by decide) hleast
  have hoffset : (number - 1) * size ≤ Amount.greatest := (Page.le_last_iff hsize).1 hlast
  have hfirst : 0 ≤ (number - 1) * size := Int.mul_nonneg (by omega) (by omega)
  have hnumber' : number - 1 ≤ (number - 1) * size := by
    calc number - 1 = (number - 1) * 1 := (Int.mul_one _).symm
      _ ≤ (number - 1) * size := Int.mul_le_mul_of_nonneg_left hsize (by omega)
  have hzero : Amount.least ≤ 0 := by decide
  refine page_eq_ok_iff.2 ⟨⟨hnumber, hleast, hgreatest⟩, ⟨⟨?_, ?_⟩, ?_, hoffset⟩, rfl⟩ <;> omega

/-- A page whose offset is not an amount is refused. -/
theorem page_eq_error (h : Amount.greatest < (number - 1) * size) :
    page number size = .error (.invalidPage number size leastPageSize greatestPageSize) := by
  have hnot : ∀ pg, page number size ≠ .ok pg := fun pg hpg =>
    Int.not_le.2 h (page_eq_ok_iff.1 hpg).2.1.2.2
  unfold page at hnot ⊢
  dsimp only at hnot ⊢
  split
  · rfl
  · rename_i hvalid
    rw [if_neg hvalid] at hnot
    split
    · rename_i pg hpg
      rw [hpg] at hnot
      exact absurd rfl (hnot pg)
    · rfl

theorem gives_page_of_error {e : AccountError} (h : page number size = .error e) :
    Attempt.Gives (ExceptT.mk (pure (page number size))) b (.error e) b.store := by
  rw [h]
  exact .done rfl _

theorem gives_accounts_of_error {e : AccountError} (h : page number size = .error e) (p : String) :
    (accounts p number size).Gives b (.error e) b.store :=
  (gives_page_of_error h).bind_error

theorem gives_entries_of_invalid {e : AccountError} (h : page number size = .error e) (p : String) (id : Int) :
    (entries p id number size).Gives b (.error e) b.store :=
  (gives_page_of_error h).bind_error

theorem paged_accounts (hb : b.store.Reachable) (hr : b.refusals = []) (hleast : leastPageSize ≤ size)
    (hgreatest : size ≤ greatestPageSize) (p : String) :
    Paged (accounts p · size) size (Page.last size) b (b.store.book.accountsOf p) := by
  have hsize : 1 ≤ size := Int.le_trans (by decide) hleast
  have hlength : (b.store.book.accountsOf p).length ≤ 3 := hb.length_accountsOf_le p
  have hmany : 3 ≤ Amount.greatest := by decide
  have hlast := Page.greatest_le_last_mul hsize
  refine .of_gives hsize (by omega) fun b' hs hr' n hn hn' => ?_
  have h := gives_accounts (hr'.trans hr) (page_eq_ok hn hleast hgreatest hn') p
  rwa [hs] at h

theorem paged_entries (hb : b.store.Reachable) (hr : b.refusals = []) (hfit : b.store.book.NumbersFit)
    (hleast : leastPageSize ≤ size) (hgreatest : size ≤ greatestPageSize) {a : Account}
    (hshown : b.store.book.shown p id = .ok a) :
    Paged (entries p id · size) size (Page.last size) b (b.store.book.entriesOf id) := by
  have hsize : 1 ≤ size := Int.le_trans (by decide) hleast
  have hlength := hb.length_entriesOf_le hfit id
  have hlast := Page.greatest_le_last_mul hsize
  refine .of_gives hsize (by omega) fun b' hs hr' n hn hn' => ?_
  have h := gives_entries (hr'.trans hr) (page_eq_ok hn hleast hgreatest hn') (hs ▸ hshown)
  rwa [hs] at h

end Holder

namespace Bank

variable {b : Bank} {account size : Int}

theorem gives_transfers (hr : b.refusals = []) (account : Int) (page : Page) :
    (transfers account page).Gives b (.ok (page.cut (b.store.book.transfersOf account))) b.store :=
  gives_read (f := fun s => .ok (page.cut (s.book.transfersOf account)))
    (refusal?_of_nil hr .transfers (some account))

theorem paged_transfers (hb : b.store.Reachable) (hr : b.refusals = []) (hfit : b.store.book.NumbersFit)
    (hsize : 1 ≤ size) (account : Int) :
    Paged (fun n => transfers account (.numbered n size)) size Amount.greatest b
      (b.store.book.transfersOf account) := by
  have hlength := hb.length_transfersOf_le hfit account
  have henough : Amount.greatest ≤ Amount.greatest * size := by
    calc Amount.greatest = Amount.greatest * 1 := (Int.mul_one _).symm
      _ ≤ Amount.greatest * size := Int.mul_le_mul_of_nonneg_left hsize (by decide)
  refine .of_gives hsize (by omega) fun b' hs hr' n hn _ => ?_
  have h := gives_transfers (hr'.trans hr) account (.numbered n size)
  rwa [hs, Page.cut_numbered hn hsize hlength] at h

/-- Page after page, each list of the bank gives its matching rows in ascending order of number, each once. The
pages of a principal's accounts and entries end where their offset is no longer an amount, and are refused from
there on; the pages of transfers go on, without rows. -/
theorem lists_read_by_page (hb : b.store.Reachable) (hr : b.refusals = []) (hfit : b.store.book.NumbersFit) :
    (∀ owner size, Holder.leastPageSize ≤ size → size ≤ Holder.greatestPageSize →
      b.store.book.accounts.Lists (·.id) (·.owner = owner) (b.store.book.accountsOf owner) ∧
      Paged (Holder.accounts owner · size) size (Page.last size) b (b.store.book.accountsOf owner)) ∧
    (∀ owner id size, Holder.leastPageSize ≤ size → size ≤ Holder.greatestPageSize →
      b.store.book.entries.Lists (·.id) (·.account = id) (b.store.book.entriesOf id) ∧
      (∀ a, b.store.book.shown owner id = .ok a →
        Paged (Holder.entries owner id · size) size (Page.last size) b (b.store.book.entriesOf id)) ∧
      ∀ e, b.store.book.shown owner id = .error e → ∀ n, 1 ≤ n → n ≤ Page.last size →
        (Holder.entries owner id n size).Gives b (.error e) b.store) ∧
    (∀ account size, 1 ≤ size →
      b.store.book.transfers.Lists (·.id) (·.Involves account) (b.store.book.transfersOf account) ∧
      Paged (fun n => transfers account (.numbered n size)) size Amount.greatest b
        (b.store.book.transfersOf account)) ∧
    (∀ owner id size n, Amount.greatest < (n - 1) * size →
      let refused : AccountError := .invalidPage n size Holder.leastPageSize Holder.greatestPageSize
      (Holder.accounts owner n size).Gives b (.error refused) b.store ∧
      (Holder.entries owner id n size).Gives b (.error refused) b.store ∧
      (1 ≤ n → 1 ≤ size → (transfers id (.numbered n size)).Gives b (.ok []) b.store)) := by
  refine ⟨fun owner size hleast hgreatest => ?_, fun owner id size hleast hgreatest => ⟨?_, ?_, ?_⟩,
    fun account size hsize => ?_, fun owner id size n hoffset => ⟨?_, ?_, fun hn hsize => ?_⟩⟩
  · exact ⟨hb.sound.lists_accountsOf owner, Holder.paged_accounts hb hr hleast hgreatest owner⟩
  · exact hb.sound.lists_entriesOf id
  · exact fun a hshown => Holder.paged_entries hb hr hfit hleast hgreatest hshown
  · exact fun e hshown n hn hlast =>
      Holder.gives_entries_of_error hr (Holder.page_eq_ok hn hleast hgreatest hlast) hshown
  · exact ⟨hb.sound.lists_transfersOf account, paged_transfers hb hr hfit hsize account⟩
  · exact Holder.gives_accounts_of_error (Holder.page_eq_error hoffset) owner
  · exact Holder.gives_entries_of_invalid (Holder.page_eq_error hoffset) owner id
  · have hlength := hb.length_transfersOf_le hfit id
    have h := gives_transfers hr id (.numbered n size)
    rwa [Page.cut_numbered hn hsize hlength, Page.rowsOf_eq_nil (by omega)] at h

/-- Ann pays 30. Her one entry stands on the first page of five, the last page that she can ask for is empty, and
the transfer is the only one on the first two pages of one. -/
theorem lists_read_by_page_after_payment :
    let b : Bank := ((Order.mk 1 2 30).execute ⟨false, none⟩).outcome.run ⟨.pair .none, [], []⟩ |>.state
    (Holder.entries "ann" 1 1844674407370955162 5).Gives b (.ok []) b.store ∧
      (readUpTo (Holder.entries "ann" 1 · 5) 1).Gives b (.ok [⟨1, 1, -30, .epoch⟩]) b.store ∧
      (readUpTo (fun n => transfers 2 (.numbered n 1)) 2).Gives b (.ok [⟨1, 1, 2, 30, .epoch⟩]) b.store := by
  intro b
  have hb : b.store.Reachable := by
    have h := Call.reachable_run (b := ⟨.pair .none, [], []⟩) (Store.reachable_pair .none)
      (.transfer ⟨1, 2, 30⟩ ⟨false, none⟩)
    rwa [Call.act, Timed.run_bind] at h
  have hr : b.refusals = [] := by decide +kernel
  have hfit : b.store.book.NumbersFit := by decide +kernel
  obtain ⟨-, hentries, htransfers, -⟩ := lists_read_by_page hb hr hfit
  have hshown : b.store.book.shown "ann" 1 = .ok ⟨1, "ann", 70, .cad, .epoch⟩ := by decide +kernel
  have hpaged := (hentries "ann" 1 5 (by decide) (by decide)).2.1 _ hshown
  have hentry : b.store.book.entriesOf 1 = [⟨1, 1, -30, .epoch⟩] := by decide +kernel
  have htransfer : b.store.book.transfersOf 2 = [⟨1, 1, 2, 30, .epoch⟩] := by decide +kernel
  have hone := hpaged.upTo 1 (by decide)
  have htwo := (htransfers 2 1 (by decide)).2.upTo 2 (by decide)
  rw [hentry] at hone
  rw [htransfer] at htwo
  exact ⟨hpaged.beyond _ (by decide) (by decide) (by rw [hentry]; decide), hone, htwo⟩

end Bank

end Teller
