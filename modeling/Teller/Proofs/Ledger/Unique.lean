import Teller.Proofs.Bank.Floor
import Teller.Proofs.Bank.History
import Teller.Proofs.Ledger.Call

/-!
# One account for an owner in a currency

Staging an account looks at what the unit of work has staged itself and at what is committed; the commit
looks again at what is committed, but only for accounts that are not. That is enough, by an invariant
about the new rows of each open unit: two of them are never of one owner in one currency
(`Store.Unique`). A staged row of a committed account is no new row, and it does not become one when an
account is removed, because its row is locked.
-/

namespace Teller

/-- Accounts by number, no two of which are of one owner in one currency. -/
def Account.Unique (p : Int → Account → Prop) : Prop :=
  ∀ j k a b, p j a → p k b → a.owner = b.owner → a.currency = b.currency → j = k

namespace Account.Unique

variable {p q r : Int → Account → Prop}

/-- Balances do not matter. -/
theorem of_like (h : Unique p)
    (hq : ∀ j a, q j a → ∃ b, p j b ∧ b.owner = a.owner ∧ b.currency = a.currency) : Unique q := by
  intro j k a b ha hb howner hcurrency
  obtain ⟨x, hx, hxo, hxc⟩ := hq j a ha
  obtain ⟨y, hy, hyo, hyc⟩ := hq k b hb
  exact h j k x y hx hy (by rw [hxo, hyo, howner]) (by rw [hxc, hyc, hcurrency])

theorem mono (h : Unique p) (hq : ∀ j a, q j a → p j a) : Unique q :=
  h.of_like fun j a ha => ⟨a, hq j a ha, rfl, rfl⟩

theorem or (hp : Unique p) (hq : Unique q)
    (hpq : ∀ j k a b, p j a → q k b → a.owner = b.owner → a.currency ≠ b.currency) :
    Unique fun j a => p j a ∨ q j a := by
  rintro j k a b (ha | ha) (hb | hb) howner hcurrency
  · exact hp j k a b ha hb howner hcurrency
  · exact absurd hcurrency (hpq j k a b ha hb howner)
  · exact absurd hcurrency.symm (hpq k j b a hb ha howner.symm)
  · exact hq j k a b ha hb howner hcurrency

end Account.Unique

/-- The account is staged, and not committed. -/
def Draft.New (d : Draft) (b : Book) (k : Int) (a : Account) : Prop :=
  d.accounts.get? k = some a ∧ b.accounts.get? k = none

/-- Neither the committed accounts nor the new ones of a unit of work have two of one owner in one
currency. -/
structure Store.Unique (s : Store) : Prop where
  book : Account.Unique fun k a => s.book.accounts.get? k = some a
  draft : ∀ {u d}, s.drafts.get? u = some d → Account.Unique (d.New s.book)

/-- No two accounts are of one owner in one currency. -/
def Book.Unique (b : Book) : Prop :=
  ∀ x ∈ b.accounts.values, ∀ y ∈ b.accounts.values,
    x.owner = y.owner → x.currency = y.currency → x = y

variable {w : Option Int} {s s' : Store} {u k : Int} {d e : Draft} {a : Account}

theorem Book.not_taken {b : Book} {owner : String} {currency : Currency} (h : ¬ b.Taken owner currency)
    (ha : b.accounts.get? k = some a) (howner : a.owner = owner) : a.currency ≠ currency :=
  fun hcurrency => h ⟨a, Table.mem_values_of_get? ha, howner, hcurrency⟩

theorem Draft.not_stages {owner : String} {currency : Currency} (h : ¬ d.Stages owner currency)
    (ha : d.accounts.get? k = some a) (howner : a.owner = owner) : a.currency ≠ currency :=
  fun hcurrency => h ⟨a, Table.mem_values_of_get? ha, howner, hcurrency⟩

/-- A commit that succeeds has found no committed account of the owner of a new one. -/
theorem Draft.Sound.not_taken (h : d.Sound s) (hrival : d.rival? s.book = none) (ha : d.New s.book k a) :
    ¬ s.book.Taken a.owner a.currency := by
  obtain ⟨hstaged, hnew⟩ := ha
  have hnone := List.find?_eq_none.1 hrival a (Table.mem_values_of_get? hstaged)
  rw [(h.account hstaged).1] at hnone
  simpa [Table.contains, hnew] using hnone

namespace Store.Unique

theorem stage (h : s.Unique) (hbook : s'.book = s.book) (hdrafts : s'.drafts = s.drafts.put u e)
    (he : Account.Unique (e.New s.book)) : s'.Unique := by
  refine ⟨hbook ▸ h.book, fun {v f} hv => ?_⟩
  rw [hdrafts] at hv
  rw [hbook]
  rcases Table.get?_put_eq_some_iff.1 hv with ⟨-, rfl⟩ | ⟨-, hv⟩
  · exact he
  · exact h.draft hv

theorem discard (h : s.Unique) (u : Int) : (s.discard u).Unique :=
  ⟨h.book, fun hv => h.draft (Table.get?_erase_eq_some_iff.1 hv).2⟩

theorem stageAccount (h : s.Unique) (hu : s.drafts.get? u = some d) (owner : String)
    (balance : Int) (currency : Currency) : (s.stageAccount u owner balance currency).2.Unique := by
  rcases stageAccount_cases hu owner balance currency with
    ⟨e, heq⟩ | ⟨a, -, -, ⟨howner, hcurrency⟩, hstages, -, heq⟩ <;> rw [heq]
  · exact h
  refine h.stage rfl rfl ?_
  have hone : Account.Unique fun j x => j = a.id ∧ x = a := by
    rintro j k x y ⟨rfl, -⟩ ⟨rfl, -⟩ - -
    rfl
  refine ((h.draft hu).or hone ?_).mono ?_
  · rintro j k x y ⟨hx, -⟩ ⟨-, rfl⟩ hxo
    rw [hcurrency]
    exact Draft.not_stages hstages hx (hxo.trans howner)
  · rintro j x ⟨hx, hnew⟩
    rcases Table.get?_put_eq_some_iff.1 hx with ⟨rfl, rfl⟩ | ⟨-, hx⟩
    · exact .inr ⟨rfl, rfl⟩
    · exact .inl ⟨hx, hnew⟩

theorem adjust (h : s.Unique) (hs : s.Sound) (hu : s.drafts.get? u = some d) (k delta : Int)
    (floor : Bool) : (s.adjust u k delta floor).2.Unique := by
  rcases adjust_cases hu k delta floor with ⟨e, heq⟩ | ⟨a, b, ha, rfl, heq⟩ <;> rw [heq]
  · exact h
  refine h.stage rfl rfl ((h.draft hu).of_like ?_)
  rintro j x ⟨hx, hnew⟩
  rcases Table.get?_put_eq_some_iff.1 hx with ⟨rfl, rfl⟩ | ⟨-, hx⟩
  · -- a new account is adjusted as it was staged before
    obtain ⟨hid, -⟩ := hs.seen hu ha
    have hseen := seen?_of_seen ha
    replace hnew : s.book.accounts.get? a.id = none := hnew
    rw [seen?_eq hu, ← hid, hnew, Option.or_none] at hseen
    exact ⟨a, ⟨hseen, hnew⟩, rfl, rfl⟩
  · exact ⟨x, ⟨hx, hnew⟩, rfl, rfl⟩

theorem publish (h : s.Unique) (hs : s.Sound) (hu : s.drafts.get? u = some d) :
    (s.publish u).2.Unique := by
  rcases publish_cases hu with ⟨e, heq⟩ | ⟨hrival, heq⟩ <;> rw [heq]
  · exact h.discard u
  have hd := hs.draft hu
  have hpublish {k} : (d.publish s.book).accounts.get? k = d.account? s.book k := hd.publish_account
  refine ⟨?_, fun {v e} hv => ?_⟩
  · -- what is committed now was committed before, up to balances, or is new
    refine (h.book.or (h.draft hu) ?_).of_like ?_
    · intro j k a b ha hb
      exact Book.not_taken (hd.not_taken hrival hb) ha
    · intro j a ha
      replace ha : d.account? s.book j = some a := hpublish ▸ ha
      rw [Draft.account?] at ha
      cases hstaged : d.accounts.get? j with
      | none =>
        rw [hstaged, Option.none_or] at ha
        exact ⟨a, .inl ha, rfl, rfl⟩
      | some b =>
        rw [hstaged, Option.some_or] at ha
        obtain rfl := Option.some.inj ha
        cases hold : s.book.accounts.get? j with
        | none => exact ⟨b, .inr ⟨hstaged, hold⟩, rfl, rfl⟩
        | some a₀ =>
          obtain ⟨-, x, rfl⟩ := hd.original hstaged hold
          exact ⟨a₀, .inl rfl, rfl, rfl⟩
  · refine (h.draft (Table.get?_erase_eq_some_iff.1 hv).2).mono ?_
    rintro j a ⟨ha, hnew⟩
    replace hnew : d.account? s.book j = none := hpublish ▸ hnew
    exact ⟨ha, (Option.or_eq_none_iff.1 hnew).2⟩

theorem remove (h : s.Unique) (hs : s.Sound) (hk : s.Free none k) : (s.remove k).2.Unique := by
  rcases remove_cases s k with ⟨e, heq⟩ | ⟨⟨a₀, h₀⟩, -, heq⟩ <;> rw [heq]
  · exact h
  refine ⟨h.book.mono fun j a ha => (Table.get?_erase_eq_some_iff.1 ha).2, fun {u d} hu => ?_⟩
  refine (h.draft hu).mono ?_
  rintro j a ⟨ha, hnew⟩
  replace hnew : (s.book.accounts.erase k).get? j = none := hnew
  have hjk : j ≠ k := by
    rintro rfl
    cases hs.free_iff.1 hk u d hu ((hs.draft hu).original ha h₀).1
  exact ⟨ha, by rwa [Table.get?_erase_of_ne hjk] at hnew⟩

theorem move (h : s.Unique) (hs : s.Sound) (hm : Move w s s') : s'.Unique := by
  cases hm with
  | setting faults now => exact ⟨h.book, h.draft⟩
  | openDraft => exact h.stage rfl rfl fun j k a b ha => by cases ha.1
  | lock hu hk =>
    rcases lock_cases hu _ with ⟨-, heq⟩ | ⟨-, heq⟩ <;> rw [heq]
    · exact h
    · have hold := h.draft hu
      exact h.stage rfl rfl hold
  | stageAccount hu owner balance currency => exact h.stageAccount hu owner balance currency
  | stageTransfer hu source target amount =>
    rcases stageTransfer_cases hu source target amount with ⟨e, heq⟩ | ⟨-, -, -, t, -, -, -, -, heq⟩ <;>
      rw [heq]
    · exact h
    · have hold := h.draft hu
      exact h.stage rfl rfl hold
  | stageEntry hu account amount =>
    rcases stageEntry_cases hu account amount with ⟨e, heq⟩ | ⟨-, x, -, -, -, heq⟩ <;> rw [heq]
    · exact h
    · have hold := h.draft hu
      exact h.stage rfl rfl hold
  | adjust hu hk delta floor => exact h.adjust hs hu _ delta floor
  | publish hu => exact h.publish hs hu
  | discard u => exact h.discard u
  | remove hk => exact h.remove hs hk

theorem book_unique (h : s.Unique) : s.book.Unique := by
  intro x hx y hy howner hcurrency
  obtain ⟨j, hj⟩ := Table.mem_values.1 hx
  obtain ⟨k, hk⟩ := Table.mem_values.1 hy
  obtain rfl := h.book j k x y hj hk howner hcurrency
  exact Option.some.inj (hj.symm.trans hk)

end Store.Unique

theorem Store.Reachable.unique (h : s.Reachable) : s.Unique := by
  obtain ⟨patience, now, hr⟩ := h
  induction hr with
  | refl => exact ⟨fun j k a b ha => (by cases ha), fun hu => (by cases hu)⟩
  | @tail t t' hr hm ih =>
    have ht : t.Reachable := ⟨patience, now, hr⟩
    obtain ⟨w, hm⟩ := hm
    exact ih.move ht.sound hm

theorem Call.keeps_reachable : protocol.Keeps Store.Reachable where
  quiet _ hm _ hs := hs.move hm
  effect _ hm _ hs := hs.move hm

theorem Traffic.Run.reachable {b : Bank} {h : List (Happening Call)} {w : Traffic Call Reply}
    (hb : b.store.Reachable) (hr : Traffic.Run Call.act b h w) : w.bank.store.Reachable :=
  Call.keeps_reachable.all Call.kept hb.sound hr hb

/-- After a call that nobody interferes with. -/
theorem Call.reachable_run {b : Bank} (hb : b.store.Reachable) (c : Call) : (c.act.run b).state.store.Reachable := by
  obtain ⟨h, w, hr, hbank, -⟩ := Traffic.Run.start.alone c
  exact hbank ▸ hr.reachable hb

theorem Store.Sound.nodup_accountsOf (hs : s.Sound) (owner : String) : (s.book.accountsOf owner).Nodup := by
  have hvalues : s.book.accounts.values.Nodup :=
    .of_map Account.id (Table.nodup_map_values fun k a ha => (hs.account ha).1)
  exact hvalues.filter _

/-- An owner has at most one account for each currency. -/
theorem Store.Reachable.length_accountsOf_le (h : s.Reachable) (owner : String) :
    (s.book.accountsOf owner).length ≤ Currency.all.length := by
  have hcurrencies : ((s.book.accountsOf owner).map (·.currency)).Nodup := by
    refine (h.sound.nodup_accountsOf owner).map_on fun x hx y hy hcurrency => ?_
    obtain ⟨hx, hxo⟩ := List.mem_filter.1 hx
    obtain ⟨hy, hyo⟩ := List.mem_filter.1 hy
    exact h.unique.book_unique x hx y hy ((of_decide_eq_true hxo).trans (of_decide_eq_true hyo).symm) hcurrency
  have hlength := (List.subperm_of_subset hcurrencies fun c _ => c.mem_all).length_le
  rwa [List.length_map] at hlength

/-- Whatever units of work are open at the same time, whatever they stage and however they end, and
whatever accounts are opened and removed besides, there are no two accounts of one owner in one currency. -/
theorem one_account_per_owner_and_currency {b : Bank} (hb : b.store.Reachable) :
    (∀ h w, Floor.Run b h w → w.bank.store.book.Unique) ∧
      (∀ h w, Traffic.Run Call.act b h w → w.bank.store.book.Unique) ∧
      ∀ s, Relation.ReflTransGen (fun s t => ∃ w, Store.Move w s t) b.store s → s.book.Unique := by
  refine ⟨fun h w hr => ?_, fun h w hr => ?_, fun s hs => ?_⟩
  · exact (hr.reachable hb).unique.book_unique
  · exact (hr.reachable hb).unique.book_unique
  · obtain ⟨patience, now, hnew⟩ := hb
    have hs' : s.Reachable := ⟨patience, now, hnew.trans hs⟩
    exact hs'.unique.book_unique

/-- Two units of work have staged an account for the same owner, and both commit. -/
theorem unique_after_race : ∃ h w, Floor.Run (.new (.millis 5000) .epoch) h w ∧
    h.map (·.answer) = [.done (.error (.ownerHasAccount "ann" "CAD")), .done (.ok ()),
      .account (.ok ⟨2, "ann", 50, .cad, .epoch⟩), .account (.ok ⟨1, "ann", 100, .cad, .epoch⟩),
      .unit (.ok 2), .unit (.ok 1)] ∧
    w.bank.store.book.accounts.values = [⟨1, "ann", 100, .cad, .epoch⟩] ∧ w.bank.store.book.Unique := by
  have hb : (Bank.new (.millis 5000) .epoch).store.Reachable := .new (.millis 5000) .epoch
  obtain ⟨h, w, hr, hbank, -, hh⟩ := Floor.Run.carry (b := .new (.millis 5000) .epoch) hb.sound
    [.commit 2, .commit 1, .openAccount 2 "ann" 50 .cad, .openAccount 1 "ann" 100 .cad, .beginUnit,
      .beginUnit] (by decide)
  have hanswers : h.map (·.answer) = (h.map fun e => (e.primitive, e.answer)).map (·.2) := by
    rw [List.map_map]
    rfl
  refine ⟨h, w, hr, ?_, ?_, (one_account_per_owner_and_currency hb).1 h w hr⟩
  · rw [hanswers, hh]
    rfl
  · rw [hbank]
    rfl

end Teller
