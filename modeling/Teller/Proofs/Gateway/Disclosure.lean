import Teller.Proofs.Gateway.Confidential
import Teller.Proofs.Ledger.Conservation

/-!
# Who is told what about a transfer

A transfer is shown to the owners of its two accounts, and a principal who owns neither is denied it. The read
takes up to three rows, one after the other, and it would fail if an account of a transfer were missing. None
ever is: each leg of a transfer has an entry, and an account stays as long as there are entries of it.

The denial names the account that pays. It gives away this number, and nothing else about the transfer.
-/

namespace Teller

theorem Book.Balanced.contains_of_leg {f : Int → Int} {b : Book} (h : b.Balanced f) {k : Int} {t : Transfer}
    (ht : b.transfers.get? k = some t) {leg : Int × Int} (hleg : leg ∈ t.legs) :
    b.accounts.contains leg.1 = true := by
  have hlegs : leg ∈ b.transfers.values.flatMap Transfer.legs :=
    List.mem_flatMap.2 ⟨t, Table.mem_values_of_get? ht, hleg⟩
  obtain ⟨e, he, rfl⟩ := List.mem_map.1 (h.entries.mem_iff.2 hlegs)
  obtain ⟨j, hj⟩ := Table.mem_values.1 he
  exact h.entry hj

/-- Both accounts of a transfer are there. -/
theorem Book.Balanced.parties {f : Int → Int} {b : Book} (h : b.Balanced f) {k : Int} {t : Transfer}
    (ht : b.transfers.get? k = some t) :
    (∃ a, b.accounts.get? t.source = some a) ∧ ∃ a, b.accounts.get? t.target = some a := by
  have hsource : (t.source, -t.amount) ∈ t.legs := by simp [Transfer.legs]
  have htarget : (t.target, t.amount) ∈ t.legs := by simp [Transfer.legs]
  exact ⟨Table.contains_iff.1 (h.contains_of_leg ht hsource), Table.contains_iff.1 (h.contains_of_leg ht htarget)⟩

namespace Book

variable {b : Book} {p : String} {id k : Int} {a : Account} {t : Transfer}

theorem owns_iff (ha : b.accounts.get? id = some a) : b.Owns p id ↔ a.owner = p := by
  simp [Owns, ha]

instance (b : Book) (p : String) (id : Int) : Decidable (b.Owns p id) :=
  match h : b.accounts.get? id with
  | some _ => decidable_of_iff _ (owns_iff h).symm
  | none => isFalse fun ⟨_, ha, _⟩ => by cases h.symm.trans ha

/-- What the transfer of a number is to a principal. -/
def disclosed (b : Book) (p : String) (id : Int) : Except TransferError Transfer :=
  match b.transfers.get? id with
  | some t => if b.Owns p t.source ∨ b.Owns p t.target then .ok t else .error (.forbidden t.source)
  | none => .error (.transferNotFound id)

theorem disclosed_eq_notFound_iff :
    b.disclosed p id = .error (.transferNotFound id) ↔ b.transfers.get? id = none := by
  unfold disclosed
  split
  · rename_i t ht
    split <;> simp [ht]
  · rename_i ht
    simp [ht]

theorem disclosed_eq_ok_iff : b.disclosed p id = .ok t ↔
    b.transfers.get? id = some t ∧ (b.Owns p t.source ∨ b.Owns p t.target) := by
  unfold disclosed
  split
  · rename_i t' ht
    rw [ht]
    split
    · rename_i h
      simp only [Except.ok.injEq, Option.some.injEq]
      refine ⟨?_, And.left⟩
      rintro rfl
      exact ⟨rfl, h⟩
    · rename_i h
      simp only [reduceCtorEq, Option.some.injEq, false_iff]
      rintro ⟨rfl, h'⟩
      exact h h'
  · rename_i ht
    simp [ht]

theorem disclosed_eq_forbidden_iff : b.disclosed p id = .error (.forbidden k) ↔
    ∃ t, b.transfers.get? id = some t ∧ t.source = k ∧ ¬ b.Owns p t.source ∧ ¬ b.Owns p t.target := by
  unfold disclosed
  split
  · rename_i t ht
    rw [ht]
    split
    · rename_i h
      simp only [reduceCtorEq, Option.some.injEq, exists_eq_left', false_iff]
      rintro ⟨-, hsource, htarget⟩
      exact h.elim hsource htarget
    · rename_i h
      simp [not_or.1 h]
  · rename_i ht
    simp [ht]

theorem disclosed_ne_store (e : StoreError) : b.disclosed p id ≠ .error (.store e) := by
  unfold disclosed
  split
  · split <;> simp
  · simp

end Book

/-! ### The read alone -/

namespace Transfer

variable {p : String} {id : Int} {b : Bank} {t : Transfer} {x y : Account}

theorem value_readBy_missing (hread : b.refusal? .transfer (some id) = none)
    (ht : b.store.book.transfers.get? id = none) :
    ((readBy p id).run.run b).value = .error (.transferNotFound id) := by
  unfold readBy Bank.transfer
  rw [Bank.run_read_bind, hread, Book.transfer, ht]
  rfl

/-- The row of the transfer is asked for first, then those of its accounts, until one is the principal's. -/
theorem value_readBy (ht : b.store.book.transfers.get? id = some t)
    (hx : b.store.book.accounts.get? t.source = some x) (hy : b.store.book.accounts.get? t.target = some y) :
    ((readBy p id).run.run b).value =
      match b.refusal? .transfer (some id) with
      | some (.notFound _ _) => .error (.transferNotFound id)
      | some e => .error (.store e)
      | none =>
        match b.refusal? .account (some t.source) with
        | some e => .error (.store e)
        | none =>
          if x.owner = p then .ok t
          else
            match b.refusal? .account (some t.target) with
            | some e => .error (.store e)
            | none => if y.owner = p then .ok t else .error (.forbidden t.source) := by
  unfold readBy Bank.transfer Bank.account
  rw [Bank.run_read_bind, Book.transfer, ht]
  cases htransfer : b.refusal? .transfer (some id) with
  | some e => cases e <;> rfl
  | none =>
    dsimp only
    rw [Bank.run_read_bind, Book.account, hx]
    cases hsource : b.refusal? .account (some t.source) with
    | some e => rfl
    | none =>
      dsimp only
      by_cases hxp : x.owner = p
      · rw [if_pos hxp, if_pos hxp]
        rfl
      · rw [if_neg hxp, if_neg hxp, Bank.run_read_bind, Book.account, hy]
        cases htarget : b.refusal? .account (some t.target) with
        | some e => rfl
        | none =>
          dsimp only
          by_cases hyp : y.owner = p
          · rw [if_pos hyp, if_pos hyp]
            rfl
          · rw [if_neg hyp, if_neg hyp]
            rfl

/-- Without read faults, the rows decide. -/
theorem value_readBy_eq_disclosed {f : Int → Int} (hb : b.store.book.Balanced f)
    (htransfer : b.refusal? .transfer (some id) = none) (haccount : ∀ k, b.refusal? .account (some k) = none) :
    ((readBy p id).run.run b).value = b.store.book.disclosed p id := by
  unfold Book.disclosed
  cases ht : b.store.book.transfers.get? id with
  | none => exact value_readBy_missing htransfer ht
  | some t =>
    obtain ⟨⟨x, hx⟩, y, hy⟩ := hb.parties ht
    rw [value_readBy ht hx hy, htransfer, haccount, haccount]
    simp only [Book.owns_iff hx, Book.owns_iff hy]
    by_cases hxp : x.owner = p
    · rw [if_pos hxp, if_pos (.inl hxp)]
    · simp only [hxp, false_or, if_false]

/-- In every state that transfers, openings and removals of accounts lead to, a transfer is shown to the owners of
its accounts, anybody else is told that it is not for them, and nobody that something went wrong. -/
theorem reads_decided_by_ownership {patience : Time.Span} {now : Time.Instant} {h : List (Happening Call)}
    {w : Traffic Call Reply} (hr : Traffic.Run Call.act (Bank.new patience now) h w)
    (htransfer : ∀ k, w.bank.refusal? .transfer (some k) = none)
    (haccount : ∀ k, w.bank.refusal? .account (some k) = none) (p : String) (id : Int) :
    let b := w.bank.store.book
    let x := ((readBy p id).run.run w.bank).value
    (x = .error (.transferNotFound id) ↔ ∀ t ∈ b.transfers.values, t.id ≠ id) ∧
      (∀ t, x = .ok t ↔ (t ∈ b.transfers.values ∧ t.id = id) ∧ (b.Owns p t.source ∨ b.Owns p t.target)) ∧
      (∀ k, x = .error (.forbidden k) ↔ ∃ t, (t ∈ b.transfers.values ∧ t.id = id) ∧ t.source = k ∧
        ¬ b.Owns p t.source ∧ ¬ b.Owns p t.target) ∧
      ∀ e, x ≠ .error (.store e) := by
  intro b x
  obtain ⟨stage, hw, hb⟩ := hr.balanced
  have hsound : w.bank.store.Sound := hw.inv
  have hx : x = b.disclosed p id := value_readBy_eq_disclosed hb (htransfer id) haccount
  have hmem {t : Transfer} : t ∈ b.transfers.values ∧ t.id = id ↔ b.transfers.get? id = some t := by
    rw [Table.mem_values]
    refine ⟨fun ⟨⟨k, hk⟩, hid⟩ => ?_, fun ht => ⟨⟨id, ht⟩, (hsound.transfer ht).1⟩⟩
    rwa [← hid, (hsound.transfer hk).1]
  have hmissing : (∀ t ∈ b.transfers.values, t.id ≠ id) ↔ b.transfers.get? id = none := by
    simp only [Option.eq_none_iff_forall_ne_some, ne_eq, ← hmem, not_and]
  simp only [hx, hmem, hmissing]
  exact ⟨Book.disclosed_eq_notFound_iff, fun t => Book.disclosed_eq_ok_iff, fun k => Book.disclosed_eq_forbidden_iff,
    Book.disclosed_ne_store⟩

/-- Ann has paid Bob: both may read the transfer, Carol may not. -/
theorem transfer_read_by_three : ∃ h w, Traffic.Run Call.act (Bank.new (.millis 5000) .epoch) h w ∧
    (∀ k, w.bank.refusal? .transfer (some k) = none) ∧ (∀ k, w.bank.refusal? .account (some k) = none) ∧
    ((readBy "ann" 1).run.run w.bank).value = .ok ⟨1, 1, 2, 30, .epoch⟩ ∧
    ((readBy "bob" 1).run.run w.bank).value = .ok ⟨1, 1, 2, 30, .epoch⟩ ∧
    ((readBy "carol" 1).run.run w.bank).value = .error (.forbidden 1) ∧
    ((readBy "ann" 2).run.run w.bank).value = .error (.transferNotFound 2) := by
  obtain ⟨h, w, hr, hb⟩ := exists_run_transfer
  have hrefusals : w.bank.refusals = [] := by
    rw [hb]
    rfl
  have htransfer : ∀ k, w.bank.refusal? .transfer (some k) = none :=
    fun k => Bank.refusal?_of_nil hrefusals _ _
  have haccount : ∀ k, w.bank.refusal? .account (some k) = none :=
    fun k => Bank.refusal?_of_nil hrefusals _ _
  have htransfers : w.bank.store.book.transfers.values = [⟨1, 1, 2, 30, .epoch⟩] := by
    rw [hb]
    rfl
  have howns : w.bank.store.book.Owns "ann" 1 ∧ w.bank.store.book.Owns "bob" 2 ∧
      ¬ w.bank.store.book.Owns "carol" 1 ∧ ¬ w.bank.store.book.Owns "carol" 2 := by
    rw [hb]
    decide
  have hreads := reads_decided_by_ownership hr htransfer haccount
  refine ⟨h, w, hr, htransfer, haccount, ?_, ?_, ?_, ?_⟩
  · exact ((hreads "ann" 1).2.1 _).2 ⟨by simp [htransfers], .inl howns.1⟩
  · exact ((hreads "bob" 1).2.1 _).2 ⟨by simp [htransfers], .inr howns.2.1⟩
  · exact ((hreads "carol" 1).2.2.1 1).2 ⟨_, ⟨by rw [htransfers]; exact List.mem_singleton.2 rfl, rfl⟩, rfl, howns.2.2⟩
  · exact (hreads "ann" 2).1.2 (by simp [htransfers])

end Transfer

/-! ### What a denial gives away -/

/-- There is such a transfer, between two accounts that are there and are not the principal's. -/
structure Bank.Denies (p : String) (id : Int) (t : Transfer) (b : Bank) : Prop where
  transfer : b.store.book.transfers.get? id = some t
  source : ∃ a, b.store.book.accounts.get? t.source = some a ∧ a.owner ≠ p
  target : ∃ a, b.store.book.accounts.get? t.target = some a ∧ a.owner ≠ p

/-- What is told to somebody who owns neither account, by the read faults that are met at the transfer and at
its accounts. -/
def Transfer.denial (id source : Int) (transfer accounts : Option StoreError) : TransferError :=
  match transfer, accounts with
  | some (.notFound _ _), _ => .transferNotFound id
  | some e, _ => .store e
  | none, some e => .store e
  | none, none => .forbidden source

/-- The read fault that is met first at the two accounts of a transfer. -/
def Bank.accountRefusal? (b : Bank) (t : Transfer) : Option StoreError :=
  (b.refusal? .account (some t.source)).or (b.refusal? .account (some t.target))

namespace Bank.Denies

variable {p : String} {id : Int} {t t' : Transfer} {b c : Bank}

theorem value_readBy (h : b.Denies p id t) : ((Transfer.readBy p id).run.run b).value =
    .error (Transfer.denial id t.source (b.refusal? .transfer (some id)) (b.accountRefusal? t)) := by
  obtain ⟨x, hx, hxp⟩ := h.source
  obtain ⟨y, hy, hyp⟩ := h.target
  rw [Transfer.value_readBy h.transfer hx hy, Bank.accountRefusal?, if_neg hxp, if_neg hyp]
  cases b.refusal? .transfer (some id) with
  | some e => cases e <;> rfl
  | none =>
    cases b.refusal? .account (some t.source) with
    | some e => rfl
    | none => cases b.refusal? .account (some t.target) <;> rfl

end Bank.Denies

namespace Gateway

theorem blind_serveTransfer {p : String} {raw : List Char} {id : Int} {R : Bank → Bank → Prop}
    (hid : rowNumber raw = pure id) (h : (Transfer.readBy p id).run.Blind R Timed.any) :
    (serveTransfer p raw).run.Blind R Timed.any := by
  unfold serveTransfer
  rw [hid, pure_bind]
  exact blind_forTransfers h _

/-- Two transfers of other people are denied in the same words, over the service and over HTTP, if they have one
account that pays, whoever owns it, whatever the account that is paid and whatever the amount; unless a read
fails, the words are not the same otherwise. -/
theorem denial_gives_source_away {p : String} {id : Int} {t t' : Transfer} {b c : Bank} (hb : b.Denies p id t)
    (hc : c.Denies p id t') (htransfer : b.refusal? .transfer (some id) = c.refusal? .transfer (some id))
    (haccounts : b.accountRefusal? t = c.accountRefusal? t') :
    (t.source = t'.source →
      ((Transfer.readBy p id).run.run b).value = ((Transfer.readBy p id).run.run c).value ∧
        ∀ (terms : Terms) (r : Request) (raw : List Char), r.method = "GET" → r.principal? = some p →
          r.route? = some (.transfer raw) → rowNumber raw = pure id →
          ((respond terms r).run b).value = ((respond terms r).run c).value) ∧
      (b.refusal? .transfer (some id) = none → b.accountRefusal? t = none →
        ((Transfer.readBy p id).run.run b).value = ((Transfer.readBy p id).run.run c).value →
        t.source = t'.source) := by
  refine ⟨fun hsource => ?_, fun hnone hnone' hvalue => ?_⟩
  · have hvalue : ((Transfer.readBy p id).run.run b).value = ((Transfer.readBy p id).run.run c).value := by
      rw [hb.value_readBy, hc.value_readBy, htransfer, haccounts, hsource]
    have hblind : (Transfer.readBy p id).run.Blind (fun s s' => s = b ∧ s' = c) Timed.any := by
      rintro s s' ⟨rfl, rfl⟩
      exact ⟨hvalue, trivial⟩
    refine ⟨hvalue, fun terms r raw hmethod hp hroute hid => ?_⟩
    have hserve : serve terms r = serveTransfer p raw := by
      rw [serve_of_served hp hroute (by rw [hmethod]; simp [Route.methods]) rfl, serveRoute]
    have hanswer := (blind_serveTransfer hid hblind b c ⟨rfl, rfl⟩).1
    rw [value_respond, value_respond, hserve, hanswer]
  · rw [hb.value_readBy, hc.value_readBy, ← htransfer, ← haccounts, hnone, hnone'] at hvalue
    exact TransferError.forbidden.inj (Except.error.inj hvalue)

/-- Carol cannot tell a transfer from Ann to Bob from one between two other people. -/
theorem denials_alike :
    let b : Bank := ⟨{ Store.pair .none with
      book := { (Store.pair .none).book with transfers := Table.empty.put 1 ⟨1, 1, 2, 30, .epoch⟩ } }, [], []⟩
    let book : Book := ⟨(Table.empty.put 1 ⟨1, "dora", 0, .usd, .epoch⟩).put 3 ⟨3, "erik", 70, .usd, .epoch⟩, .empty,
      Table.empty.put 1 ⟨1, 1, 3, 70, .epoch⟩⟩
    let c : Bank := ⟨{ Store.pair .none with book := book }, [], []⟩
    let r : Request := ⟨"GET", "/api/v1/transfers/1", [("x-principal", "carol")], ""⟩
    ((respond ⟨false, none⟩ r).run b).value.status = 401 ∧
      ((Transfer.readBy "carol" 1).run.run b).value = ((Transfer.readBy "carol" 1).run.run c).value ∧
      ((respond ⟨false, none⟩ r).run b).value = ((respond ⟨false, none⟩ r).run c).value := by
  intro b book c r
  have hb : b.Denies "carol" 1 ⟨1, 1, 2, 30, .epoch⟩ := ⟨rfl, ⟨_, rfl, by decide⟩, ⟨_, rfl, by decide⟩⟩
  have hc : c.Denies "carol" 1 ⟨1, 1, 3, 70, .epoch⟩ := ⟨rfl, ⟨_, rfl, by decide⟩, ⟨_, rfl, by decide⟩⟩
  have hid : rowNumber ['1'] = pure 1 := by
    have htext : Percent.text? ['1'] = some ['1'] := by decide +kernel
    have hnumber : Numeral.readAmount ['1'] = .ok 1 := by decide +kernel
    simp only [rowNumber, htext, hnumber]
  obtain ⟨hvalue, hanswer⟩ := (denial_gives_source_away hb hc rfl rfl).1 rfl
  exact ⟨by decide +kernel, hvalue, hanswer ⟨false, none⟩ r ['1'] rfl (by decide +kernel) (by decide +kernel) hid⟩

/-- She can tell whether Ann has paid Bob or Bob has paid Ann, so not every two denials are alike. -/
theorem denials_told_apart : ∃ h w h' w', Traffic.Run Call.act (Bank.new (.millis 5000) .epoch) h w ∧
    Traffic.Run Call.act (Bank.new (.millis 5000) .epoch) h' w' ∧
    w.bank.Denies "carol" 1 ⟨1, 1, 2, 30, .epoch⟩ ∧ w'.bank.Denies "carol" 1 ⟨1, 2, 1, 30, .epoch⟩ ∧
    w.bank.refusals = [] ∧ w'.bank.refusals = [] ∧
    ((Transfer.readBy "carol" 1).run.run w.bank).value ≠ ((Transfer.readBy "carol" 1).run.run w'.bank).value ∧
    let r : Request := ⟨"GET", "/api/v1/transfers/1", [("x-principal", "carol")], ""⟩
    ((respond ⟨false, none⟩ r).run w.bank).value ≠ ((respond ⟨false, none⟩ r).run w'.bank).value := by
  obtain ⟨h, w, hr, hb⟩ := exists_run_order 100 100 ⟨1, 2, 30⟩
  obtain ⟨h', w', hr', hb'⟩ := exists_run_order 100 100 ⟨2, 1, 30⟩
  refine ⟨h, w, h', w', hr, hr', ?_, ?_, ?_, ?_, ?_, ?_⟩
  · rw [hb]
    exact ⟨rfl, ⟨_, rfl, by decide⟩, ⟨_, rfl, by decide⟩⟩
  · rw [hb']
    exact ⟨rfl, ⟨_, rfl, by decide⟩, ⟨_, rfl, by decide⟩⟩
  · rw [hb]
    rfl
  · rw [hb']
    rfl
  · rw [hb, hb']
    decide
  · rw [hb, hb']
    decide +kernel

end Gateway

end Teller
