import Teller.Proofs.Ledger.Atomic

/-!
# Removal of accounts among transfers

An account is removed only if no transfer involves it, and it is gone from then on: whatever units of
work are open at that moment, none of them has staged it or locked its row, so none can publish an
adjustment of it later (`Store.Closed`). Transfers never go away, so there was none before either. A
transfer that is under way at that moment comes to a failure.
-/

namespace Teller

/-- The account is gone, and no transfer involves it. -/
structure Store.Closed (id : Int) (s : Store) : Prop where
  gone : s.Gone id
  transfers : ∀ t ∈ s.book.transfers.values, ¬ t.Involves id

variable {b₀ b b' : Bank} {h : List (Happening Call)} {w : Traffic Call Reply} {n m id : Int} {c : Call}
  {o : Order} {terms : Terms}

namespace Call

theorem keeps_transfer (k : Int) (t : Transfer) :
    protocol.Keeps fun s => s.book.transfers.get? k = some t where
  quiet _ _ hbook ht := by rw [hbook]; exact ht
  effect {c x u b b'} _ _ hx ht := by
    rcases effect_book hx with ⟨o, r, hp⟩ | ⟨a, ho⟩ | ⟨id, hrem⟩ | hbook
    · have hne : k ≠ r.transfer.id := by
        rintro rfl
        have hnew := hp.newTransfer
        rw [ht] at hnew
        cases hnew
      rw [hp.book]
      exact (Table.get?_put_of_ne hne _).trans ht
    · rw [ho.book]; exact ht
    · rw [hrem.book]; exact ht
    · rw [hbook]; exact ht

theorem keeps_closed (id : Int) : protocol.Keeps (Store.Closed id) where
  quiet hs hm hbook hc := ⟨hm.gone hs hc.gone, by rw [hbook]; exact hc.transfers⟩
  effect {c x u b b'} hs hm hx hc := by
    refine ⟨hm.gone hs hc.gone, fun t ht => ?_⟩
    rcases effect_book hx with ⟨o, r, hp⟩ | ⟨a, ho⟩ | ⟨k, hrem⟩ | hbook
    · rcases List.mem_cons.1 (hp.transfers_perm.mem_iff.1 ht) with rfl | ht
      · -- both accounts of a new transfer are in the book
        obtain ⟨x, y, hsource, htarget, -⟩ := hp.accounts fun ha => (hs.account ha).1
        have hnone := hc.gone.book
        obtain ⟨hrs, hrt, -⟩ := hp.records.transfer
        rintro (hid | hid)
        · rw [← hid, hrs, hsource] at hnone
          cases hnone
        · rw [← hid, hrt, htarget] at hnone
          cases hnone
      · exact hc.transfers t ht
    · rw [ho.book] at ht; exact hc.transfers t ht
    · rw [hrem.book] at ht; exact hc.transfers t ht
    · rw [hbook] at ht; exact hc.transfers t ht

theorem closed_of_removed {s s' : Bank} (hx : c.effect (.removed id) s s') : s'.store.Closed id := by
  have h : Bank.effect c.opening (.removed id) s s' := by
    cases c with
    | transfer o terms => exact hx.elim
    | submit r terms => exact hx.1.elim
    | _ => exact hx
  obtain ⟨hrem, -, hgone⟩ := h
  refine ⟨hgone, fun t ht hid => hrem.unreferenced (.inr ⟨t, ?_, hid⟩)⟩
  rw [hrem.book] at ht
  exact ht

end Call

namespace Traffic.Run

theorem closed_of_removal (hb : b.store.Sound) (hr : Traffic.Run Call.act b h w)
    (ha : .arrival m (.deleteAccount id) ∈ h) (hx : w.reply? m = some (.deleteAccount (.ok ()))) :
    w.bank.store.Closed id := by
  obtain ⟨stage, hw, hrec⟩ := hr.recorded Call.kept hb
  obtain ⟨f, hf, hends⟩ := hw.ends hx
  have hcall := (hrec.arrival ha).2 f hf
  have hamount := hrec.flight hf
  rw [hcall] at hends hamount
  have hremoved : (stage m).verdict = some (.removed id) := hends.2 rfl
  rw [hremoved] at hamount
  obtain ⟨later, s, s', earlier, hsteps, he, -⟩ := hamount
  have hmem : (s, s') ∈ steps m h := by
    rw [hsteps]
    exact List.mem_append_right _ List.mem_cons_self
  obtain ⟨c, hc⟩ := mem_of_steps hmem
  have hclosed : s'.store.Closed id := Call.closed_of_removed (c := .deleteAccount id) he
  exact (Call.keeps_closed id).run Call.kept hb hr hc hclosed

/-- The bank has never had a transfer that involves a closed account. -/
theorem books_of_closed (hb : b.store.Sound) (hr : Traffic.Run Call.act b h w)
    (hc : w.bank.store.Closed id) : ∀ k ∈ books b h, ∀ t ∈ k.transfers.values, ¬ t.Involves id := by
  intro k hk t ht
  obtain ⟨j, hj⟩ := Table.mem_values.1 ht
  have hlast := (Call.keeps_transfer j t).books (J := fun k => k.transfers.get? j = some t) Call.kept hb hr hk hj
  exact hc.transfers t (Table.mem_values_of_get? hlast)

/-- An order over a closed account has not been carried out. -/
theorem idle_of_closed (hb : b.store.Sound) (hr : Traffic.Run Call.act b h w)
    (hc : w.bank.store.Closed id) (hid : o.source = id ∨ o.target = id) {g : Stage Verdict}
    (hamount : Amount (Call.transfer o terms).effect (steps n h) g.verdict) : g.Idle := by
  intro x hx
  rw [hx] at hamount
  obtain ⟨later, s, s', earlier, hsteps, he, -⟩ := hamount
  cases x with
  | failed cause => exact ⟨cause, rfl⟩
  | opened a => exact he.elim
  | removed k => exact he.elim
  | posted r =>
    exfalso
    have hp : o.Posts terms.overdraft r s.store.book s'.store.book := he.1
    have hnew : s'.store.book.transfers.get? r.transfer.id = some r.transfer := by
      rw [hp.book]
      exact Table.get?_put_self _ _ _
    have hmem : (s, s') ∈ steps n h := by
      rw [hsteps]
      exact List.mem_append_right _ List.mem_cons_self
    obtain ⟨c, hm⟩ := mem_of_steps hmem
    have hlast := (Call.keeps_transfer _ r.transfer).run Call.kept hb hr hm hnew
    obtain ⟨hrs, hrt, -⟩ := hp.records.transfer
    refine hc.transfers r.transfer (Table.mem_values_of_get? hlast) ?_
    rcases hid with hid | hid
    · exact .inl (hrs.trans hid)
    · exact .inr (hrt.trans hid)

theorem bookKept_of_closed (hb : b.store.Sound) (hr : Traffic.Run Call.act b h w)
    (hc : w.bank.store.Closed id) (ha : .arrival n (.transfer o terms) ∈ h)
    (hid : o.source = id ∨ o.target = id) : BookKept (steps n h) := by
  obtain ⟨stage, hw, hrec⟩ := hr.recorded Call.kept hb
  rcases hr.present ha with ⟨f, hf⟩ | ⟨c, hd⟩
  · have hamount := hrec.flight hf
    rw [(hrec.arrival ha).2 f hf] at hamount
    exact Call.bookKept (c := .transfer o terms) hamount (hr.idle_of_closed hb hc hid hamount)
  · exact hr.departure_bookKept hb hd

theorem reply_of_closed (hb : b.store.Sound) (hr : Traffic.Run Call.act b h w)
    (hc : w.bank.store.Closed id) (ha : .arrival n (.transfer o terms) ∈ h)
    (hid : o.source = id ∨ o.target = id) {x : Reply} (hx : w.reply? n = some x) :
    ∃ e, x = .transfer (.error e) := by
  obtain ⟨stage, hw, hrec⟩ := hr.recorded Call.kept hb
  obtain ⟨f, hf, hends⟩ := hw.ends hx
  have hamount := hrec.flight hf
  rw [(hrec.arrival ha).2 f hf] at hends hamount
  have hidle := hr.idle_of_closed hb hc hid hamount
  cases x with
  | transfer r =>
    cases r with
    | error e => exact ⟨e, rfl⟩
    | ok r =>
      generalize stage n = g at hends hidle
      cases hends with
      | posted _ r =>
        obtain ⟨cause, hcause⟩ := hidle _ rfl
        cases hcause
  | _ => exact hends.elim

/-- If nobody interferes with it any more, it comes to a failure. -/
theorem run_of_closed (hb : b.store.Sound) (hr : Traffic.Run Call.act b h w)
    (hx : w.reply? m = some (.deleteAccount (.ok ()))) (hm : .arrival m (.deleteAccount id) ∈ h)
    (ha : .arrival n (.transfer o terms) ∈ h) (hid : o.source = id ∨ o.target = id)
    {f : Flight Call Reply} (hf : w.flights.get? n = some f) :
    ∃ e, (f.rest.run w.bank).value = .transfer (.error e) := by
  have hne : m ≠ n := by
    rintro rfl
    obtain ⟨e, he⟩ := hr.reply_of_closed hb (hr.closed_of_removal hb hm hx) ha hid hx
    cases he
  obtain ⟨h', w', f', hr', hh, -, hf', -, hrest, hothers⟩ :=
    hr.path hf (Timed.path_run f.rest w.bank)
  have hx' : w'.reply? m = some (.deleteAccount (.ok ())) := by
    rw [← hx, reply?, reply?, hothers m hne]
  have hreply : w'.reply? n = some (f.rest.run w.bank).value := by
    obtain ⟨c, rest, units⟩ := f'
    obtain rfl : rest = _ := hrest
    rw [reply?, hf']
  have hc := hr'.closed_of_removal hb (hh.subset hm) hx'
  exact hr'.reply_of_closed hb hc (hh.subset ha) hid hreply

end Traffic.Run

/-- Once an account has been removed, no transfer has ever involved it or ever will: every order over
it, also one that was under way at that moment, comes to a failure and leaves the book as it was. -/
theorem removal_excludes_transfers (hb : b.store.Reachable) (hr : Traffic.Run Call.act b h w)
    (hm : .arrival m (.deleteAccount id) ∈ h) (hx : w.reply? m = some (.deleteAccount (.ok ()))) :
    (∀ k ∈ Traffic.books b h, ∀ t ∈ k.transfers.values, ¬ t.Involves id) ∧
      (∀ t ∈ w.bank.store.book.transfers.values, ¬ t.Involves id) ∧
      ∀ n o terms, .arrival n (.transfer o terms) ∈ h → o.source = id ∨ o.target = id →
        BookKept (Traffic.steps n h) ∧
          (∀ x, w.reply? n = some x → ∃ e, x = .transfer (.error e)) ∧
          ∀ f, w.flights.get? n = some f → ∃ e, (f.rest.run w.bank).value = .transfer (.error e) := by
  have hs := hb.sound
  have hc := hr.closed_of_removal hs hm hx
  refine ⟨hr.books_of_closed hs hc, hc.transfers, fun n o terms ha hid => ⟨?_, fun x hreply => ?_, fun f hf => ?_⟩⟩
  · exact hr.bookKept_of_closed hs hc ha hid
  · exact hr.reply_of_closed hs hc ha hid hreply
  · exact hr.run_of_closed hs hx hm ha hid hf

/-- An account is removed while a transfer to it is staged; the transfer comes to a failure. -/
theorem removal_during_transfer : ∃ h w f, Traffic.Run Call.act ⟨.pair .none, [], []⟩ h w ∧
    w.reply? 0 = some (.deleteAccount (.ok ())) ∧ w.flights.get? 1 = some f ∧
    (w.bank.store.draft 3).transfers.map (·.target) = [2] ∧
    ∃ e, (f.rest.run w.bank).value = .transfer (.error e) := by
  have hr : Traffic.Run Call.act ⟨.pair .none, [], []⟩ [] (.quiet _) := .start
  have hr₁ := (hr.step (.arrival (.deleteAccount 2))).step (.arrival (.transfer ⟨1, 2, 30⟩ ⟨false, none⟩))
  -- a unit of work is opened and the transfer is staged in 7 steps
  obtain ⟨h₂, w₂, f₂, hr₂, hh₂, hb₂, hf₂, -, -, hothers⟩ :=
    hr₁.path (Table.get?_put_self _ 1 _) (Timed.path_ahead 7 _ _)
  have hf : w₂.flights.get? 0 = some ⟨.deleteAccount 2, (Call.deleteAccount 2).act, []⟩ :=
    hothers 0 (by decide)
  obtain ⟨h₃, w₃, ⟨c, rest, units⟩, hr₃, hh₃, hb₃, hf₃, -, hrest, hothers'⟩ :=
    hr₂.path hf (Timed.path_run _ _)
  obtain rfl : rest = _ := hrest
  rw [hb₂] at hb₃ hf₃
  have hx : w₃.reply? 0 = some (.deleteAccount (.ok ())) := by
    rw [Traffic.reply?, hf₃]
    rfl
  have hdraft : (w₃.bank.store.draft 3).transfers.map (·.target) = [2] := by
    rw [hb₃]
    rfl
  have hf' : w₃.flights.get? 1 = some f₂ := (hothers' 1 (by decide)).trans hf₂
  have hmem := fun e he => hh₃.subset (hh₂.subset (a := e) he)
  have hm : .arrival 0 (.deleteAccount 2) ∈ h₃ := hmem _ (List.mem_cons_of_mem _ List.mem_cons_self)
  have ha : .arrival 1 (.transfer ⟨1, 2, 30⟩ ⟨false, none⟩) ∈ h₃ := hmem _ List.mem_cons_self
  have h := removal_excludes_transfers (b := ⟨.pair .none, [], []⟩) (Store.reachable_pair .none) hr₃ hm hx
  exact ⟨h₃, w₃, f₂, hr₃, hx, hf', hdraft, (h.2.2 1 _ _ ha (.inr rfl)).2.2 f₂ hf'⟩

end Teller
