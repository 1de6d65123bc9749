import Teller.Proofs.Gateway.Confidential
import Teller.Proofs.Holder.Opening
import Teller.Proofs.Ledger.Reading
import Teller.Proofs.Ledger.Referring
import Teller.Proofs.Ledger.Unique
import Teller.Proofs.Page
import Teller.Proofs.Transfer.Objection

/-!
# What an owner can do with an account that has just been opened

An account is opened for a name without the blanks around it, and the other calls compare names as they are given. So
the new account is the principal's own in every respect (`Bank.Usable`) for the trimmed name, and somebody else's
(`Bank.Barred`) for any other, also for the very text that it has been opened with. Over HTTP nobody meets this,
since a principal is trimmed there first.
-/

namespace Teller

/-! ### Calls of a principal that are alone -/

namespace Holder

variable {b : Bank} {p : String} {id number size : Int} {pg : Page}

theorem page_first_five : page 1 5 = .ok ⟨5, 0⟩ := by
  decide

theorem gives_page (h : page number size = .ok pg) :
    Attempt.Gives (ExceptT.mk (pure (page number size))) b (.ok pg) b.store := by
  rw [h]
  exact .done rfl _

theorem gives_account (hr : b.refusals = []) (p : String) (id : Int) :
    (account p id).Gives b (b.store.book.shown p id) b.store := by
  rw [account_eq]
  have hreceive := Bank.gives_receive (Bank.refusal?_of_nil hr .account (some id))
  exact (hreceive.mapError _).bind_ok fun b' hs _ => .of_store (hs ▸ rfl)

theorem gives_accounts (hr : b.refusals = []) (h : page number size = .ok pg) (p : String) :
    (accounts p number size).Gives b (.ok (pg.cut (b.store.book.accountsOf p))) b.store := by
  refine (gives_page h).bind_ok fun b' hs hr' => ?_
  have hread := Bank.gives_read (f := fun s => .ok (pg.cut (s.book.accountsOf p)))
    (Bank.refusal?_of_nil (hr'.trans hr) .accounts none)
  rw [hs] at hread
  exact hread.mapError AccountError.store

theorem gives_entries (hr : b.refusals = []) (h : page number size = .ok pg) {a : Account}
    (hshown : b.store.book.shown p id = .ok a) :
    (entries p id number size).Gives b (.ok (pg.cut (b.store.book.entriesOf id))) b.store := by
  refine (gives_page h).bind_ok fun b' hs hr' => ?_
  have haccount := gives_account (hr'.trans hr) p id
  rw [hs, hshown] at haccount
  refine haccount.bind_ok fun b'' hs' hr'' => ?_
  have hread := Bank.gives_read (f := fun s => .ok (pg.cut (s.book.entriesOf id)))
    (Bank.refusal?_of_nil (hr''.trans (hr'.trans hr)) .entries (some id))
  rw [hs'] at hread
  exact hread.mapError AccountError.store

theorem gives_entries_of_error (hr : b.refusals = []) (h : page number size = .ok pg) {e : AccountError}
    (hshown : b.store.book.shown p id = .error e) : (entries p id number size).Gives b (.error e) b.store := by
  refine (gives_page h).bind_ok fun b' hs hr' => ?_
  have haccount := gives_account (hr'.trans hr) p id
  rw [hs, hshown] at haccount
  exact haccount.bind_error

theorem gives_deleteAccount (hr : b.refusals = []) (hfree : b.store.Free none id) {a : Account}
    (hshown : b.store.book.shown p id = .ok a) {s : Store} (hremove : b.store.remove id = (.ok (), s)) :
    (deleteAccount p id).Gives b (.ok ()) s := by
  have haccount := gives_account hr p id
  rw [hshown] at haccount
  refine haccount.bind_ok fun b' hs hr' => ?_
  have hdelete : (Bank.deleteAccount id).Gives b' (.ok ()) s := by
    have hreceive := Bank.gives_receive (Bank.refusal?_of_nil (hr'.trans hr) .deleteAccount (some id))
    refine hreceive.bind_ok fun b'' hs' _ => ?_
    exact Bank.gives_onceFree (by rw [hs', hs]; exact hfree) (by rw [hs', hs, hremove])
  refine (hdelete.mapError _).bind_ok fun b'' hs' _ => ?_
  have hnoted : Attempt.Gives (.sure (.note (.accountDeleted id p)) : Attempt AccountError Unit) b'' (.ok ())
    b''.store := .of_sure rfl
  rwa [hs'] at hnoted

theorem gives_deleteAccount_of_error (hr : b.refusals = []) {e : AccountError}
    (hshown : b.store.book.shown p id = .error e) : (deleteAccount p id).Gives b (.error e) b.store := by
  have haccount := gives_account hr p id
  rw [hshown] at haccount
  exact haccount.bind_error

theorem accounts_eq_ok (hr : b.refusals = []) {as : List Account}
    (h : ((accounts p number size).run.run b).value = .ok as) :
    ∃ pg, page number size = .ok pg ∧ as = pg.cut (b.store.book.accountsOf p) := by
  cases hpage : page number size with
  | error e =>
    have hrefused : Attempt.Gives (ExceptT.mk (pure (page number size))) b (.error e) b.store := by
      rw [hpage]
      exact .done rfl _
    cases h.symm.trans hrefused.bind_error.value
  | ok pg => exact ⟨pg, rfl, Except.ok.inj (h.symm.trans (gives_accounts hr hpage p).value)⟩

end Holder

/-! ### Accounts of one's own and of others -/

/-- The request is to pay from the account to another one that is held in its currency. -/
structure TransferRequest.PaysFrom (r : TransferRequest) (a : Account) (b : Book) : Prop where
  source : r.source = a.id
  currency : r.currency = a.currency.code
  amount : 0 < r.amount
  distinct : r.target ≠ a.id
  target : ∃ x, b.accounts.get? r.target = some x ∧ x.currency = a.currency

/-- All that may be objected to is that the account is somebody else's. -/
theorem TransferRequest.PaysFrom.objection?_eq {r : TransferRequest} {a : Account} {b : Book} (h : r.PaysFrom a b)
    (ha : b.accounts.get? a.id = some a) :
    r.objection? b = if a.owner = r.principal then none else some (.forbidden a.id) := by
  obtain ⟨principal, source, target, amount, currency⟩ := r
  obtain ⟨hsource, hcurrency, hamount, hdistinct, x, hx, hxa⟩ := h
  dsimp only at hsource hcurrency hamount hdistinct hx
  subst hsource hcurrency
  have hsupported : ∃ c ∈ Currency.all, c.code = a.currency.code := ⟨_, a.currency.mem_all, rfl⟩
  simp only [objection?, objections, missing?, mismatch?, foreign?, hamount, hsupported, hdistinct.symm, ha, hx, hxa,
    if_true, if_false, List.findSome?_cons, List.findSome?_nil, id_eq]
  by_cases howner : a.owner = principal
  · rw [if_pos howner]
  · rw [if_neg howner]

/-- The guard lets the principal pay from an account exactly if it is the principal's own. -/
theorem TransferRequest.PaysFrom.value_check {r : TransferRequest} {a : Account} {b : Bank}
    (h : r.PaysFrom a b.store.book) (hs : b.store.Sound) (hr : b.refusals = [])
    (ha : b.store.book.accounts.get? a.id = some a) :
    (r.check.run.run b).value = if a.owner = r.principal then .ok r.order else .error (.forbidden a.id) := by
  have hrun : r.check.run.run b = ⟨[], verdict (r.objection? b.store.book) r.order, b⟩ :=
    tells_check hs (fun k => Bank.refusal?_of_nil hr .account (some k)) r
  rw [hrun, h.objection?_eq ha]
  by_cases howner : a.owner = r.principal
  · rw [if_pos howner, if_pos howner]
    rfl
  · rw [if_neg howner, if_neg howner]
    rfl

theorem Book.shown_own {book : Book} {a : Account} (ha : book.accounts.get? a.id = some a) :
    book.shown a.owner a.id = .ok a := by
  rw [Book.shown, ha]
  exact if_pos rfl

theorem Book.shown_other {book : Book} {p : String} {a : Account} (ha : book.accounts.get? a.id = some a)
    (hp : p ≠ a.owner) : book.shown p a.id = .error (.forbidden a.id) := by
  rw [Book.shown, ha]
  exact if_neg (Ne.symm hp)

namespace Bank

/-- The account is the principal's, and it has no entries yet: it can be read, stands on the first page of the
principal's accounts, can be paid from and can be deleted. -/
structure Usable (b : Bank) (p : String) (a : Account) : Prop where
  read : ((Holder.account p a.id).run.run b).value = .ok a
  listed : ∀ size, Holder.leastPageSize ≤ size → size ≤ Holder.greatestPageSize →
    (∃ as, ((Holder.accounts p 1 size).run.run b).value = .ok as ∧ as.count a = 1) ∧
      ∀ number as, 1 < number → ((Holder.accounts p number size).run.run b).value = .ok as → a ∉ as
  entries : ((Holder.entries p a.id 1 5).run.run b).value = .ok []
  pays : ∀ r : TransferRequest, r.principal = p → r.PaysFrom a b.store.book → (r.check.run.run b).value = .ok r.order
  deleted : ((Holder.deleteAccount p a.id).run.run b).value = .ok ()

/-- The account is there, but the principal is shown nothing of it and can do nothing with it. -/
structure Barred (b : Bank) (p : String) (a : Account) : Prop where
  read : ((Holder.account p a.id).run.run b).value = .error (.forbidden a.id)
  listed : ∀ number size as, ((Holder.accounts p number size).run.run b).value = .ok as → a ∉ as
  entries : ((Holder.entries p a.id 1 5).run.run b).value = .error (.forbidden a.id)
  pays : ∀ r : TransferRequest, r.principal = p → r.PaysFrom a b.store.book →
    (r.check.run.run b).value = .error (.forbidden a.id)
  deleted : ((Holder.deleteAccount p a.id).run.run b).value = .error (.forbidden a.id)

variable {b : Bank} {p : String} {a : Account} {r : TransferRequest}

/-- The first page has all the accounts that a principal can have. -/
theorem accounts_of_reachable (hb : b.store.Reachable) (hr : b.refusals = []) {number size : Int}
    {as : List Account} (h : ((Holder.accounts p number size).run.run b).value = .ok as) :
    as = if number = 1 then b.store.book.accountsOf p else [] := by
  obtain ⟨pg, hpage, rfl⟩ := Holder.accounts_eq_ok hr h
  obtain ⟨⟨hnumber, hleast, -⟩, -, rfl⟩ := Holder.page_eq_ok_iff.1 hpage
  have hlength : (b.store.book.accountsOf p).length ≤ 3 := hb.length_accountsOf_le p
  have hsize : 5 ≤ size := hleast
  unfold Page.cut
  dsimp only
  split
  · rename_i hone
    subst hone
    rw [List.take_of_length_le (by simp; omega)]
    simp
  · have hoffset : size ≤ (number - 1) * size := by
      calc size = 1 * size := (Int.one_mul size).symm
        _ ≤ (number - 1) * size := Int.mul_le_mul_of_nonneg_right (by omega) (by omega)
    rw [List.drop_of_length_le (by omega), List.take_nil]

theorem usable_of_owner (hb : b.store.Reachable) (hd : b.store.drafts = .empty) (hr : b.refusals = [])
    (ha : b.store.book.accounts.get? a.id = some a) (hnew : ¬ b.store.book.Refers a.id) : b.Usable a.owner a := by
  have hshown := Book.shown_own ha
  have hentries : b.store.book.entriesOf a.id = [] := by
    refine List.filter_eq_nil_iff.2 fun e he hea => hnew (.inl ⟨e, he, of_decide_eq_true hea⟩)
  have hremove : b.store.remove a.id = (.ok (), (b.store.remove a.id).2) := by
    have hcontains := Table.contains_iff.2 ⟨a, ha⟩
    unfold Store.remove
    rw [if_neg (not_not_intro hcontains), if_neg hnew]
  constructor
  case read =>
    rw [(Holder.gives_account hr a.owner a.id).value, hshown]
  case listed =>
    intro size hleast hgreatest
    have hpage : Holder.page 1 size = .ok ⟨size, 0⟩ := by
      refine Holder.page_eq_ok_iff.2 ⟨⟨Int.le_refl _, hleast, hgreatest⟩, ⟨by decide, by simp; decide⟩, by simp⟩
    have hfirst := (Holder.gives_accounts hr hpage a.owner).value
    refine ⟨⟨_, hfirst, ?_⟩, fun number as hnumber has => ?_⟩
    · rw [accounts_of_reachable hb hr hfirst, if_pos rfl]
      exact List.count_eq_one_of_mem (hb.sound.nodup_accountsOf _)
        (List.mem_filter.2 ⟨Table.mem_values_of_get? ha, decide_eq_true rfl⟩)
    · rw [accounts_of_reachable hb hr has, if_neg (by omega)]
      exact List.not_mem_nil
  case entries =>
    rw [(Holder.gives_entries hr Holder.page_first_five hshown).value, hentries]
    rfl
  case pays =>
    intro r hp hpays
    rw [hpays.value_check hb.sound hr ha, if_pos hp.symm]
  case deleted =>
    exact (Holder.gives_deleteAccount hr (free_of_drafts hd a.id) hshown hremove).value

theorem barred_of_ne (hs : b.store.Sound) (hr : b.refusals = []) (ha : b.store.book.accounts.get? a.id = some a)
    (hp : p ≠ a.owner) : b.Barred p a := by
  have hshown := Book.shown_other ha hp
  constructor
  case read =>
    rw [(Holder.gives_account hr p a.id).value, hshown]
  case listed =>
    intro number size as has hmem
    obtain ⟨pg, -, rfl⟩ := Holder.accounts_eq_ok hr has
    exact hp (of_decide_eq_true (List.mem_filter.1 (Page.mem_of_mem_cut hmem)).2).symm
  case entries =>
    exact (Holder.gives_entries_of_error hr Holder.page_first_five hshown).value
  case pays =>
    intro r hprincipal hpays
    rw [hpays.value_check hs hr ha, if_neg (hprincipal ▸ hp.symm)]
  case deleted =>
    exact (Holder.gives_deleteAccount_of_error hr hshown).value

theorem Usable.not_barred (h : b.Usable p a) : ¬ b.Barred p a := by
  intro hbarred
  cases h.read.symm.trans hbarred.read

end Bank

namespace Holder

theorem reachable_openAccount {b : Bank} (hb : b.store.Reachable) (owner currency : String) :
    ((openAccount owner currency).run.run b).state.store.Reachable := by
  have hcall := Call.reachable_run hb (.openAccount owner currency)
  rw [Call.act] at hcall
  generalize openAccount owner currency = m at hcall ⊢
  rw [Timed.run_bind] at hcall
  exact hcall

/-- The account is there when it has been opened, for the trimmed name, and nothing refers to it. -/
theorem account_of_opening {b : Bank} (hb : b.store.Reachable) (hd : b.store.drafts = .empty) (hr : b.refusals = [])
    {owner currency : String} {a : Account} (h : ((openAccount owner currency).run.run b).value = .ok a) :
    ∃ b', ((openAccount owner currency).run.run b).state = b' ∧ b'.store.Reachable ∧ b'.store.drafts = .empty ∧
      b'.refusals = [] ∧ b'.store.book.accounts.get? a.id = some a ∧ ¬ b'.store.book.Refers a.id ∧
      a.owner = Text.trim owner := by
  obtain ⟨r, s, ⟨hvalue, hstore, hrefusals⟩, hopens, hdrafts⟩ :=
    gives_openAccount hb.sound (Bank.refusal?_of_nil hr .opening none) owner currency
  obtain rfl : .ok a = r := h.symm.trans hvalue
  obtain ⟨hunused, howner, -, -, hbook⟩ := hopens.of_ok
  have hb' := reachable_openAccount hb owner currency
  generalize ((openAccount owner currency).run.run b).state = b' at hstore hrefusals hb' ⊢
  refine ⟨b', rfl, hb', ?_, hrefusals.trans hr, ?_, ?_, howner⟩
  · rw [hstore, hdrafts, hd]
  · rw [hstore, hbook]
    exact Table.get?_put_self _ _ _
  · rw [hstore, hbook]
    exact hb.not_refers hunused

/-- An account that has just been opened is usable for the trimmed name and barred for all others. So it is usable
for the very text that it has been opened with exactly if there are no blanks around the name. -/
theorem usable_iff_trimmed {b : Bank} (hb : b.store.Reachable) (hd : b.store.drafts = .empty) (hr : b.refusals = [])
    {owner currency : String} {a : Account} (h : ((openAccount owner currency).run.run b).value = .ok a) :
    let b' := ((openAccount owner currency).run.run b).state
    b'.Usable (Text.trim owner) a ∧ (∀ p, p ≠ Text.trim owner → b'.Barred p a) ∧
      (b'.Usable owner a ↔ Text.trim owner = owner) := by
  obtain ⟨b', hstate, hb', hd', hr', ha, hnew, howner⟩ := account_of_opening hb hd hr h
  rw [hstate]
  have husable : b'.Usable (Text.trim owner) a := howner ▸ Bank.usable_of_owner hb' hd' hr' ha hnew
  have hbarred (p : String) (hp : p ≠ Text.trim owner) : b'.Barred p a :=
    Bank.barred_of_ne hb'.sound hr' ha (howner ▸ hp)
  refine ⟨husable, hbarred, fun hself => ?_, fun htrim => ?_⟩
  · by_contra hne
    exact hself.not_barred (hbarred owner (Ne.symm hne))
  · rw [htrim] at husable
    exact husable

/-- Ann opens an account with blanks around her name, and it is hers without them only: under that name she may pay
Bob from it, who has an account in the same currency. -/
theorem ann_uses_new_account :
    let b : Bank := ((openAccount "bob" "USD").run.run (.new (.millis 5000) .epoch)).state
    let t := (openAccount " ann " "USD").run.run b
    let a : Account := ⟨2, "ann", 0, .usd, .epoch⟩
    let r (p : String) : TransferRequest := ⟨p, 2, 1, 5, "USD"⟩
    t.value = .ok a ∧ t.state.Usable "ann" a ∧ t.state.Barred " ann " a ∧ ¬ t.state.Usable " ann " a ∧
      (∀ p, (r p).PaysFrom a t.state.store.book) ∧
      ((r "ann").check.run.run t.state).value = .ok ⟨2, 1, 5⟩ ∧
      ((r " ann ").check.run.run t.state).value = .error (.forbidden 2) := by
  intro b t a r
  have hopened : ((openAccount "bob" "USD").run.run (.new (.millis 5000) .epoch)).value =
      .ok ⟨1, "bob", 0, .usd, .epoch⟩ := by decide +kernel
  obtain ⟨_, rfl, hb, hdrafts, hrefusals, -⟩ := account_of_opening (.new _ _) rfl rfl hopened
  have hvalue : ((openAccount " ann " "USD").run.run b).value = .ok a := by decide +kernel
  have htrim : Text.trim " ann " = "ann" := by decide +kernel
  have h := usable_iff_trimmed hb hdrafts hrefusals hvalue
  have husable : t.state.Usable "ann" a := htrim ▸ h.1
  have hbarred : t.state.Barred " ann " a := h.2.1 " ann " (by decide +kernel)
  have hbob : t.state.store.book.accounts.get? 1 = some ⟨1, "bob", 0, .usd, .epoch⟩ := by decide +kernel
  have hpays (p : String) : (r p).PaysFrom a t.state.store.book :=
    ⟨rfl, rfl, show (0 : Int) < 5 by decide, show (1 : Int) ≠ 2 by decide, _, hbob, rfl⟩
  exact ⟨hvalue, husable, hbarred, fun hself => hself.not_barred hbarred, hpays, husable.pays _ rfl (hpays _),
    hbarred.pays _ rfl (hpays _)⟩

/-- So not everybody can use an account with the text that it has been opened with. -/
theorem unusable_for_spaced_name :
    let b : Bank := .new (.millis 5000) .epoch
    let t := (openAccount " ann " "USD").run.run b
    let a : Account := ⟨1, "ann", 0, .usd, .epoch⟩
    (b.store.Reachable ∧ b.store.drafts = .empty ∧ b.store.faults = .none ∧ b.refusals = []) ∧ t.value = .ok a ∧
      ((account " ann " a.id).run.run t.state).value = .error (.forbidden a.id) ∧
      ((accounts " ann " 1 5).run.run t.state).value = .ok [] ∧
      ((entries " ann " a.id 1 5).run.run t.state).value = .error (.forbidden a.id) ∧
      ((deleteAccount " ann " a.id).run.run t.state).value = .error (.forbidden a.id) ∧ ¬ t.state.Usable " ann " a := by
  intro b t a
  have hread : ((account " ann " a.id).run.run t.state).value = .error (.forbidden a.id) := by decide +kernel
  refine ⟨⟨.new _ _, rfl, rfl, rfl⟩, by decide +kernel, hread, by decide +kernel, by decide +kernel,
    by decide +kernel, fun husable => ?_⟩
  cases hread.symm.trans husable.read

/-- The principal of a request over HTTP has no blanks around the name, and can use the accounts opened for it. -/
theorem usable_of_principal {b : Bank} (hb : b.store.Reachable) (hd : b.store.drafts = .empty) (hr : b.refusals = [])
    {r : Gateway.Request} {p currency : String} (hp : r.principal? = some p) {a : Account}
    (h : ((openAccount p currency).run.run b).value = .ok a) :
    ((openAccount p currency).run.run b).state.Usable p a := by
  obtain ⟨b', hstate, hb', hd', hr', ha, hnew, howner⟩ := account_of_opening hb hd hr h
  have hself : a.owner = p := howner.trans (Gateway.Request.trim_of_principal? hp)
  rw [hstate, ← hself]
  exact Bank.usable_of_owner hb' hd' hr' ha hnew

end Holder

end Teller
